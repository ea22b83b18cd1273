import LogThrottle.Proofs.Reporting.Books
import LogThrottle.Proofs.Tallying.Steps

/-! Lines, tallies and external counters agree on every run without failures. What a sink took is what the
loggers with that sink counted as allowed, as digests and as overflows; what a counter counted are the calls
made on the loggers with that counter. -/
namespace LogThrottle

namespace Action

/-- Actions that tallies may count: events, and lookups, each of which may overflow a catalogue. -/
def tallied : Action → Bool
  | log .. | logThrough .. | emit .. | attempt _ | lookup .. => true
  | _ => false

/-- The logger and the severity of a logging call. -/
def logged? (s : System) : Action → Option (LoggerId × Severity)
  | log l severity _ _ => some (l, severity)
  | logThrough t severity _ => some ((s.throttle t).logger, severity)
  | emit t _ => some ((s.throttle t).logger, (s.throttle t).topic.voice)
  | _ => none

end Action

namespace System
open Call

/-- The loggers that are made with something. -/
def loggersWith (s : System) (p : Logger → Prop) [DecidablePred p] : Finset LoggerId :=
  (Finset.range s.loggers.size).filter fun l => p (s.logger l)

/-- The logging calls of a run, oldest first. -/
def logged (s : System) : List Action → List (LoggerId × Severity)
  | [] => []
  | a :: as => (a.logged? s).toList ++ logged (s.after a) as

theorem logged_append (s : System) (as bs : List Action) :
    s.logged (as ++ bs) = s.logged as ++ (s.run as).logged bs := by
  induction as generalizing s with
  | nil => rfl
  | cons a as ih =>
    rw [List.cons_append, logged, logged, ih, List.append_assoc]
    rfl

theorem logged_snoc (s : System) (as : List Action) (a : Action) :
    s.logged (as ++ [a]) = s.logged as ++ (a.logged? (s.run as)).toList := by
  rw [logged_append, logged, logged, List.append_nil]

theorem length_logged_le (s : System) (as : List Action) : (s.logged as).length ≤ as.countP Action.tallied := by
  induction as generalizing s with
  | nil => exact Nat.le_refl 0
  | cons a as ih =>
    have first : (a.logged? s).toList.length ≤ if a.tallied then 1 else 0 := by
      cases a <;> simp [Action.logged?, Action.tallied]
    rw [logged, List.length_append, List.countP_cons, Nat.add_comm]
    exact Nat.add_le_add (ih _) first

variable {calls : List (LoggerId × Severity)} {n : Nat} {s : System}

theorem kept_empty : Kept none [] 0 0 {} where
  calm := ⟨fun _ _ _ => rfl, fun _ => ⟨rfl, fun _ => rfl⟩, fun _ _ _ => rfl⟩
  owner _ made := absurd made (Nat.not_lt_zero _)
  counter _ made := absurd made (Nat.not_lt_zero _)
  addressed _ old := absurd old List.not_mem_nil
  tally _ column := by cases column <;> rfl
  digests := Nat.le_refl 0
  overflows := Nat.le_refl 0
  caller _ called := absurd called List.not_mem_nil
  decided _ := ⟨0, rfl, rfl⟩
  counted _ _ := rfl

section Making

theorem counter_of_plan {p : Plan} {x : Logger} (h : p.logger = .ok x) : x.counter = p.counter := by
  unfold Plan.logger at h
  split at h
  · cases h
  · split at h
    · obtain rfl := Except.ok.inj h
      rfl
    · cases h

/-- A new counter has counted nothing. -/
private theorem kept_addCounter {fault : Nat → String → Option Fault}
    (quiet : (Action.addCounter fault).Calm s) (h : Kept none calls n n s) :
    Kept none calls n n (s.after (.addCounter fault)) := by
  have size : s.counters.size ≤ (s.after (.addCounter fault)).counters.size :=
    Nat.le_of_lt (Nat.lt_of_lt_of_eq (Nat.lt_succ_self _) (Array.size_push _).symm)
  have idles : Idles s (s.after (.addCounter fault)) := { Idles.refl s with
    counters := size
    counts := fun c => by
      rw [counter_addCounter]
      split
      · rename_i new
        rw [counter, getD_of_size_le (Nat.le_of_eq new.symm)]
        rfl
      · rfl }
  exact h.idles idles (h.toWired.extends idles.toExtends (calm_addCounter h.calm quiet) rfl rfl)

/-- A new logger has counted nothing. -/
private theorem kept_build {p : Plan} (ready : (Action.build p).Ready s) (h : Kept none calls n n s) :
    Kept none calls n n (s.after (.build p)) := by
  rw [after_build]
  cases planned : p.logger with
  | error => exact h
  | ok x =>
    let s' : System := { s with
      loggers := s.loggers.push x
      holders := ⟨.logger s.loggers.size, p.roster⟩ :: s.holders }
    change Kept none calls n n s'
    have read (l : LoggerId) : s'.logger l = if l = s.loggers.size then x else s.logger l := getD_push ..
    have size : s'.loggers.size = s.loggers.size + 1 := Array.size_push _
    have idles : Idles s s' := { Idles.refl s with
      loggers := size ▸ Nat.le_succ _
      settings := fun l old => by rw [read, if_neg (Nat.ne_of_lt old)]
      tally := fun l => by
        rw [read]
        split
        · rename_i new
          rw [(fresh_of_plan planned).2.2, logger_of_size_le (Nat.le_of_eq new.symm)]
          rfl
        · rfl }
    refine h.idles idles ⟨⟨h.calm.sink, h.calm.stopwatch, h.calm.counter⟩, fun t made => ?_, fun l made c own => ?_⟩
    · rw [size]
      exact Nat.lt_succ_of_lt (h.owner t made)
    · rw [size] at made
      rw [read] at own
      split at own
      · rw [counter_of_plan planned] at own
        exact ready.2.2.2 c own
      · rename_i old
        exact h.counter l (Nat.lt_of_le_of_ne (Nat.le_of_lt_succ made) old) c own

end Making

variable {a : Action}

private theorem kept_untallied (ready : a.Ready s) (quiet : a.Calm s) (standing : ∀ l, a ≠ .resetTally l)
    (untallied : a.tallied = false) (h : Kept none calls n n s) : Kept none calls n n (s.after a) := by
  cases a with
  | addSink => exact kept_of_same h (calm_addSink h.calm quiet) rfl rfl rfl rfl
  | addStopwatch => exact kept_of_same h (calm_addStopwatch h.calm quiet) rfl rfl rfl rfl
  | addCounter => exact kept_addCounter quiet h
  | openRoster => exact kept_of_same h ⟨h.calm.sink, h.calm.stopwatch, h.calm.counter⟩ rfl rfl rfl rfl
  | build => exact kept_build ready h
  | move w m =>
    rw [after_move]
    exact kept_of_same h (calm_move h.calm quiet) rfl rfl rfl rfl
  | enrol r t => exact kept_enrol r t s h
  | flush r => exact kept_flush r s h
  | shutdown r => exact closing_kept.shutdown r s h
  | fire r period => exact kept_resetAll _ s h
  | guard | share => exact kept_of_same h ⟨h.calm.sink, h.calm.stopwatch, h.calm.counter⟩ rfl rfl rfl rfl
  | release x => exact closing_kept.release x s h
  | resetTally l => exact absurd rfl (standing l)
  | log | logThrough | emit | lookup | attempt => cases untallied

/-- An action enters its call in the books, if it is one, and what it may have tallied. -/
private theorem kept_tallied (sound : Sound s) (ready : a.Ready s) (quiet : a.Calm s) (tallied : a.tallied = true)
    (h : Kept none calls n n s) : Kept none (calls ++ (a.logged? s).toList) (n + 1) (n + 1) (s.after a) := by
  cases a with
  | log l severity template args =>
    obtain ⟨t, s', he, made, own, kept⟩ := kept_lookup sound (sound.held ready).1 { template } h
    have logs := kept_logThrough made severity quiet kept
    rw [own] at logs
    rw [after, Action.perform, log, exec_bind, he]
    exact logs
  | logThrough t severity args =>
    exact (kept_logThrough ready severity quiet h).mono (Nat.le_refl _) (Nat.le_succ n)
  | emit t args =>
    rw [after_emit]
    exact (kept_logThrough ready _ quiet h).mono (Nat.le_refl _) (Nat.le_succ n)
  | lookup l topic =>
    obtain ⟨t, s', he, _, _, kept⟩ := kept_lookup sound (sound.held ready).1 topic h
    rw [after, Action.perform, he]
    exact (List.append_nil calls).symm ▸ kept.mono (Nat.le_succ n) (Nat.le_refl _)
  | attempt t =>
    exact (List.append_nil calls).symm ▸ (kept_attempt ready h).mono (Nat.le_refl _) (Nat.le_succ n)
  | _ => cases tallied

/-- The books of a run are kept. -/
theorem kept_run {as : List Action}
    (orderly : System.Along (fun s a => a.Ready s ∧ a.Calm s ∧ ∀ l, a ≠ .resetTally l) {} as) :
    Kept none (System.logged {} as) (as.countP Action.tallied) (as.countP Action.tallied) (System.run {} as) := by
  induction as using List.reverseRecOn with
  | nil => exact kept_empty
  | append_singleton as a ih =>
    obtain ⟨earlier, ready, quiet, standing⟩ := along_snoc.mp orderly
    have sound := sound_run (earlier.mono fun _ _ h => h.1)
    rw [run_snoc, logged_snoc, List.countP_append, List.countP_singleton]
    cases tallied : a.tallied with
    | true => exact kept_tallied sound ready quiet tallied (ih earlier)
    | false =>
      have silent : a.logged? (System.run {} as) = none := by
        cases a with
        | log | logThrough | emit => cases tallied
        | _ => rfl
      rw [silent, Option.toList_none, List.append_nil]
      exact kept_untallied ready quiet standing tallied (ih earlier)

section Sums

/-- Pairs are counted by their first parts, one after the other. -/
private theorem countP_fst {β : Type} {xs : List (Nat × β)} {m : Nat} (bound : ∀ x ∈ xs, x.1 < m)
    (p : Nat → Prop) [DecidablePred p] :
    xs.countP (fun x => p x.1) = ∑ i ∈ (Finset.range m).filter p, xs.countP (·.1 = i) := by
  induction xs with
  | nil => simp
  | cons x xs ih =>
    have here : x.1 < m := bound x List.mem_cons_self
    have rest := ih fun y hy => bound y (List.mem_cons_of_mem x hy)
    simp only [List.countP_cons, Finset.sum_add_distrib, rest, decide_eq_true_eq, Finset.sum_ite_eq,
      Finset.mem_filter, Finset.mem_range, here, true_and]

private theorem countP_columns (xs : List (LoggerId × Tally.Column)) (l : LoggerId) :
    xs.countP (·.1 = l) = xs.count (l, .allowed) + xs.count (l, .digests) + xs.count (l, .overflows) := by
  induction xs with
  | nil => rfl
  | cons x xs ih =>
    obtain ⟨i, column⟩ := x
    rw [List.countP_cons, List.count_cons, List.count_cons, List.count_cons, ih]
    by_cases own : i = l
    · cases column <;> simp [own] <;> omega
    · simp [own]

private theorem sum_severities (calls : List (LoggerId × Severity)) (p : LoggerId → Prop) [DecidablePred p] :
    (Severity.all.map fun severity => calls.countP fun x => p x.1 ∧ x.2 = severity).sum =
      calls.countP fun x => p x.1 := by
  induction calls with
  | nil => rfl
  | cons x calls ih =>
    obtain ⟨l, severity⟩ := x
    simp only [Severity.all, List.map_cons, List.map_nil, List.sum_cons, List.sum_nil, List.countP_cons,
      Bool.decide_and] at ih ⊢
    by_cases called : p l
    · cases severity <;> simp [called] <;> omega
    · simp [called]
      omega

variable {k : SinkId} {w : Nat}

/-- What a sink took are the postings of the loggers with that sink. -/
private theorem length_delivered (h : Posted none n w s) :
    (s.delivered k).length = s.posts.countP fun x => (s.logger x.1).sink = k := by
  rw [delivered, List.length_filterMap_eq_countP, posts, List.countP_filterMap]
  refine List.countP_congr fun x old => ?_
  have proper := h.addressed x old
  cases x with
  | notice => rfl
  | line o i line =>
    cases o with
    | caller | failure => exact proper.elim
    | event t | digest t | overflow l =>
      simp only [Entry.line?, Entry.post?, Option.map_some, Option.getD_some, proper.2]
      by_cases own : i = k <;> simp [own]

private theorem Kept.posted_lt (h : Kept none calls n w s) : ∀ x ∈ s.posts, x.1 < s.loggers.size := by
  intro x hx
  obtain ⟨entry, old, posted⟩ := List.mem_filterMap.mp hx
  have proper := h.addressed entry old
  cases entry with
  | notice => cases posted
  | line o i line =>
    cases o with
    | caller | failure => cases posted
    | event t | digest t =>
      obtain rfl := Option.some.inj posted
      exact h.owner t proper.1
    | overflow l =>
      obtain rfl := Option.some.inj posted
      exact proper.1

end Sums

/-- Severities have names of their own, so the calls under a name are those of its severity. -/
private theorem Called.counted_at (h : Called calls s) (c : CounterId) (severity : Severity) :
    (s.counter c).count severity.counterName =
      calls.countP fun x => (s.logger x.1).counter = some c ∧ x.2 = severity := by
  have own (x : LoggerId × Severity) : x.2.counterName = severity.counterName ↔ x.2 = severity :=
    ⟨Severity.counterName_injective, congrArg Severity.counterName⟩
  simp only [h.counted, own]

section Totals
variable (h : Kept none calls n n s) (few : n < 2 ^ 64) (called : calls.length ≤ n)
include h few called

/-- Below 2^64, a tally is what was posted. -/
private theorem column_eq_count (l : LoggerId) (column : Tally.Column) :
    ((s.logger l).tally.column column).toNat = s.posts.count (l, column) := by
  have tally : (s.logger l).tally.column column = .ofNat (s.posts.count (l, column)) := by
    simpa [debt] using (h.tally l column).symm
  have bound : s.posts.count (l, column) ≤ n := by
    cases column with
    | allowed =>
      obtain ⟨withheld, _, all⟩ := h.decided l
      have := List.countP_le_length (p := fun x : LoggerId × Severity => x.1 = l) (l := calls)
      omega
    | digests =>
      have digests := h.digests
      have : s.posts.count (l, .digests) ≤ s.posts.countP (·.2 = .digests) :=
        List.countP_mono_left fun x _ same => by simp_all
      omega
    | overflows =>
      have overflows := h.overflows
      have : s.posts.count (l, .overflows) ≤ s.posts.countP (·.2 = .overflows) :=
        List.countP_mono_left fun x _ same => by simp_all
      omega
  rw [tally, UInt64.toNat_ofNat', Nat.mod_eq_of_lt (Nat.lt_of_le_of_lt bound few)]

private theorem calls_eq_decided (l : LoggerId) :
    (s.logger l).tally.allowed.toNat + (s.logger l).tally.suppressed.toNat = calls.countP (·.1 = l) := by
  obtain ⟨withheld, suppressed, all⟩ := h.decided l
  have allowed : (s.logger l).tally.allowed.toNat = s.posts.count (l, .allowed) :=
    column_eq_count h few called l .allowed
  have bound := List.countP_le_length (p := fun x : LoggerId × Severity => x.1 = l) (l := calls)
  rw [allowed, suppressed, UInt64.toNat_ofNat', Nat.mod_eq_of_lt (by omega), all]

end Totals

/-- The books, read by what sinks took and what counters show. -/
private theorem lines_and_counters_of_kept (h : Kept none calls n n s) (few : n < 2 ^ 64) (called : calls.length ≤ n) :
    (∀ k, (s.delivered k).length = ∑ l ∈ s.loggersWith (·.sink = k),
      ((s.logger l).tally.allowed.toNat + (s.logger l).tally.digests.toNat + (s.logger l).tally.overflows.toNat)) ∧
    ∀ c, (∀ severity, (s.counter c).count severity.counterName =
        calls.countP fun x => (s.logger x.1).counter = some c ∧ x.2 = severity) ∧
      (Severity.all.map fun severity => (s.counter c).count severity.counterName).sum =
        ∑ l ∈ s.loggersWith (·.counter = some c),
          ((s.logger l).tally.allowed.toNat + (s.logger l).tally.suppressed.toNat) := by
  refine ⟨fun k => ?_, fun c => ⟨h.counted_at c, ?_⟩⟩
  · rw [length_delivered h.toPosted, countP_fst h.posted_lt fun l => (s.logger l).sink = k, loggersWith]
    refine Finset.sum_congr rfl fun l _ => ?_
    rw [countP_columns, ← column_eq_count h few called, ← column_eq_count h few called,
      ← column_eq_count h few called]
    rfl
  · rw [funext (h.counted_at c), sum_severities _ fun l => (s.logger l).counter = some c,
      countP_fst h.caller fun l => (s.logger l).counter = some c, loggersWith]
    exact Finset.sum_congr rfl fun l _ => (calls_eq_decided h few called l).symm

section Faultless
variable {as : List Action}

private theorem logged_masked (clean : s.Along (fun s a => a.Clean s) as) :
    (s.masked .faultless).logged (as.map (Action.masked .faultless)) = s.logged as := by
  induction as generalizing s with
  | nil => rfl
  | cons a as ih =>
    have first : (a.masked .faultless).logged? (s.masked .faultless) = a.logged? s := by cases a <;> rfl
    rw [List.map_cons, logged, logged, first, masked_after clean.1, ih clean.2]

private theorem countP_tallied_masked (as : List Action) :
    (as.map (Action.masked .faultless)).countP Action.tallied = as.countP Action.tallied := by
  have same (a : Action) : (a.masked .faultless).tallied = a.tallied := by cases a <;> rfl
  rw [List.countP_map]
  exact List.countP_congr fun a _ => by rw [Function.comp_apply, same]

end Faultless

/-- On every run where nothing fails and no tally is reset, short enough for tallies to follow, a sink took as many
lines as the loggers with that sink counted allowed events, digests and overflows. An external counter
shows under the name of each severity the logging calls at that severity on the loggers with that counter, hence in
total the events that these loggers counted. -/
theorem lines_tallies_and_counters_agree {as : List Action}
    (orderly : System.Along (fun s a => a.Ready s ∧ a.Clean s ∧ ∀ l, a ≠ .resetTally l) {} as)
    (few : as.countP Action.tallied < 2 ^ 64) :
    let s := System.run {} as
    (∀ k, (s.delivered k).length = ∑ l ∈ s.loggersWith (·.sink = k),
      ((s.logger l).tally.allowed.toNat + (s.logger l).tally.digests.toNat + (s.logger l).tally.overflows.toNat)) ∧
    ∀ c, (∀ severity, (s.counter c).count severity.counterName =
        (System.logged {} as).countP fun x => (s.logger x.1).counter = some c ∧ x.2 = severity) ∧
      (Severity.all.map fun severity => (s.counter c).count severity.counterName).sum =
        ∑ l ∈ s.loggersWith (·.counter = some c),
          ((s.logger l).tally.allowed.toNat + (s.logger l).tally.suppressed.toNat) := by
  intro s
  -- faults that never fired are taken away; what the sinks took and the counters show stays as it is
  obtain ⟨calm, same⟩ := faultless_run (Q := fun s a => a.Ready s ∧ a.Calm s ∧ ∀ l, a ≠ .resetTally l) orderly
    (fun _ _ h => h.2.1) fun _ _ h => ⟨ready_masked h.1, calm_masked h.2.1, standing_masked h.2.2⟩
  have calls : System.logged {} (as.map (Action.masked .faultless)) = System.logged {} as := by
    have unread := logged_masked (orderly.mono fun _ _ h => h.2.1)
    rwa [masked_empty] at unread
  have h := kept_run calm
  rw [same, countP_tallied_masked, calls] at h
  obtain ⟨lines, counters⟩ := lines_and_counters_of_kept h few (length_logged_le {} as)
  refine ⟨lines, fun c => ?_⟩
  have shown := counters c
  rw [counter_masked] at shown
  exact shown

/-- Two sinks, two counters and two loggers: one logger withholds and overflows, the other's throttle is
used after its logger is gone, and a flush reports what was withheld. The second sink would refuse a fourth line, and
the first counter another name. -/
theorem lines_tallies_and_counters_agree_two_loggers :
    let as : List Action := [.addSink .filled fun _ _ => none,
      .addSink .itemised fun n _ => if n = 3 then some .wordless else none, .addStopwatch .zero fun _ => none,
      .addCounter fun _ name => if name = "debug_rate_limited_log_count" then some .wordless else none,
      .addCounter fun _ _ => none,
      .openRoster, .build ⟨0, 0, 0, some 0, 1, ⟨7, by decide⟩, 1⟩, .build ⟨0, 1, 0, some 1, 1, ⟨9, by decide⟩, 3⟩,
      .log 0 .info "x" [], .log 0 .warn "x" [], .log 0 .info "y" [], .log 0 .info "z" [], .log 1 .error "x" [],
      .release ⟨.logger 1, 0⟩, .logThrough 3 .warn [], .attempt 3, .flush 0]
    let s := System.run {} as
    (s.delivered 0).length = 5 ∧ (s.delivered 1).length = 2 ∧ (s.counter 1).count "warn_rate_limited_log_count" = 1 ∧
      (Severity.all.map fun severity => (s.counter 0).count severity.counterName).sum = 4 := by
  intro as s
  have clean : System.Along (fun s a => a.Ready s ∧ a.Clean s) {} as := by decide +kernel
  have standing : System.Along (fun _ a => ∀ l, a ≠ .resetTally l) {} as := by simp [as, System.Along]
  have orderly : System.Along (fun s a => a.Ready s ∧ a.Clean s ∧ ∀ l, a ≠ .resetTally l) {} as :=
    (clean.and standing).mono fun _ _ h => ⟨h.1.1, h.1.2, h.2⟩
  have few : as.countP Action.tallied < 2 ^ 64 := by decide +kernel
  have totals := lines_tallies_and_counters_agree orderly few
  refine ⟨?_, ?_, ?_, ?_⟩
  · exact (totals.1 0).trans (by decide +kernel)
  · exact (totals.1 1).trans (by decide +kernel)
  · exact ((totals.2 1).1 .warn).trans (by decide +kernel)
  · exact (totals.2 0).2.trans (by decide +kernel)

end System
end LogThrottle
