import LogThrottle.Proofs.Reporting.Accounts

/-! Resets, and everything that resets or enrols without counting an event, move no account. -/
namespace LogThrottle.System
open Call

/-- No account moves, if nothing outside fails and limiters count events. -/
def Balances (n : Nat) (s s' : System) : Prop := Calm s → Tracked n s → Even n s s'

variable {n : Nat} {s s' s'' : System}

theorem Balances.refl (n : Nat) (s : System) : Balances n s s := fun calm tracked =>
  Even.refl calm tracked

theorem Balances.trans (h : Balances n s s') (h' : Balances n s' s'') : Balances n s s'' :=
  fun calm tracked =>
    have first := h calm tracked
    first.trans (h' first.calm first.tracked)

theorem Wrote.balances {es : List Entry} (h : Wrote es s s') (plain : ∀ e ∈ es, e.Plain) :
    Balances n s s' := fun calm tracked => .wrote h calm tracked plain

/-- What a reset would report is what is in excess. -/
theorem reported_digestEntries (tracked : Tracked n s) (t u : ThrottleId) :
    ((s.digestEntries t).map (Entry.reported u)).sum = if t = u then s.excess t else 0 := by
  have withheld : ((s.throttle t).limiter.withheld (s.limit t)).toNat = s.excess t := by
    by_cases ht : t < s.throttles.size
    · obtain ⟨events, _, h⟩ := tracked t ht
      rw [h.withheld_eq (limit_pos s t), excess, h.count]
    · have ht := Nat.not_lt.mp ht
      rw [excess_of_size_le ht, throttle_of_size_le ht]
      rfl
  rw [digestEntries]
  cases hd : s.digest? t with
  | none =>
    have zero : (s.throttle t).limiter.withheld (s.limit t) = 0 := by
      apply Classical.byContradiction
      intro some
      rw [digest?] at hd
      simp [some] at hd
    rw [zero] at withheld
    simp [← withheld]
  | some d =>
    have counted : d.suppressed = (s.throttle t).limiter.withheld (s.limit t) := by
      rw [digest?] at hd
      split at hd
      · cases hd
      · cases hd
        rfl
    simp [Entry.reported, counted, withheld]

private theorem authentic_digestEntries {t : ThrottleId} {e : Entry} (h : e ∈ s.digestEntries t) :
    s.Authentic e := by
  rw [digestEntries] at h
  cases hd : s.digest? t with
  | none =>
    rw [hd] at h
    cases h
  | some d =>
    rw [hd] at h
    obtain rfl := List.mem_singleton.mp h
    rw [digest?] at hd
    split at hd
    · cases hd
    · rename_i some
      have made : t < s.throttles.size := Classical.byContradiction fun new => by
        rw [throttle_of_size_le (Nat.not_lt.mp new)] at some
        exact some rfl
      cases hd
      exact ⟨made, rfl, rfl, rfl⟩

/-- A reset moves the excess into what was reported. -/
theorem balances_reset (n : Nat) (t : ThrottleId) : Keeps (Balances n) (resetOrReport t) := by
  intro s calm tracked
  obtain ⟨s', he, told⟩ := resetOrReport_serene calm.serene t
  have limiters := throttles_resetOrReport t s
  rw [he] at limiters ⊢
  have limiter (u : ThrottleId) : (s'.throttle u).limiter =
      if t = u ∧ u < s.throttles.size then .cleared else (s.throttle u).limiter := by
    rw [throttle, limiters, ← throttle, throttle_setLimiter]
    split <;> rfl
  refine ⟨told.fixed, told.calm calm, fun u hu => ?_, fun u => ?_, fun l => ?_, fun before e he => ?_⟩
  · rw [told.throttles] at hu
    rw [limiter, told.limit_eq]
    split
    · exact ⟨[], Nat.zero_le _, .cleared _⟩
    · exact tracked u hu
  · have told' : s'.reported u = s.reported u + if t = u then s.excess t else 0 := by
      rw [reported, told.journal, List.map_append, List.sum_append, reported_digestEntries tracked,
        reported]
    have left : s'.excess u = if t = u then 0 else s.excess u := by
      rw [excess, limiter, told.limit_eq]
      by_cases hu : t = u
      · subst hu
        rw [if_pos rfl]
        split
        · exact Nat.zero_sub _
        · rename_i new
          exact excess_of_size_le (Nat.not_lt.mp fun made => new ⟨rfl, made⟩)
      · rw [if_neg fun e => hu e.1, if_neg hu, excess]
    rw [account, told', left, account]
    split
    · rename_i hu
      rw [hu, Nat.add_zero]
    · rw [Nat.add_zero]
  · exact (congrArg (fun x => x.tally.suppressed) (told.logger l) :)
  · rw [told.journal] at he
    exact told.fixed.authentic ((List.mem_append.mp he).elim (before e) authentic_digestEntries)

theorem balances_resetAll (n : Nat) (ts : List ThrottleId) : Keeps (Balances n) (resetAll ts) :=
  Chain.resetAll ⟨.refl n, .trans⟩ fun t _ => balances_reset n t

theorem balances_of_same {es : List Entry} (fixed : Fixed s s')
    (outside : s'.sinks = s.sinks ∧ s'.stopwatches = s.stopwatches ∧ s'.counters = s.counters)
    (limiter : ∀ t, (s'.throttle t).limiter = (s.throttle t).limiter)
    (suppressed : ∀ l, (s'.logger l).tally.suppressed = (s.logger l).tally.suppressed)
    (journal : s'.journal.toList = s.journal.toList ++ es) (plain : ∀ e ∈ es, e.Plain) :
    Balances n s s' := by
  obtain ⟨sinks, stopwatches, counters⟩ := outside
  refine fun calm tracked => .quiet fixed ⟨?_, ?_, ?_⟩ tracked limiter suppressed journal plain
  · simpa only [sink, sinks] using calm.sink
  · simpa only [stopwatch, stopwatches] using calm.stopwatch
  · simpa only [counter, counters] using calm.counter

theorem balances_changeRoster (n : Nat) (s : System) (r : RosterId) (f : Roster → Roster) :
    Balances n s (changeRoster r f s) :=
  balances_of_same { Fixed.refl s with } ⟨rfl, rfl, rfl⟩ (fun _ => rfl) (fun _ => rfl)
    (List.append_nil _).symm (by simp)

theorem balances_flush (n : Nat) (r : RosterId) : Keeps (Balances n) (flush r) := by
  intro s
  rw [flush_exec]
  have drained : Balances n s (drained r s) :=
    (balances_changeRoster n s r _).trans ((wrote_write _ _).balances (by simp [Entry.Plain]))
  exact drained.trans (balances_resetAll n _ _)

private theorem plain_announcement (r : RosterId) (t : ThrottleId) (s : System) :
    ∀ e ∈ announcement r t s, e.Plain := by
  intro e member
  rw [eq_of_mem_announcement member]
  exact fun _ _ _ _ e => nomatch e

theorem balances_enrol (n : Nat) (r : RosterId) (t : ThrottleId) : Keeps (Balances n) (enrol r t) := by
  intro s
  obtain ⟨s', he, hw⟩ := enrol_exec r t s
  rw [he]
  refine (hw.balances (plain_announcement r t s)).trans ?_
  have field (u : ThrottleId) : ((enrolled r t s').throttle u).topic = (s'.throttle u).topic ∧
      ((enrolled r t s').throttle u).logger = (s'.throttle u).logger ∧
      ((enrolled r t s').throttle u).limiter = (s'.throttle u).limiter := by
    rw [throttle_enrolled]
    split <;> exact ⟨rfl, rfl, rfl⟩
  refine balances_of_same { Fixed.refl s' with
    size := Nat.le_of_eq (size_throttles_enrolled ..).symm
    topic := fun u _ => (field u).1
    logger := fun u _ => (field u).2.1 } ⟨rfl, rfl, rfl⟩ (fun u => (field u).2.2) (fun _ => rfl)
    (List.append_nil _).symm (by simp)

theorem balances_changeTally (n : Nat) (s : System) (l : LoggerId) {f : Tally → Tally}
    (kept : ∀ x, (f x).suppressed = x.suppressed) : Balances n s (changeTally l f s) := by
  have field (i : LoggerId) : ((changeTally l f s).logger i).sink = (s.logger i).sink ∧
      ((changeTally l f s).logger i).quota = (s.logger i).quota ∧
      ((changeTally l f s).logger i).tally.suppressed = (s.logger i).tally.suppressed := by
    rw [logger_changeTally]
    split
    · exact ⟨rfl, rfl, kept _⟩
    · exact ⟨rfl, rfl, rfl⟩
  exact balances_of_same { Fixed.refl s with
    sink := fun t _ => (field (s.throttle t).logger).1
    quota := fun t _ => (field (s.throttle t).logger).2.1 } ⟨rfl, rfl, rfl⟩ (fun _ => rfl)
    (fun i => (field i).2.2) (List.append_nil _).symm (by simp)

private theorem balances_setCatalogue (n : Nat) (s : System) (l : LoggerId) (c : Catalogue) :
    Balances n s (setCatalogue l c s) := by
  have field (i : LoggerId) : ((setCatalogue l c s).logger i).sink = (s.logger i).sink ∧
      ((setCatalogue l c s).logger i).quota = (s.logger i).quota ∧
      ((setCatalogue l c s).logger i).tally.suppressed = (s.logger i).tally.suppressed := by
    rw [logger_setCatalogue]
    split <;> exact ⟨rfl, rfl, rfl⟩
  exact balances_of_same { Fixed.refl s with
    sink := fun t _ => (field (s.throttle t).logger).1
    quota := fun t _ => (field (s.throttle t).logger).2.1 } ⟨rfl, rfl, rfl⟩ (fun _ => rfl)
    (fun i => (field i).2.2) (List.append_nil _).symm (by simp)

private theorem balances_push (n : Nat) (s : System) (topic : Topic) (l : LoggerId) :
    Balances n s { s with throttles := s.throttles.push { topic, logger := l } } := by
  have read (t : ThrottleId) : (s.throttles.push { topic, logger := l }).getD t default =
      if t = s.throttles.size then { topic, logger := l } else s.throttle t := getD_push ..
  have old (t : ThrottleId) (ht : t < s.throttles.size) :
      (s.throttles.push { topic, logger := l }).getD t default = s.throttle t := by
    rw [read, if_neg (Nat.ne_of_lt ht)]
  refine balances_of_same { Fixed.refl s with
    size := by rw [Array.size_push]; exact Nat.le_succ _
    topic := fun t ht => congrArg Throttle.topic (old t ht)
    logger := fun t ht => congrArg Throttle.logger (old t ht) } ⟨rfl, rfl, rfl⟩ (fun t => ?_)
    (fun _ => rfl) (List.append_nil _).symm (by simp)
  rw [throttle, read]
  split
  · rename_i new
    rw [throttle_of_size_le (Nat.le_of_eq new.symm)]
    rfl
  · rfl

/-- Lookups, shutdowns and releases move no account. -/
theorem lasting_balances (n : Nat) : Lasting (Balances n) where
  refl := .refl n
  trans := .trans
  overflowed s := (wrote_write _ s).balances (by simp [Entry.Plain])
  warn l k line s calm := by
    obtain ⟨s', he, hw⟩ := deliver_serene calm.serene (.overflow l) k line
    rw [he]
    exact hw.balances (by simp [Entry.Plain]) calm
  flush := balances_flush n
  enrol := balances_enrol n
  push := balances_push n
  setCatalogue := balances_setCatalogue n
  countOverflow s l := balances_changeTally n s l fun _ => rfl
  close s r := balances_changeRoster n s r _
  cancelJobs s r := balances_changeRoster n s r _
  letGo s h := balances_of_same { Fixed.refl s with } ⟨rfl, rfl, rfl⟩ (fun _ => rfl) (fun _ => rfl)
    (List.append_nil _).symm (by simp)

end LogThrottle.System
