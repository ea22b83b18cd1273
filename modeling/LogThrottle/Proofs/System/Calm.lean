import LogThrottle.Proofs.Enrolment.Shift
import LogThrottle.Proofs.Limiter.Counting
import LogThrottle.Proofs.System.Clearing

/-! Resets and deliveries where no sink and no stopwatch fails: each has one outcome, and a pass writes
the digests of its throttles one after the other. -/
namespace LogThrottle.System
open Call

/-- A stopwatch that can always be read. -/
def Fine (s : System) (w : StopwatchId) : Prop :=
  (s.stopwatch w).broken = false ∧ ∀ n, (s.stopwatch w).fault n = none

/-- No sink or stopwatch ever raises a fault. -/
structure Serene (s : System) : Prop where
  sink : ∀ k n line, (s.sink k).fault n line = none
  stopwatch : ∀ w, s.Fine w

/-- No sink, stopwatch or counter ever raises a fault. -/
structure Calm (s : System) : Prop where
  sink : ∀ k n line, (s.sink k).fault n line = none
  stopwatch : ∀ w, (s.stopwatch w).broken = false ∧ ∀ n, (s.stopwatch w).fault n = none
  counter : ∀ c n name, (s.counter c).fault n name = none

theorem Calm.serene {s : System} (h : Calm s) : Serene s := ⟨h.sink, h.stopwatch⟩

/-- The sink and the stopwatch of a throttle's logger never raise a fault. -/
structure Served (s : System) (t : ThrottleId) : Prop where
  sink : ∀ n line, (s.sink (s.logger (s.throttle t).logger).sink).fault n line = none
  stopwatch : s.Fine (s.logger (s.throttle t).logger).stopwatch

theorem Serene.served {s : System} (h : Serene s) (t : ThrottleId) : s.Served t := ⟨h.sink _, h.stopwatch _⟩

/-- What the stopwatch of a throttle's logger shows. -/
def now (s : System) (t : ThrottleId) : Duration :=
  (s.stopwatch (s.logger (s.throttle t).logger).stopwatch).reading

/-- How many events of a throttle pass in one period. -/
def limit (s : System) (t : ThrottleId) : UInt32 := (s.logger (s.throttle t).logger).quota.limit

theorem limit_pos (s : System) (t : ThrottleId) : 0 < (s.limit t).toNat :=
  UInt32.lt_iff_toNat_lt.mp (s.logger (s.throttle t).logger).quota.limit_pos

/-- What a reset of a throttle would report. -/
def digest? (s : System) (t : ThrottleId) : Option Digest :=
  let x := (s.throttle t).limiter
  if x.withheld (s.limit t) = 0 then none
  else some ⟨(s.throttle t).topic, x.withheld (s.limit t), x.sinceMark (s.now t).clockMillis⟩

/-- The line that a reset of a throttle would deliver. -/
def digestEntries (s : System) (t : ThrottleId) : List Entry :=
  (s.digest? t).toList.map fun d =>
    .line (.digest t d) (s.logger (s.throttle t).logger).sink ⟨(s.throttle t).topic.voice, d.text⟩

/-- One system is the other after some lines and notices were written. What else may differ is
limiters, counts of digests, and how often sinks, stopwatches and counters were called. -/
structure Told (es : List Entry) (s s' : System) : Prop where
  rosters : s'.rosters = s.rosters
  holders : s'.holders = s.holders
  throttles : s'.throttles.size = s.throttles.size
  throttle : ∀ t, { s'.throttle t with limiter := {} } = { s.throttle t with limiter := {} }
  loggers : s'.loggers.size = s.loggers.size
  logger : ∀ l, { s'.logger l with tally := { (s'.logger l).tally with digests := 0 } } =
    { s.logger l with tally := { (s.logger l).tally with digests := 0 } }
  journal : s'.journal.toList = s.journal.toList ++ es
  sink : ∀ k, { s'.sink k with calls := 0 } = { s.sink k with calls := 0 }
  stopwatch : ∀ w, { s'.stopwatch w with reads := 0 } = { s.stopwatch w with reads := 0 }
  counter : ∀ c, { s'.counter c with calls := 0 } = { s.counter c with calls := 0 }
  stopwatches : s'.stopwatches.size = s.stopwatches.size

namespace Told
variable {es fs : List Entry} {s s' s'' : System}

theorem refl (s : System) : Told [] s s :=
  ⟨rfl, rfl, rfl, fun _ => rfl, rfl, fun _ => rfl, (List.append_nil _).symm, fun _ => rfl, fun _ => rfl,
    fun _ => rfl, rfl⟩

theorem trans (h : Told es s s') (h' : Told fs s' s'') : Told (es ++ fs) s s'' where
  rosters := h'.rosters.trans h.rosters
  holders := h'.holders.trans h.holders
  throttles := h'.throttles.trans h.throttles
  throttle t := (h'.throttle t).trans (h.throttle t)
  loggers := h'.loggers.trans h.loggers
  logger l := (h'.logger l).trans (h.logger l)
  journal := by rw [h'.journal, h.journal, List.append_assoc]
  sink k := (h'.sink k).trans (h.sink k)
  stopwatch w := (h'.stopwatch w).trans (h.stopwatch w)
  counter c := (h'.counter c).trans (h.counter c)
  stopwatches := h'.stopwatches.trans h.stopwatches

theorem setLimiter (s : System) (t : ThrottleId) (x : Limiter) : Told [] s (setLimiter t x s) := by
  refine { refl s with throttles := size_throttles_setLimiter .., throttle := fun i => ?_ }
  rw [throttle_setLimiter]
  split <;> rfl

theorem countDigest (s : System) (l : LoggerId) : Told [] s (changeTally l Tally.countDigest s) := by
  refine { refl s with loggers := size_loggers_changeTally .., logger := fun i => ?_ }
  rw [logger_changeTally]
  split <;> rfl

theorem fine_iff (h : Told es s s') (w : StopwatchId) : s'.Fine w ↔ s.Fine w := by
  rw [Fine, (congrArg Stopwatch.fault (h.stopwatch w) :), (congrArg Stopwatch.broken (h.stopwatch w) :), Fine]

theorem serene (h : Told es s s') (serene : Serene s) : Serene s' where
  sink k := by
    rw [(congrArg Sink.fault (h.sink k) :)]
    exact serene.sink k
  stopwatch w := (h.fine_iff w).mpr (serene.stopwatch w)

theorem calm (h : Told es s s') (calm : Calm s) : Calm s' where
  sink := (h.serene calm.serene).sink
  stopwatch := (h.serene calm.serene).stopwatch
  counter c := by
    rw [(congrArg Counter.fault (h.counter c) :)]
    exact calm.counter c

theorem topic_eq (h : Told es s s') (t : ThrottleId) : (s'.throttle t).topic = (s.throttle t).topic :=
  (congrArg Throttle.topic (h.throttle t) :)

theorem logger_eq (h : Told es s s') (t : ThrottleId) :
    (s'.throttle t).logger = (s.throttle t).logger :=
  (congrArg Throttle.logger (h.throttle t) :)

theorem stopwatch_eq (h : Told es s s') (t : ThrottleId) :
    (s'.logger (s'.throttle t).logger).stopwatch = (s.logger (s.throttle t).logger).stopwatch := by
  rw [h.logger_eq]
  exact (congrArg Logger.stopwatch (h.logger (s.throttle t).logger) :)

theorem sink_eq (h : Told es s s') (t : ThrottleId) :
    (s'.logger (s'.throttle t).logger).sink = (s.logger (s.throttle t).logger).sink := by
  rw [h.logger_eq]
  exact (congrArg Logger.sink (h.logger (s.throttle t).logger) :)

theorem limit_eq (h : Told es s s') (t : ThrottleId) : s'.limit t = s.limit t := by
  have : (s'.logger (s.throttle t).logger).quota = (s.logger (s.throttle t).logger).quota :=
    (congrArg Logger.quota (h.logger _) :)
  rw [limit, h.logger_eq, this, limit]

theorem now_eq (h : Told es s s') (t : ThrottleId) : s'.now t = s.now t := by
  rw [now, h.stopwatch_eq, (congrArg Stopwatch.reading (h.stopwatch _) :), now]

/-- What a reset would report hangs on the limiter alone. -/
theorem digest?_eq (h : Told es s s') {t : ThrottleId}
    (limiter : (s'.throttle t).limiter = (s.throttle t).limiter) : s'.digest? t = s.digest? t := by
  rw [digest?, h.topic_eq, h.limit_eq, h.now_eq, limiter, digest?]

theorem digestEntries_eq (h : Told es s s') {t : ThrottleId}
    (limiter : (s'.throttle t).limiter = (s.throttle t).limiter) :
    s'.digestEntries t = s.digestEntries t := by
  rw [digestEntries, h.digest?_eq limiter, h.topic_eq, h.sink_eq, digestEntries]

end Told

theorem Wrote.told {es : List Entry} {s s' : System} (h : Wrote es s s') : Told es s s' where
  rosters := h.rosters
  holders := h.holders
  throttles := congrArg Array.size h.throttles
  throttle t := by rw [System.throttle, h.throttles, System.throttle]
  loggers := congrArg Array.size h.loggers
  logger l := by rw [System.logger, h.loggers, System.logger]
  journal := h.journal
  sink := h.sink
  stopwatch := h.stopwatch
  counter := h.counter
  stopwatches := h.sizes.2.1

theorem Wrote.calm {es : List Entry} {s s' : System} (h : Wrote es s s') (calm : Calm s) : Calm s' :=
  h.told.calm calm

section Digests
variable {s : System} {t : ThrottleId} {d : Digest}

theorem digest?_of_cleared (cleared : (s.throttle t).limiter = .cleared) :
    s.digest? t = none := by
  rw [digest?, cleared]
  rfl

theorem digest?_topic (some : s.digest? t = some d) : d.topic = (s.throttle t).topic := by
  rw [digest?] at some
  split at some
  · cases some
  · rw [← Option.some.inj some]

/-- Who has a digest exists and has events. -/
theorem left_of_digest? (some : s.digest? t = some d) :
    t < s.throttles.size ∧ (s.throttle t).limiter ≠ .cleared := by
  have left : (s.throttle t).limiter ≠ .cleared := fun cleared => by
    rw [digest?_of_cleared cleared] at some
    cases some
  refine ⟨Classical.byContradiction fun unmade => left ?_, left⟩
  rw [throttle_of_size_le (Nat.not_lt.mp unmade)]
  rfl

/-- A digest tells of the events beyond the limit, of which there are some. -/
theorem lt_count_of_digest? (some : s.digest? t = some d) :
    (s.limit t).toNat < (s.throttle t).limiter.count.toNat ∧
      d.suppressed.toNat = (s.throttle t).limiter.count.toNat - (s.limit t).toNat := by
  rw [digest?] at some
  split at some
  · cases some
  · rename_i told
    have limited : (s.throttle t).limiter.isLimited = true := Classical.byContradiction fun unlimited =>
      told (if_neg unlimited)
    have number := Limiter.withheld_toNat (s.limit t) _ limited
    have positive : ((s.throttle t).limiter.withheld (s.limit t)).toNat ≠ 0 := fun zero =>
      told (UInt64.toNat_inj.mp zero)
    rw [← Option.some.inj some]
    exact ⟨by omega, number⟩

/-- What a reset would report, by what was attempted. -/
theorem digest?_of_tracks {events : List Duration}
    (tracks : Limiter.Tracks (s.limit t) events (s.throttle t).limiter) :
    s.digest? t = if (s.limit t).toNat < events.length then
      some ⟨(s.throttle t).topic, .ofNat (events.length - (s.limit t).toNat),
        (s.throttle t).limiter.sinceMark (s.now t).clockMillis⟩ else none := by
  have withheld := tracks.withheld_eq (limit_pos s t)
  have number : (s.throttle t).limiter.withheld (s.limit t) = .ofNat (events.length - (s.limit t).toNat) := by
    rw [← withheld, UInt64.ofNat_toNat]
  have none : (s.throttle t).limiter.withheld (s.limit t) = 0 ↔ ¬(s.limit t).toNat < events.length := by
    rw [← UInt64.toNat_inj, withheld, UInt64.toNat_zero]
    omega
  rw [digest?, number]
  simp only [← number, none, ite_not]

end Digests

section Resets
variable {s : System}

theorem deliver_serene (h : Serene s) (o : Origin) (k : SinkId) (line : Line) :
    ∃ s', (deliver o k line).exec s = (.ok (), s') ∧ Wrote [.line o k line] s s' :=
  deliver_ok o (h.sink k _ line)

theorem readClock_fine {w : StopwatchId} (h : s.Fine w) :
    ∃ s', (readClock w).exec s = (.ok (s.stopwatch w).reading.clockMillis, s') ∧ Wrote [] s s' := by
  obtain ⟨s', he, hw⟩ := readClock_exec s w
  obtain ⟨whole, faultless⟩ := h
  have read : (s.stopwatch w).read.1 = .ok (s.stopwatch w).reading := by
    simp [Stopwatch.read, whole, faultless]
  rw [read] at he
  exact ⟨s', he, hw⟩

/-- A reset clears the limiter, and delivers and counts the digest if there is one. -/
theorem reset_exec {t : ThrottleId} (h : s.Served t) :
    ∃ s', Wrote (s.digestEntries t) (setLimiter t .cleared s) s' ∧
      (reset t).exec s = (.ok (s.digest? t), if (s.digest? t).isSome then
        changeTally (s.throttle t).logger Tally.countDigest s' else s') := by
  simp only [reset, exec_bind, exec_get, exec_modify]
  by_cases none : (s.throttle t).limiter.withheld (s.limit t) = 0
  · rw [limit] at none
    refine ⟨setLimiter t .cleared s, ?_, ?_⟩
    · have : s.digestEntries t = [] := by simp [digestEntries, digest?, limit, none]
      rw [this]
      exact .refl _
    · simp [digest?, limit, none]
  · let d : Digest := ⟨(s.throttle t).topic, (s.throttle t).limiter.withheld (s.limit t),
      (s.throttle t).limiter.sinceMark (s.now t).clockMillis⟩
    have digest : s.digest? t = some d := if_neg none
    have entries : s.digestEntries t =
        [.line (.digest t d) (s.logger (s.throttle t).logger).sink ⟨d.topic.voice, d.text⟩] := by
      rw [digestEntries, digest]
      rfl
    rw [limit] at none
    have fine : (setLimiter t .cleared s).Fine (s.logger (s.throttle t).logger).stopwatch := h.stopwatch
    obtain ⟨s₁, he₁, read⟩ := readClock_fine fine
    have reading : ((setLimiter t .cleared s).stopwatch
        (s.logger (s.throttle t).logger).stopwatch).reading = s.now t := rfl
    rw [reading] at he₁
    have takes : (s₁.sink (s.logger (s.throttle t).logger).sink).fault
        (s₁.sink (s.logger (s.throttle t).logger).sink).calls ⟨d.topic.voice, d.text⟩ = .none := by
      rw [(congrArg Sink.fault (read.sink _) :)]
      exact h.sink _ _
    obtain ⟨s₂, he₂, delivered⟩ := deliver_ok (.digest t d) takes
    rw [entries, digest]
    refine ⟨s₂, read.trans delivered, ?_⟩
    simp only [d, limit] at he₂
    simp only [none, if_false, exec_bind, he₁, he₂, exec_modify, exec_pure, d, limit, Option.isSome_some, if_true]

theorem reset_serene (h : Serene s) (t : ThrottleId) :
    ∃ s', (reset t).exec s = (.ok (s.digest? t), s') ∧ Told (s.digestEntries t) s s' := by
  obtain ⟨s₁, wrote, he⟩ := reset_exec (h.served t)
  have told : Told (s.digestEntries t) s s₁ := (Told.setLimiter s t .cleared).trans wrote.told
  refine ⟨_, he, ?_⟩
  split
  · rw [← List.append_nil (s.digestEntries t)]
    exact told.trans (.countDigest s₁ _)
  · exact told

theorem resetOrReport_serene (h : Serene s) (t : ThrottleId) :
    ∃ s', (resetOrReport t).exec s = (.ok (), s') ∧ Told (s.digestEntries t) s s' := by
  obtain ⟨s', he, told⟩ := reset_serene h t
  refine ⟨s', ?_, told⟩
  rw [resetOrReport, exec_tryCatch, exec_discard, he]
  rfl

/-- A reset counts its digest, and nothing else. -/
theorem tally_resetOrReport (h : Serene s) {t : ThrottleId}
    (owned : t < s.throttles.size → (s.throttle t).logger < s.loggers.size) (l : LoggerId) :
    (((resetOrReport t).exec s).2.logger l).tally =
      if (s.digest? t).isSome ∧ (s.throttle t).logger = l then (s.logger l).tally.countDigest
      else (s.logger l).tally := by
  obtain ⟨s₁, wrote, he⟩ := reset_exec (h.served t)
  have same (i : LoggerId) : s₁.logger i = s.logger i := by
    rw [logger, wrote.loggers]
    rfl
  rw [resetOrReport, exec_tryCatch, exec_discard, he]
  cases some : s.digest? t with
  | none =>
    simp only [Option.isSome_none, Bool.false_eq_true, if_false, false_and, Except.map]
    rw [same]
  | some d =>
    have there : (s.throttle t).logger < s₁.loggers.size := by
      rw [wrote.loggers]
      exact owned (left_of_digest? some).1
    simp only [Option.isSome_some, if_true, true_and, Except.map, logger_changeTally, same]
    by_cases own : (s.throttle t).logger = l
    · rw [if_pos ⟨own, own ▸ there⟩, if_pos own]
    · rw [if_neg fun h => own h.1, if_neg own]

/-- A pass over different throttles writes for each what its reset would have written before the pass, if
what a reset writes hangs on its own limiter alone. -/
theorem resetAll_told {Good : System → Prop} {entries : System → ThrottleId → List Entry}
    (each : ∀ {s}, Good s → ∀ t, ∃ s', (resetOrReport t).exec s = (.ok (), s') ∧ Good s' ∧
      Told (entries s t) s s')
    (own : ∀ {s s' es t}, Told es s s' → (s'.throttle t).limiter = (s.throttle t).limiter →
      entries s' t = entries s t)
    (good : Good s) {ts : List ThrottleId} (distinct : ts.Nodup) :
    ∃ s', (resetAll ts).exec s = (.ok (), s') ∧ Told (ts.flatMap (entries s)) s s' := by
  induction ts generalizing s with
  | nil => exact ⟨s, rfl, .refl s⟩
  | cons t ts ih =>
    rw [List.nodup_cons] at distinct
    obtain ⟨s₁, he, good₁, told⟩ := each good t
    obtain ⟨s₂, he', told'⟩ := ih good₁ distinct.2
    have limiters := throttles_resetOrReport t s
    rw [he] at limiters
    have others : ts.flatMap (entries s₁) = ts.flatMap (entries s) := by
      refine List.flatMap_congr fun u hu => own told ?_
      have different : ¬(t = u ∧ u < s.throttles.size) := fun e => distinct.1 (e.1 ▸ hu)
      rw [throttle, limiters, ← throttle, throttle_setLimiter, if_neg different]
    rw [others] at told'
    refine ⟨s₂, ?_, told.trans told'⟩
    rw [resetAll, exec_bind, he]
    exact he'

/-- A pass over different throttles delivers the digest of each as it was before the pass. -/
theorem resetAll_serene (h : Serene s) {ts : List ThrottleId} (distinct : ts.Nodup) :
    ∃ s', (resetAll ts).exec s = (.ok (), s') ∧ Told (ts.flatMap s.digestEntries) s s' := by
  refine resetAll_told (fun serene t => ?_) (fun told => told.digestEntries_eq) h distinct
  obtain ⟨s', he, told⟩ := resetOrReport_serene serene t
  exact ⟨s', he, told.serene serene, told⟩

end Resets

end LogThrottle.System
