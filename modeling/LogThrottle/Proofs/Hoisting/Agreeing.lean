import LogThrottle.Proofs.Refinement.Passes
import LogThrottle.Proofs.System.Growth
import LogThrottle.Proofs.System.Handles

/-! Systems that agree in all that callers see. Which throttles were made so far, in which order and in which
epoch, and which of them are members, may differ: a throttle that has no events yet is as good as none. -/
namespace LogThrottle.System
open Call

/-- The limiter of a key. A key without a throttle has no events. -/
def limiterOf (s : System) (p : Key) : Limiter := (s.limiter? p).getD .cleared

/-- The same surroundings, tallies, counts, limiters, number of flushes, and lines up to their order. -/
structure Agrees (s s' : System) : Prop extends Beside s s' where
  tally : ∀ l, (s'.logger l).tally = (s.logger l).tally
  counts : ∀ c, (s'.counter c).counts = (s.counter c).counts
  limiter : ∀ p, s'.limiterOf p = s.limiterOf p
  flushes : s'.flushes = s.flushes
  lines : ∀ k, (s'.delivered k).Perm (s.delivered k)

section Readings
variable {s s' : System} {p : Key} {t : ThrottleId} {es : List Entry}

theorem limiterOf_of_listed (found : s.listed? p = some t) : s.limiterOf p = (s.throttle t).limiter := by
  rw [limiterOf, limiter?, found]
  rfl

theorem limiterOf_of_unlisted (absent : s.listed? p = none) : s.limiterOf p = .cleared := by
  rw [limiterOf, limiter?, absent]
  rfl

/-- The limiters of keys are read off the catalogues and the throttles. -/
theorem limiterOf_congr (listed : s'.listed? p = s.listed? p)
    (limiter : ∀ t, s.listed? p = some t → (s'.throttle t).limiter = (s.throttle t).limiter) :
    s'.limiterOf p = s.limiterOf p := by
  cases found : s.listed? p with
  | none => rw [limiterOf_of_unlisted found, limiterOf_of_unlisted (listed.trans found)]
  | some t => rw [limiterOf_of_listed found, limiterOf_of_listed (listed.trans found), limiter t found]

theorem line?_announcement (r : RosterId) (t : ThrottleId) (s : System) (k : SinkId) :
    (announcement r t s).filterMap (Entry.line? k) = [] := by
  unfold announcement
  split <;> rfl

theorem line?_eventEntries (s : System) (t : ThrottleId) (line : Line) (k : SinkId) :
    (s.eventEntries t line).filterMap (Entry.line? k) =
      if (s.logger (s.throttle t).logger).sink = k ∧ (s.verdict t).1 = .allow then [line] else [] := by
  rw [eventEntries]
  cases (s.verdict t).1 with
  | allow => by_cases own : (s.logger (s.throttle t).logger).sink = k <;> simp [Entry.line?, own]
  | suppress => simp

theorem flushing_not_mem_eventEntries (s : System) (t : ThrottleId) (line : Line) :
    .notice .flushing ∉ s.eventEntries t line := by
  unfold eventEntries
  split <;> simp

/-- An event changes the limiter of its own key. -/
theorem limiterOf_ticked (sound : Sound s) (found : s.listed? p = some t) (severity : Severity) (q : Key) :
    (ticked t severity s).limiterOf q = if q = p then (s.verdict t).2 else s.limiterOf q := by
  obtain ⟨made, key⟩ := sound.key_of_listed found
  split
  · rename_i own
    subst own
    rw [limiterOf_of_listed ((listed?_ticked q s t severity).trans found), throttle_ticked, if_pos ⟨rfl, made⟩]
  · rename_i other
    refine limiterOf_congr (listed?_ticked q s t severity) fun u listed => ?_
    have apart : t ≠ u := by
      rintro rfl
      exact other ((sound.key_of_listed listed).2.symm.trans key)
    rw [throttle_ticked, if_neg fun own => apart own.1]

end Readings

namespace Agrees
variable {s s' s'' s₁ s₁' : System} {p : Key} {t t' : ThrottleId} {es es' : List Entry}

theorem refl (s : System) : Agrees s s :=
  ⟨.refl s, fun _ => rfl, fun _ => rfl, fun _ => rfl, rfl, fun _ => .refl _⟩

theorem symm (h : Agrees s s') : Agrees s' s where
  toBeside := h.toBeside.symm
  tally l := (h.tally l).symm
  counts c := (h.counts c).symm
  limiter p := (h.limiter p).symm
  flushes := h.flushes.symm
  lines k := (h.lines k).symm

theorem trans (h : Agrees s s') (h' : Agrees s' s'') : Agrees s s'' where
  toBeside := h.toBeside.trans h'.toBeside
  tally l := (h'.tally l).trans (h.tally l)
  counts c := (h'.counts c).trans (h.counts c)
  limiter p := (h'.limiter p).trans (h.limiter p)
  flushes := h'.flushes.trans h.flushes
  lines k := (h'.lines k).trans (h.lines k)

/-- The same is written in both systems. -/
theorem written (h : Agrees s s') (wrote : Wrote es s s₁) (wrote' : Wrote es' s' s₁')
    (flushes : es'.count (.notice .flushing) = es.count (.notice .flushing))
    (lines : ∀ k, (es'.filterMap (Entry.line? k)).Perm (es.filterMap (Entry.line? k))) : Agrees s₁ s₁' where
  toBeside := wrote.beside.symm.trans (h.toBeside.trans wrote'.beside)
  tally l := by
    rw [System.logger, System.logger, wrote'.loggers, wrote.loggers]
    exact h.tally l
  counts c := by
    have counted {es : List Entry} {s s₁ : System} (wrote : Wrote es s s₁) :
        (s₁.counter c).counts = (s.counter c).counts := (congrArg Counter.counts (wrote.counter c) :)
    rw [counted wrote', counted wrote, h.counts]
  limiter p := by
    have kept {es : List Entry} {s s₁ : System} (wrote : Wrote es s s₁) : s₁.limiterOf p = s.limiterOf p :=
      limiterOf_congr (wrote.listed_eq p) fun t _ => by rw [throttle, wrote.throttles, throttle]
    rw [kept wrote', kept wrote, h.limiter]
  flushes := by
    rw [System.flushes, System.flushes, wrote'.journal, wrote.journal, List.count_append, List.count_append,
      flushes]
    exact congrArg (· + _) h.flushes
  lines k := by
    rw [delivered_append wrote'.journal, delivered_append wrote.journal]
    exact (h.lines k).append (lines k)

theorem announced {r : RosterId} (wrote : Wrote (announcement r t s) s s') : Agrees s s' := by
  refine (refl s).written (.refl s) wrote ?_ fun k => ?_
  · exact List.count_eq_zero_of_not_mem (flushing_not_mem_announcement r t s)
  · rw [line?_announcement]
    exact .refl _

/-- Which throttles are members is not seen. -/
theorem enrolled (s : System) (r : RosterId) (t : ThrottleId) : Agrees s (enrolled r t s) := by
  refine { refl s with toBeside := beside_enrolled s r t, limiter := fun p => ?_ }
  refine limiterOf_congr rfl fun u _ => ?_
  rw [throttle_enrolled]
  split <;> rfl

/-- A throttle that was made just now is not seen. -/
theorem registered (sound : Sound s) (made : p.1 < s.loggers.size) (absent : s.listed? p = none) :
    Agrees s (registered p.1 p.2 s) := by
  refine { refl s with toBeside := beside_registered s p.1 p.2, tally := fun l => ?_, limiter := fun q => ?_ }
  · rw [logger_registered]
    split <;> rfl
  · by_cases own : q = p
    · subst own
      rw [limiterOf_of_listed ((listed?_registered s made absent).trans (if_pos rfl)), throttle_registered,
        if_pos rfl, limiterOf_of_unlisted absent]
      rfl
    · refine limiterOf_congr ((listed?_registered s made absent).trans (if_neg own)) fun t found => ?_
      rw [throttle_registered, if_neg (Nat.ne_of_lt (sound.key_of_listed found).1)]

end Agrees

section Calls
variable {s s' s₁ s₁' : System} {p : Key} {t t' : ThrottleId}

theorem Joined.agrees (h : Joined t s s₁) : Agrees s s₁ := by
  cases h with
  | idle => exact .refl s
  | enrolled _ _ wrote => exact (Agrees.announced wrote).trans (.enrolled _ _ t)

/-- It is not seen whether a key was looked up. -/
theorem Sought.agrees (h : Sought p s t s₁) (sound : Sound s) (made : p.1 < s.loggers.size) : Agrees s s₁ := by
  cases h with
  | found => exact .refl s
  | fresh absent new wrote =>
    exact (Agrees.registered sound made absent).trans ((Agrees.announced wrote).trans (.enrolled _ _ t))

theorem Agrees.limiter_eq (h : Agrees s s') (found : s.listed? p = some t) (found' : s'.listed? p = some t') :
    (s'.throttle t').limiter = (s.throttle t).limiter := by
  rw [← limiterOf_of_listed found', h.limiter, limiterOf_of_listed found]

theorem Sound.key_eq (sound : Sound s) (sound' : Sound s') (found : s.listed? p = some t)
    (found' : s'.listed? p = some t') : s'.key t' = s.key t :=
  (sound'.key_of_listed found').2.trans (sound.key_of_listed found).2.symm

section Listed
variable (h : Agrees s s') (sound : Sound s) (sound' : Sound s') (found : s.listed? p = some t)
  (found' : s'.listed? p = some t')
include h sound sound' found found'

private theorem Agrees.listed_verdict_eq : s'.verdict t' = s.verdict t :=
  h.verdict_eq (sound.key_eq sound' found found') (h.limiter_eq found found')

/-- An event of the same key in both systems. -/
theorem Agrees.ticked (severity : Severity) :
    Agrees (ticked t severity s) (System.ticked t' severity s') := by
  have verdict := h.listed_verdict_eq sound sound' found found'
  have owner : (s'.throttle t').logger = (s.throttle t).logger :=
    congrArg Prod.fst (sound.key_eq sound' found found')
  refine ⟨?_, fun l => ?_, fun c => ?_, fun q => ?_, ?_, fun k => ?_⟩
  · exact (beside_ticked s t severity).symm.trans (h.toBeside.trans (beside_ticked s' t' severity))
  · rw [logger_ticked, logger_ticked, owner, h.loggers, verdict]
    split
    · exact congrArg (Decision.count (s.verdict t).1) (h.tally l)
    · exact h.tally l
  · rw [counter_ticked, counter_ticked, owner, h.logger_counter, h.counters]
    split
    · simp only [Counter.raised, h.counts]
    · exact h.counts c
  · rw [limiterOf_ticked sound found, limiterOf_ticked sound' found', verdict, h.limiter]
  · rw [System.flushes, System.flushes, journal_ticked, journal_ticked]
    exact h.flushes
  · rw [delivered, delivered, journal_ticked, journal_ticked]
    exact h.lines k

end Listed

/-- A logging call on the same key through a throttle in both systems. -/
theorem Agrees.logThrough (h : Agrees s s') (fit : Fit s) (fit' : Fit s') (found : s.listed? p = some t)
    (found' : s'.listed? p = some t') (severity : Severity) {args : List Argument} (shown : Painless args) :
    Agrees ((logThrough t severity args).exec s).2 ((System.logThrough t' severity args).exec s').2 := by
  obtain ⟨s₁, s₂, message, _, joined, done, rendered, wrote⟩ := logThrough_calm fit.calm t severity shown
  obtain ⟨s₁', s₂', message', _, joined', done', rendered', wrote'⟩ :=
    logThrough_calm fit'.calm t' severity shown
  have before : Agrees s₁ s₁' := joined.agrees.symm.trans (h.trans joined'.agrees)
  have sound := fit.sound.shifts (joined.shifts (fit.sound.key_of_listed found).1)
  have sound' := fit'.sound.shifts (joined'.shifts (fit'.sound.key_of_listed found').1)
  have still : s₁.listed? p = some t := (joined.listed_eq p).trans found
  have still' : s₁'.listed? p = some t' := (joined'.listed_eq p).trans found'
  have key := sound.key_eq sound' still still'
  have owner : (s₁'.throttle t').logger = (s₁.throttle t).logger := congrArg Prod.fst key
  have topic : (s₁'.throttle t').topic = (s₁.throttle t).topic := congrArg Prod.snd key
  have same : message' = message := by
    rw [before.sink_style, before.logger_sink, owner, topic, rendered] at rendered'
    exact (Except.ok.inj rendered').symm
  have calls := before.ticked sound sound' still still' severity
  rw [done, done']
  refine calls.written wrote wrote' ?_ fun k => ?_
  · rw [List.count_eq_zero_of_not_mem (flushing_not_mem_eventEntries s₁' t' _),
      List.count_eq_zero_of_not_mem (flushing_not_mem_eventEntries s₁ t _)]
  · rw [line?_eventEntries, line?_eventEntries, before.listed_verdict_eq sound sound' still still', owner,
      before.logger_sink, same]

end Calls
end LogThrottle.System
