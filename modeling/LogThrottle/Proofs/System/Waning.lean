import LogThrottle.Proofs.Enrolment.Actions
import LogThrottle.Proofs.System.Calm
import LogThrottle.Proofs.System.Composites

/-! What is left by everything but an attempt, wherever a fault ends it: limiters are as they were or
cleared, what was there before is the same, and the journal has grown by entries that are no events. -/
namespace LogThrottle.System
open Call

/-- The throttles and loggers of before are there with all that they are made with, a catalogue has lost
a throttle only with a warning, no stopwatch has been mended, and `es` was written. -/
structure Carries (es : List Entry) (s s' : System) : Prop where
  throttles : s.throttles.size ≤ s'.throttles.size
  topic : ∀ t < s.throttles.size, (s'.throttle t).topic = (s.throttle t).topic
  owner : ∀ t < s.throttles.size, (s'.throttle t).logger = (s.throttle t).logger
  loggers : s.loggers.size ≤ s'.loggers.size
  logger : ∀ l < s.loggers.size, { s'.logger l with tally := {}, catalogue := {} } =
    { s.logger l with tally := {}, catalogue := {} }
  listed : ∀ l topic t, (s.logger l).catalogue.find? topic = some t →
    (s'.logger l).catalogue.find? topic = some t ∨ ∃ k line, .line (.overflow l) k line ∈ es
  fine : ∀ w, s'.Fine w → s.Fine w
  journal : s'.journal.toList = s.journal.toList ++ es

/-- No limiter but those of `D` is cleared without a flush, and none is changed but by clearing it. -/
structure Clears (D : ThrottleId → Prop) (es : List Entry) (s s' : System) : Prop
    extends Carries es s s' where
  limiter : ∀ t, (s'.throttle t).limiter = (s.throttle t).limiter ∨
    (s'.throttle t).limiter = .cleared ∧ (D t ∨ .notice .flushing ∈ es)

/-- No events, and no warning without a flush. -/
structure Tidy (es : List Entry) : Prop where
  event : ∀ t k line, .line (.event t) k line ∉ es
  overflow : ∀ l k line, .line (.overflow l) k line ∈ es → .notice .flushing ∈ es

def Wanes (D : ThrottleId → Prop) (s s' : System) : Prop := ∃ es, Tidy es ∧ Clears D es s s'

namespace Carries
variable {es fs : List Entry} {s s' s'' : System}

theorem refl (s : System) : Carries [] s s :=
  ⟨Nat.le_refl _, fun _ _ => rfl, fun _ _ => rfl, Nat.le_refl _, fun _ _ => rfl, fun _ _ _ => .inl,
    fun _ => id, (List.append_nil _).symm⟩

theorem trans (h : Carries es s s') (h' : Carries fs s' s'') : Carries (es ++ fs) s s'' where
  throttles := Nat.le_trans h.throttles h'.throttles
  topic t ht := (h'.topic t (Nat.lt_of_lt_of_le ht h.throttles)).trans (h.topic t ht)
  owner t ht := (h'.owner t (Nat.lt_of_lt_of_le ht h.throttles)).trans (h.owner t ht)
  loggers := Nat.le_trans h.loggers h'.loggers
  logger l hl := (h'.logger l (Nat.lt_of_lt_of_le hl h.loggers)).trans (h.logger l hl)
  listed l topic t found := by
    obtain still | ⟨k, line, warned⟩ := h.listed l topic t found
    · obtain still | ⟨k, line, warned⟩ := h'.listed l topic t still
      · exact .inl still
      · exact .inr ⟨k, line, List.mem_append_right _ warned⟩
    · exact .inr ⟨k, line, List.mem_append_left _ warned⟩
  fine w := h.fine w ∘ h'.fine w
  journal := by rw [h'.journal, h.journal, List.append_assoc]

theorem limit_eq (h : Carries es s s') (sound : Sound s) {t : ThrottleId}
    (made : t < s.throttles.size) : s'.limit t = s.limit t := by
  have quota := (congrArg Logger.quota (h.logger _ (sound.throttle t made)) :)
  exact (congrArg (fun l => (s'.logger l).quota.limit) (h.owner t made)).trans (congrArg Quota.limit quota)

theorem home_eq (h : Carries es s s') (sound : Sound s) {t : ThrottleId}
    (made : t < s.throttles.size) : s'.home t = s.home t := by
  rw [home, h.owner t made]
  exact (congrArg Logger.roster (h.logger _ (sound.throttle t made)) :)

theorem period_eq (h : Carries es s s') (sound : Sound s) {t : ThrottleId}
    (made : t < s.throttles.size) : s'.period t = s.period t := by
  rw [period, h.owner t made]
  exact (congrArg (fun x : Logger => x.quota.period) (h.logger _ (sound.throttle t made)) :)

theorem stopwatch_eq (h : Carries es s s') (sound : Sound s) {t : ThrottleId}
    (made : t < s.throttles.size) :
    (s'.logger (s'.throttle t).logger).stopwatch = (s.logger (s.throttle t).logger).stopwatch := by
  rw [h.owner t made]
  exact (congrArg Logger.stopwatch (h.logger _ (sound.throttle t made)) :)

end Carries

theorem Steady.carries {es : List Entry} {s s' : System} (h : Steady s s')
    (fine : ∀ w, s'.Fine w → s.Fine w) (journal : s'.journal.toList = s.journal.toList ++ es) :
    Carries es s s' where
  throttles := Nat.le_of_eq h.throttles.symm
  topic t _ := h.topic_eq t
  owner t _ := h.logger_eq t
  loggers := Nat.le_of_eq h.loggers.symm
  logger l _ := (congrArg (fun x : Logger => { x with catalogue := {} }) (h.logger l) :)
  listed l topic t found := .inl (by rwa [h.logger_catalogue])
  fine := fine
  journal := journal

theorem carries_setLimiter (s : System) (t : ThrottleId) (x : Limiter) :
    Carries [] s (setLimiter t x s) :=
  (steady_setLimiter s t x).carries (fun _ => id) (List.append_nil _).symm

theorem carries_changeTally (s : System) (l : LoggerId) (f : Tally → Tally) :
    Carries [] s (changeTally l f s) :=
  (steady_changeTally s l f).carries (fun _ => id) (List.append_nil _).symm

theorem Wrote.carries {es : List Entry} {s s' : System} (h : Wrote es s s') : Carries es s s' where
  throttles := Nat.le_of_eq (congrArg Array.size h.throttles.symm)
  topic t _ := by rw [throttle, h.throttles, throttle]
  owner t _ := by rw [throttle, h.throttles, throttle]
  loggers := Nat.le_of_eq (congrArg Array.size h.loggers.symm)
  logger l _ := by rw [logger, h.loggers, logger]
  listed l topic t found := .inl (by rwa [logger, h.loggers])
  fine w := (h.told.fine_iff w).mp
  journal := h.journal

theorem Tidy.nil : Tidy [] := ⟨fun _ _ _ => List.not_mem_nil, fun _ _ _ h => absurd h List.not_mem_nil⟩

theorem Tidy.append {es fs : List Entry} (h : Tidy es) (h' : Tidy fs) : Tidy (es ++ fs) where
  event t k line there := (List.mem_append.mp there).elim (h.event t k line) (h'.event t k line)
  overflow l k line there := (List.mem_append.mp there).elim
    (fun e => List.mem_append_left _ (h.overflow l k line e))
    (fun e => List.mem_append_right _ (h'.overflow l k line e))

theorem tidy_notice (n : Notice) : Tidy [.notice n] := ⟨by simp, by simp⟩

theorem tidy_announcement (r : RosterId) (t : ThrottleId) (s : System) : Tidy (announcement r t s) := by
  unfold announcement
  split
  · exact tidy_notice _
  · exact .nil

section Wanes
variable {α β : Type} {D : ThrottleId → Prop} {es fs : List Entry} {s s' s'' : System}

theorem Carries.clears (h : Carries es s s')
    (limiter : ∀ t, (s'.throttle t).limiter = (s.throttle t).limiter) : Clears D es s s' :=
  { h with limiter := fun t => .inl (limiter t) }

theorem Wrote.clears (h : Wrote es s s') : Clears D es s s' :=
  h.carries.clears fun t => by rw [throttle, h.throttles, throttle]

theorem Clears.trans (h : Clears D es s s') (h' : Clears D fs s' s'') : Clears D (es ++ fs) s s'' where
  toCarries := h.toCarries.trans h'.toCarries
  limiter t := by
    obtain same' | ⟨cleared, why⟩ := h'.limiter t
    · obtain same | ⟨cleared, why⟩ := h.limiter t
      · exact .inl (same'.trans same)
      · exact .inr ⟨same'.trans cleared, why.imp id (List.mem_append_left _)⟩
    · exact .inr ⟨cleared, why.imp id (List.mem_append_right _)⟩

theorem Wanes.refl (D : ThrottleId → Prop) (s : System) : Wanes D s s :=
  ⟨[], .nil, (Carries.refl s).clears fun _ => rfl⟩

theorem Wanes.trans (h : Wanes D s s') (h' : Wanes D s' s'') : Wanes D s s'' := by
  obtain ⟨es, tidy, clears⟩ := h
  obtain ⟨fs, tidy', clears'⟩ := h'
  exact ⟨es ++ fs, tidy.append tidy', clears.trans clears'⟩

theorem Wrote.wanes (h : Wrote es s s') (tidy : Tidy es) : Wanes D s s' := ⟨es, tidy, h.clears⟩

/-- Rosters, holders, sinks and counters may be any. -/
theorem Clears.of_same (throttles : s'.throttles = s.throttles) (loggers : s'.loggers = s.loggers)
    (stopwatches : s'.stopwatches = s.stopwatches) (journal : s'.journal = s.journal) :
    Clears D [] s s' where
  throttles := Nat.le_of_eq (congrArg Array.size throttles.symm)
  topic t _ := by rw [throttle, throttles, throttle]
  owner t _ := by rw [throttle, throttles, throttle]
  loggers := Nat.le_of_eq (congrArg Array.size loggers.symm)
  logger l _ := by rw [logger, loggers, logger]
  listed l topic t found := .inl (by rwa [logger, loggers])
  fine w := by
    rw [Fine, stopwatch, stopwatches, ← stopwatch, ← Fine]
    exact id
  journal := by rw [journal, List.append_nil]
  limiter t := .inl (by rw [throttle, throttles, throttle])

theorem Wanes.of_same (throttles : s'.throttles = s.throttles) (loggers : s'.loggers = s.loggers)
    (stopwatches : s'.stopwatches = s.stopwatches) (journal : s'.journal = s.journal) :
    Wanes D s s' := ⟨[], .nil, .of_same throttles loggers stopwatches journal⟩

theorem wanes_changeTally (s : System) (l : LoggerId) (f : Tally → Tally) :
    Wanes D s (changeTally l f s) :=
  ⟨[], .nil, (carries_changeTally s l f).clears fun _ => rfl⟩

theorem wanes_enrolled (s : System) (r : RosterId) (t : ThrottleId) : Wanes D s (enrolled r t s) := by
  have field (u : ThrottleId) : ((enrolled r t s).throttle u).topic = (s.throttle u).topic ∧
      ((enrolled r t s).throttle u).logger = (s.throttle u).logger ∧
      ((enrolled r t s).throttle u).limiter = (s.throttle u).limiter := by
    rw [throttle_enrolled]
    split <;> exact ⟨rfl, rfl, rfl⟩
  refine ⟨[], .nil, Carries.clears { Carries.refl s with
    throttles := Nat.le_of_eq (size_throttles_enrolled ..).symm
    topic := fun u _ => (field u).1
    owner := fun u _ => (field u).2.1 } fun u => (field u).2.2⟩

end Wanes

/-- What an entry alone keeps tidy, any number of such entries do. -/
theorem tidy_of_each {es : List Entry} (each : ∀ e ∈ es, Tidy [e]) : Tidy es where
  event t k line there := (each _ there).event t k line List.mem_cons_self
  overflow l k line there := by
    have flushed := (each _ there).overflow l k line List.mem_cons_self
    cases List.mem_singleton.mp flushed

theorem resetting_wanes (D : ThrottleId → Prop) : Resetting (fun e => Tidy [e]) (Wanes D) where
  refl := .refl D
  trans := .trans
  wrote each wrote := wrote.wanes (tidy_of_each each)
  asked _ _ _ := .of_same rfl rfl rfl rfl
  ofReset h := by cases h <;> exact ⟨by simp, by simp⟩
  countDigest s l := wanes_changeTally s l _

section Resets
variable {D : ThrottleId → Prop}

theorem wanes_enrol (r : RosterId) (t : ThrottleId) : Keeps (Wanes D) (enrol r t) :=
  (resetting_wanes D).enrol (tidy_notice _) (wanes_enrolled · r t)

theorem wanes_join (t : ThrottleId) : Keeps (Wanes D) (join t) := (resetting_wanes D).join fun r => wanes_enrol r t

private theorem wanes_cleared (s : System) {t : ThrottleId} (due : D t) :
    Wanes D s (setLimiter t .cleared s) := by
  refine ⟨[], .nil, { carries_setLimiter s t .cleared with limiter := fun u => ?_ }⟩
  rw [throttle_setLimiter]
  split
  · rename_i own
    exact .inr ⟨rfl, .inl (own.1 ▸ due)⟩
  · exact .inl rfl

theorem wanes_resetAll {ts : List ThrottleId} (due : ∀ t ∈ ts, D t) : Keeps (Wanes D) (resetAll ts) :=
  (resetting_wanes D).resetAll fun t member s => wanes_cleared s (due t member)

/-- A flush says so first. -/
theorem clears_flush (D : ThrottleId → Prop) (r : RosterId) (s : System) :
    ∃ es, Tidy (.notice .flushing :: es) ∧ Clears D (.notice .flushing :: es) s ((flush r).exec s).2 := by
  rw [flush_exec]
  obtain ⟨es, tidy, reset⟩ :=
    wanes_resetAll (D := (· ∈ (s.roster r).members)) (fun _ => id) (drained r s)
  have emptied : Clears D [] s (changeRoster r Roster.drain s) := .of_same rfl rfl rfl rfl
  have begun : Clears D [.notice .flushing] s (drained r s) := emptied.trans (wrote_write _ _).clears
  refine ⟨es, (tidy_notice _).append tidy, begun.toCarries.trans reset.toCarries, fun t => ?_⟩
  exact (reset.limiter t).imp id fun cleared => ⟨cleared.1, .inr List.mem_cons_self⟩

theorem wanes_flush (r : RosterId) : Keeps (Wanes D) (flush r) := by
  intro s
  obtain ⟨es, tidy, clears⟩ := clears_flush D r s
  exact ⟨_, tidy, clears⟩

end Resets

section Lookups
variable {D : ThrottleId → Prop} {s s' : System}

theorem closing_wanes (D : ThrottleId → Prop) : Closing (Wanes D) where
  refl := .refl D
  trans h h' := h.trans h'
  flush := wanes_flush
  close _ _ := .of_same rfl rfl rfl rfl
  cancelJobs _ _ := .of_same rfl rfl rfl rfl
  letGo _ _ := .of_same rfl rfl rfl rfl

private theorem wanes_registered (s : System) (l : LoggerId) (topic : Topic) :
    Wanes D s (registered l topic s) := by
  have old (t : ThrottleId) (ht : t < s.throttles.size) :
      (registered l topic s).throttle t = s.throttle t := by
    rw [throttle_registered, if_neg (Nat.ne_of_lt ht)]
  refine ⟨[], .nil, Carries.clears { Carries.refl s with
    throttles := ?_, topic := fun t ht => ?_, owner := fun t ht => ?_, loggers := ?_
    logger := fun i _ => ?_, listed := fun i other t found => .inl ?_ } fun t => ?_⟩
  · rw [size_throttles_registered]
    exact Nat.le_succ _
  · rw [old t ht]
  · rw [old t ht]
  · rw [size_loggers_registered]
  · rw [logger_registered]
    split <;> rfl
  · rw [logger_registered]
    split
    · rename_i own
      rw [← own.1] at found
      rw [Catalogue.find?_insert]
      split
      · rename_i same
        rw [← same, found]
        rfl
      · exact found
    · exact found
  · rw [throttle_registered]
    split
    · rename_i new
      rw [new, throttle_of_size_le (Nat.le_refl _)]
      rfl
    · rfl

theorem wanes_introduce {l : LoggerId} {topic : Topic}
    (absent : (s.logger l).catalogue.find? topic = none) :
    Wanes D s ((introduce l topic).exec s).2 := by
  obtain ⟨s', he, hw⟩ := introduce_exec absent
  rw [he]
  exact (wanes_registered s l topic).trans
    ((hw.wanes (tidy_announcement _ _ _)).trans (wanes_enrolled s' _ _))

/-- A catalogue may be emptied once its logger has warned. -/
private theorem Clears.vacate {es : List Entry} {l : LoggerId} {k : SinkId} {line : Line}
    (h : Clears D es s s') (warned : .line (.overflow l) k line ∈ es) :
    Clears D es s (setCatalogue l .cleared s') := by
  refine { h with loggers := ?_, logger := fun i hi => ?_, listed := fun i topic t found => ?_ }
  · rw [size_loggers_setCatalogue]
    exact h.loggers
  · rw [← h.logger i hi, logger_setCatalogue]
    split <;> rfl
  · rw [logger_setCatalogue]
    split
    · rename_i own
      exact .inr ⟨k, line, own.1 ▸ warned⟩
    · exact h.listed i topic t found

theorem wanes_overflow (l : LoggerId) : Keeps (Wanes D) (overflow l) := by
  intro s
  cases answer : s.refusal? l with
  | some f =>
    obtain ⟨s', he, wrote⟩ := overflow_refused answer
    rw [he]
    exact wrote.wanes (tidy_notice _)
  | none =>
    obtain ⟨s₁, s₂, wrote, flush, he⟩ := overflow_taken answer
    obtain ⟨es, tidy, flushed⟩ := clears_flush D (s.logger l).roster s₁
    rw [flush] at flushed
    have all : Clears D (s.overflowEntries l ++ .notice .flushing :: es) s s₂ := wrote.clears.trans flushed
    have warned : .line (.overflow l) (s.logger l).sink ⟨.warn, overflowWarning⟩ ∈
        s.overflowEntries l ++ .notice .flushing :: es := by simp [overflowEntries]
    have events : ∀ t k line, .line (.event t) k line ∉ s.overflowEntries l ++ .notice .flushing :: es := by
      simpa [overflowEntries] using tidy.event
    rw [he]
    exact Wanes.trans ⟨_, ⟨events, by simp⟩, all.vacate warned⟩ (wanes_changeTally _ l Tally.countOverflow)

theorem wanes_lookup (l : LoggerId) (topic : Topic) : Keeps (Wanes D) (lookup l topic) := by
  intro s
  cases found : (s.logger l).catalogue.find? topic with
  | some t =>
    rw [lookup_of_some found]
    exact .refl D s
  | none =>
    rw [lookup_of_none found]
    split
    · have first := wanes_overflow (D := D) l s
      rw [exec_bind]
      cases he : (overflow l).exec s with
      | mk answer s' =>
        rw [he] at first
        cases answer with
        | error f => exact first
        | ok => exact first.trans (wanes_introduce (absent_overflow found he))
    · exact wanes_introduce found

end Lookups

end LogThrottle.System
