import LogThrottle.System.Views

/-! Where a throttle belongs: the roster and the period of its logger. -/
namespace LogThrottle.System

def home (s : System) (t : ThrottleId) : RosterId := (s.logger (s.throttle t).logger).roster

def period (s : System) (t : ThrottleId) : Duration := (s.logger (s.throttle t).logger).quota.period

/-- A member of the slot for its period in its own roster. -/
def Enrolled (s : System) (t : ThrottleId) : Prop :=
  t ∈ (s.roster (s.home t)).membersAt (s.period t)

instance (s : System) (t : ThrottleId) : Decidable (s.Enrolled t) :=
  inferInstanceAs (Decidable (t ∈ (s.roster (s.home t)).membersAt (s.period t)))

/-- Flushes so far, of any roster. -/
def flushes (s : System) : Nat := s.journal.toList.count (.notice .flushing)

/-- A roster's epoch begun with empty slots; its former members are not reset yet. -/
def drained (r : RosterId) (s : System) : System :=
  write (.notice .flushing) (changeRoster r Roster.drain s)

/-- A throttle enrolled with a roster under its period, and stamped with the roster's epoch. -/
def enrolled (r : RosterId) (t : ThrottleId) (s : System) : System :=
  setStamp t (s.roster r).epoch (changeRoster r (·.enrol (s.period t) t) s)

/-- A fresh throttle in its logger's catalogue, not enrolled yet. -/
def registered (l : LoggerId) (topic : Topic) (s : System) : System :=
  setCatalogue l ((s.logger l).catalogue.insert topic s.throttles.size).1
    { s with throttles := s.throttles.push { topic, logger := l } }

theorem alive_iff {s : System} {r : RosterId} : s.alive r = true ↔ ∃ h ∈ s.holders, h.roster = r := by
  simp [alive]

section Views
variable (s : System)

theorem roster_drained (r i : RosterId) :
    (drained r s).roster i = if r = i ∧ i < s.rosters.size then (s.roster i).drain else s.roster i :=
  roster_changeRoster ..

theorem delivered_drained (r : RosterId) (k : SinkId) : (drained r s).delivered k = s.delivered k := by
  have entered : (drained r s).journal.toList = s.journal.toList ++ [.notice .flushing] := Array.toList_push
  rw [delivered_append entered]
  exact List.append_nil _

theorem roster_enrolled (r i : RosterId) (t : ThrottleId) :
    (enrolled r t s).roster i =
      if r = i ∧ i < s.rosters.size then (s.roster i).enrol (s.period t) t else s.roster i :=
  roster_changeRoster ..

theorem throttle_enrolled (r : RosterId) (t i : ThrottleId) :
    (enrolled r t s).throttle i =
      if t = i ∧ i < s.throttles.size then { s.throttle i with stamp := (s.roster r).epoch }
      else s.throttle i :=
  throttle_setStamp ..

theorem throttle_registered (l : LoggerId) (topic : Topic) (i : ThrottleId) :
    (registered l topic s).throttle i =
      if i = s.throttles.size then { topic, logger := l } else s.throttle i :=
  getD_push ..

theorem logger_registered (l i : LoggerId) (topic : Topic) :
    (registered l topic s).logger i =
      if l = i ∧ i < s.loggers.size then
        { s.logger i with catalogue := ((s.logger l).catalogue.insert topic s.throttles.size).1 }
      else s.logger i :=
  logger_setCatalogue ..

@[simp] theorem size_rosters_drained (r : RosterId) :
    (drained r s).rosters.size = s.rosters.size := size_rosters_changeRoster ..

@[simp] theorem size_rosters_enrolled (r : RosterId) (t : ThrottleId) :
    (enrolled r t s).rosters.size = s.rosters.size := size_rosters_changeRoster ..

@[simp] theorem size_throttles_enrolled (r : RosterId) (t : ThrottleId) :
    (enrolled r t s).throttles.size = s.throttles.size := size_throttles_setStamp ..

@[simp] theorem size_throttles_registered (l : LoggerId) (topic : Topic) :
    (registered l topic s).throttles.size = s.throttles.size + 1 := Array.size_push ..

@[simp] theorem size_loggers_registered (l : LoggerId) (topic : Topic) :
    (registered l topic s).loggers.size = s.loggers.size := size_loggers_setCatalogue ..

@[simp] theorem home_enrolled (r : RosterId) (t u : ThrottleId) :
    (enrolled r t s).home u = s.home u := by
  have : ((enrolled r t s).throttle u).logger = (s.throttle u).logger := by
    rw [throttle_enrolled]
    split <;> rfl
  rw [home, this]
  rfl

@[simp] theorem period_enrolled (r : RosterId) (t u : ThrottleId) :
    (enrolled r t s).period u = s.period u := by
  have : ((enrolled r t s).throttle u).logger = (s.throttle u).logger := by
    rw [throttle_enrolled]
    split <;> rfl
  rw [period, this]
  rfl

@[simp] theorem epoch_enrolled (r i : RosterId) (t : ThrottleId) :
    ((enrolled r t s).roster i).epoch = (s.roster i).epoch := by
  rw [roster_enrolled]
  split
  · exact Roster.epoch_enrol ..
  · rfl

theorem mem_membersAt_enrolled (r i : RosterId) (t u : ThrottleId) (p : Duration) :
    u ∈ ((enrolled r t s).roster i).membersAt p ↔
      u ∈ (s.roster i).membersAt p ∨ (r = i ∧ i < s.rosters.size) ∧ p = s.period t ∧ u = t := by
  rw [roster_enrolled]
  split
  · rename_i h
    simp [Roster.mem_membersAt_enrol, h]
  · rename_i h
    simp [h]

theorem home_registered (l : LoggerId) (topic : Topic) :
    (registered l topic s).home s.throttles.size = (s.logger l).roster := by
  rw [home, throttle_registered, if_pos rfl, logger_registered]
  split <;> rfl

end Views

end LogThrottle.System
