import LogThrottle.Proofs.Enrolment.Shift

/-! The numbers by which parts refer to each other are numbers of parts that exist, and refer back
where they should. -/
namespace LogThrottle.System

structure Sound (s : System) : Prop where
  holder : ∀ h ∈ s.holders, h.roster < s.rosters.size
  /-- Whoever holds a logger holds its roster. -/
  client : ∀ h ∈ s.holders, ∀ l, h.kind = .logger l →
    l < s.loggers.size ∧ h.roster = (s.logger l).roster
  logger : ∀ l < s.loggers.size, (s.logger l).roster < s.rosters.size
  throttle : ∀ t < s.throttles.size, (s.throttle t).logger < s.loggers.size
  catalogue : ∀ l topic t, (s.logger l).catalogue.find? topic = some t →
    t < s.throttles.size ∧ (s.throttle t).logger = l ∧ (s.throttle t).topic = topic

namespace Sound
variable {s s' : System}

theorem alive_lt (h : Sound s) {r : RosterId} (alive : s.alive r = true) : r < s.rosters.size := by
  obtain ⟨x, hx, rfl⟩ := alive_iff.mp alive
  exact h.holder x hx

theorem home_lt (h : Sound s) {t : ThrottleId} (made : t < s.throttles.size) :
    s.home t < s.rosters.size :=
  h.logger _ (h.throttle t made)

/-- A logger that can be used exists, and its roster is alive. -/
theorem held (h : Sound s) {l : LoggerId} (held : s.loggerHeld l) :
    l < s.loggers.size ∧ s.alive (s.logger l).roster = true := by
  obtain ⟨x, hx, hk⟩ := held
  obtain ⟨hl, hr⟩ := h.client x hx l hk
  exact ⟨hl, alive_iff.mpr ⟨x, hx, hr⟩⟩

theorem empty : Sound {} where
  holder h hh := absurd hh List.not_mem_nil
  client h hh := absurd hh List.not_mem_nil
  logger l hl := absurd hl (Nat.not_lt_zero l)
  throttle t ht := absurd ht (Nat.not_lt_zero t)
  catalogue l topic t found := by
    have : (({} : System).logger l).catalogue = {} := rfl
    rw [this] at found
    exact absurd found (by simp [Catalogue.find?, Catalogue.shelf])

theorem steady (h : Sound s) (same : Steady s s') : Sound s' where
  holder x hx := by
    rw [same.holders] at hx
    rw [same.rosters]
    exact h.holder x hx
  client x hx l hk := by
    rw [same.holders] at hx
    rw [same.loggers, same.logger_roster]
    exact h.client x hx l hk
  logger l hl := by
    rw [same.loggers] at hl
    rw [same.logger_roster, same.rosters]
    exact h.logger l hl
  throttle t ht := by
    rw [same.throttles] at ht
    rw [same.logger_eq, same.loggers]
    exact h.throttle t ht
  catalogue l topic t found := by
    rw [same.logger_catalogue] at found
    rw [same.throttles, same.logger_eq, same.topic_eq]
    exact h.catalogue l topic t found

/-- Changing a roster in place. -/
theorem changeRoster (h : Sound s) (r : RosterId) (f : Roster → Roster) :
    Sound (changeRoster r f s) where
  holder x hx := by
    rw [size_rosters_changeRoster]
    exact h.holder x hx
  client := h.client
  logger l hl := by
    rw [size_rosters_changeRoster]
    exact h.logger l hl
  throttle := h.throttle
  catalogue := h.catalogue

theorem setStamp (h : Sound s) (t : ThrottleId) (e : UInt64) : Sound (setStamp t e s) where
  holder := h.holder
  client := h.client
  logger := h.logger
  throttle i hi := by
    rw [size_throttles_setStamp] at hi
    rw [throttle_setStamp]
    split <;> exact h.throttle i hi
  catalogue l topic i found := by
    rw [size_throttles_setStamp, throttle_setStamp]
    split <;> exact h.catalogue l topic i found

theorem enrolled (h : Sound s) (r : RosterId) (t : ThrottleId) : Sound (enrolled r t s) :=
  (h.changeRoster r _).setStamp t _

theorem registered (h : Sound s) {l : LoggerId} {topic : Topic} (made : l < s.loggers.size)
    (absent : (s.logger l).catalogue.find? topic = none) : Sound (registered l topic s) := by
  have loggers (i : LoggerId) : ((System.registered l topic s).logger i).roster = (s.logger i).roster := by
    rw [logger_registered]
    split <;> rfl
  refine ⟨h.holder, ?_, ?_, ?_, ?_⟩
  · intro x hx i hk
    rw [loggers, size_loggers_registered]
    exact h.client x hx i hk
  · intro i hi
    rw [size_loggers_registered] at hi
    rw [loggers]
    exact h.logger i hi
  · intro t ht
    rw [size_throttles_registered] at ht
    rw [size_loggers_registered, throttle_registered]
    split
    · exact made
    · rename_i old
      exact h.throttle t (Nat.lt_of_le_of_ne (Nat.le_of_lt_succ ht) old)
  · intro i other t found
    rw [size_throttles_registered, throttle_registered]
    have old (found : (s.logger i).catalogue.find? other = some t) :
        t < s.throttles.size + 1 ∧
          (if t = s.throttles.size then ({ topic, logger := l } : Throttle) else s.throttle t).logger = i ∧
          (if t = s.throttles.size then ({ topic, logger := l } : Throttle) else s.throttle t).topic =
            other := by
      obtain ⟨ht, hl, hp⟩ := h.catalogue i other t found
      rw [if_neg (Nat.ne_of_lt ht)]
      exact ⟨Nat.lt_succ_of_lt ht, hl, hp⟩
    rw [logger_registered] at found
    split at found
    · rename_i hi
      obtain ⟨rfl, _⟩ := hi
      rw [Catalogue.find?_insert, absent] at found
      split at found
      · rename_i same
        obtain rfl : s.throttles.size = t := Option.some.inj found
        rw [if_pos rfl]
        exact ⟨Nat.lt_succ_self _, rfl, same.symm⟩
      · exact old found
    · exact old found

theorem vacate (h : Sound s) (l : LoggerId) : Sound (setCatalogue l .cleared s) := by
  have rosters (i : LoggerId) : ((setCatalogue l .cleared s).logger i).roster = (s.logger i).roster := by
    rw [logger_setCatalogue]
    split <;> rfl
  refine ⟨h.holder, ?_, ?_, ?_, ?_⟩
  · intro x hx i hk
    rw [rosters, size_loggers_setCatalogue]
    exact h.client x hx i hk
  · intro i hi
    rw [size_loggers_setCatalogue] at hi
    rw [rosters]
    exact h.logger i hi
  · intro t ht
    rw [size_loggers_setCatalogue]
    exact h.throttle t ht
  · intro i topic t found
    rw [logger_setCatalogue] at found
    split at found
    · exact absurd found (by simp)
    · exact h.catalogue i topic t found

theorem hold (h : Sound s) {x : Holder} (alive : s.alive x.roster = true)
    (client : ∀ l, x.kind = .logger l → l < s.loggers.size ∧ x.roster = (s.logger l).roster) :
    Sound { s with holders := x :: s.holders } where
  holder y hy := by
    rcases List.mem_cons.mp hy with rfl | hy
    · exact h.alive_lt alive
    · exact h.holder y hy
  client y hy := by
    rcases List.mem_cons.mp hy with rfl | hy
    · exact client
    · exact h.client y hy
  logger := h.logger
  throttle := h.throttle
  catalogue := h.catalogue

theorem openRoster (h : Sound s) : Sound { s with
    rosters := s.rosters.push {}, holders := ⟨.owner, s.rosters.size⟩ :: s.holders } where
  holder y hy := by
    rw [Array.size_push]
    rcases List.mem_cons.mp hy with rfl | hy
    · exact Nat.lt_succ_self _
    · exact Nat.lt_succ_of_lt (h.holder y hy)
  client y hy l hk := by
    rcases List.mem_cons.mp hy with rfl | hy
    · cases hk
    · exact h.client y hy l hk
  logger l hl := by
    rw [Array.size_push]
    exact Nat.lt_succ_of_lt (h.logger l hl)
  throttle := h.throttle
  catalogue := h.catalogue

theorem build (h : Sound s) {x : Logger} (alive : s.alive x.roster = true) (fresh : x.catalogue = {}) :
    Sound { s with
      loggers := s.loggers.push x
      holders := ⟨.logger s.loggers.size, x.roster⟩ :: s.holders } := by
  have loggers (i : LoggerId) : System.logger { s with
      loggers := s.loggers.push x
      holders := ⟨.logger s.loggers.size, x.roster⟩ :: s.holders } i =
      if i = s.loggers.size then x else s.logger i := getD_push ..
  refine ⟨?_, ?_, ?_, ?_, ?_⟩
  · intro y hy
    rcases List.mem_cons.mp hy with rfl | hy
    · exact h.alive_lt alive
    · exact h.holder y hy
  · intro y hy l hk
    rw [loggers, Array.size_push]
    rcases List.mem_cons.mp hy with rfl | hy
    · cases hk
      exact ⟨Nat.lt_succ_self _, by rw [if_pos rfl]⟩
    · obtain ⟨hl, hr⟩ := h.client y hy l hk
      exact ⟨Nat.lt_succ_of_lt hl, by rw [if_neg (Nat.ne_of_lt hl)]; exact hr⟩
  · intro l hl
    rw [Array.size_push] at hl
    rw [loggers]
    split
    · exact h.alive_lt alive
    · rename_i old
      exact h.logger l (Nat.lt_of_le_of_ne (Nat.le_of_lt_succ hl) old)
  · intro t ht
    rw [Array.size_push]
    exact Nat.lt_succ_of_lt (h.throttle t ht)
  · intro l topic t found
    rw [loggers] at found
    split at found
    · rw [fresh] at found
      exact absurd found (by simp [Catalogue.find?, Catalogue.shelf])
    · exact h.catalogue l topic t found

theorem shift (h : Sound s) (moved : Shift s s') : Sound s' := by
  cases moved with
  | steady same => exact h.steady same
  | drain r => exact ⟨(h.changeRoster r _).holder, h.client, (h.changeRoster r _).logger, h.throttle, h.catalogue⟩
  | join made alive => exact h.enrolled _ _
  | introduce made alive absent same => exact ((h.registered made absent).steady same).enrolled _ _
  | vacate l => exact h.vacate l
  | close r => exact h.changeRoster r _
  | cancelJobs r => exact h.changeRoster r _
  | hold alive client => exact h.hold alive client
  | letGo x =>
    exact ⟨fun y hy => h.holder y (List.mem_of_mem_erase hy),
      fun y hy => h.client y (List.mem_of_mem_erase hy), h.logger, h.throttle, h.catalogue⟩
  | openRoster => exact h.openRoster
  | build alive fresh => exact h.build alive fresh

theorem shifts (h : Sound s) (path : Shifts s s') : Sound s' := by
  induction path with
  | refl => exact h
  | tail _ last ih => exact ih.shift last

end Sound
end LogThrottle.System
