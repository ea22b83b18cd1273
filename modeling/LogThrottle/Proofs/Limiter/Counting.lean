import Mathlib
import LogThrottle.Limiter

/-! The limiter as plain counting. Count and mark are read off the stopwatch readings at the events
since the last reset, and so are the decisions and what a reset reports. -/
namespace LogThrottle.Limiter

/-- A limiter stands for the readings at its events, oldest first. -/
structure Tracks (limit : UInt32) (events : List Duration) (x : Limiter) : Prop where
  count : x.count.toNat = events.length
  mark : x.mark = ((events[limit.toNat - 1]?).map Duration.clockMillis).getD 0

namespace Tracks
variable {limit : UInt32} {events : List Duration} {x : Limiter}

theorem cleared (limit : UInt32) : Tracks limit [] .cleared := ⟨rfl, rfl⟩

theorem mark_of_reached (h : Tracks limit events x) {reached : Duration}
    (at_limit : events[limit.toNat - 1]? = some reached) : x.mark = reached.clockMillis := by
  rw [h.mark, at_limit, Option.map_some, Option.getD_some]

/-- The mark is set exactly once the limit is reached. -/
theorem isLimited_iff (h : Tracks limit events x) (positive : 0 < limit.toNat) :
    x.isLimited = true ↔ limit.toNat ≤ events.length := by
  rw [isLimited, bne_iff_ne, h.mark]
  by_cases reached : limit.toNat ≤ events.length
  · have inside : limit.toNat - 1 < events.length := by omega
    simp [inside, reached, Duration.clockMillis_ne_zero]
  · have outside : events.length ≤ limit.toNat - 1 := by omega
    simp [outside, reached]

theorem count_bump (h : Tracks limit events x) (few : events.length + 1 < 2 ^ 64) :
    x.bump.count.toNat = events.length + 1 := by
  rw [bump, UInt64.toNat_add, h.count]
  exact Nat.mod_eq_of_lt few

theorem ordinal_eq (h : Tracks limit events x) (few : events.length + 1 < 2 ^ 64) :
    x.ordinal.toNat = events.length + 1 := by
  rw [ordinal_toNat, h.count]
  omega

/-- What an event has to do, said by how many came before it. -/
theorem course_eq (h : Tracks limit events x) (positive : 0 < limit.toNat)
    (few : events.length + 1 < 2 ^ 64) :
    x.bump.course limit x.ordinal =
      if events.length + 1 < limit.toNat then .pass
      else if limit.toNat ≤ events.length then .hold else .mark := by
  have early : below limit x.ordinal = true ↔ events.length + 1 < limit.toNat := by
    rw [below_iff, h.ordinal_eq few]
  have late : x.bump.isLimited = true ↔ limit.toNat ≤ events.length := h.isLimited_iff positive
  simp only [course, early, late]

private theorem bumped (h : Tracks limit events x) (few : events.length + 1 < 2 ^ 64) (now : Duration)
    (elsewhere : events.length ≠ limit.toNat - 1) : Tracks limit (events ++ [now]) x.bump := by
  refine ⟨?_, ?_⟩
  · rw [h.count_bump few, List.length_append, List.length_singleton]
  · have same : (events ++ [now])[limit.toNat - 1]? = events[limit.toNat - 1]? := by
      by_cases inside : limit.toNat - 1 < events.length
      · exact List.getElem?_append_left inside
      · rw [List.getElem?_eq_none (Nat.le_of_not_lt inside), List.getElem?_eq_none]
        rw [List.length_append, List.length_singleton]
        omega
    rw [same]
    exact h.mark

/-- An attempt appends its reading, and passes exactly if fewer than `limit` events came before. -/
theorem attempt (h : Tracks limit events x) (positive : 0 < limit.toNat)
    (few : events.length + 1 < 2 ^ 64) (now : Duration) :
    (x.attempt limit now.clockMillis).1 = (if events.length < limit.toNat then .allow else .suppress) ∧
      Tracks limit (events ++ [now]) (x.attempt limit now.clockMillis).2 := by
  rw [Limiter.attempt, h.course_eq positive few]
  by_cases early : events.length + 1 < limit.toNat
  · simp only [if_pos early, if_pos (Nat.lt_of_succ_lt early), true_and]
    exact h.bumped few now (by omega)
  · rw [if_neg early]
    by_cases late : limit.toNat ≤ events.length
    · rw [if_pos late, if_neg (Nat.not_lt.mpr late)]
      exact ⟨rfl, h.bumped few now (by omega)⟩
    · rw [if_neg late, if_pos (Nat.not_le.mp late)]
      refine ⟨rfl, ?_⟩
      have at_limit : events.length = limit.toNat - 1 := by omega
      have counted : ¬below limit x.bump.count = true := by
        rw [below_iff, h.count_bump few]
        exact early
      have unmarked : x.bump.mark = 0 := by
        rw [bump, h.mark, List.getElem?_eq_none (Nat.le_of_eq at_limit)]
        rfl
      simp only [counted, setMark, unmarked, if_true]
      refine ⟨?_, ?_⟩
      · rw [List.length_append]
        exact h.count_bump few
      · rw [← at_limit, List.getElem?_concat_length]
        rfl

/-- A reset reports the events beyond the limit. -/
theorem withheld_eq (h : Tracks limit events x) (positive : 0 < limit.toNat) :
    (x.withheld limit).toNat = events.length - limit.toNat := by
  by_cases limited : x.isLimited = true
  · rw [withheld_toNat limit x limited, h.count]
  · rw [withheld, if_neg limited, UInt64.toNat_zero]
    have := mt (h.isLimited_iff positive).mpr limited
    omega

end Tracks
end LogThrottle.Limiter
