import LogThrottle.Proofs.Enrolment.Alignment

/-! Whatever callers enrol where, members exist and are in the slots for their own periods. -/
namespace LogThrottle.System
namespace Filed
variable {s s' : System}

theorem empty : Filed {} := fun _ _ _ member => absurd member List.not_mem_nil

theorem alike (h : Filed s) (same : Alike s s') : Filed s' := by
  intro r p t member
  rw [same.membersAt] at member
  obtain ⟨made, own⟩ := h r p t member
  rw [same.period t made]
  exact ⟨Nat.lt_of_lt_of_le made same.size, own⟩

theorem drained (h : Filed s) (r : RosterId) : Filed (drained r s) := by
  intro i p t member
  rw [roster_drained] at member
  split at member
  · rw [Roster.membersAt_drain] at member
    exact absurd member List.not_mem_nil
  · exact h i p t member

theorem enrolled (h : Filed s) (r : RosterId) {t : ThrottleId} (made : t < s.throttles.size) :
    Filed (enrolled r t s) := by
  intro i p u member
  rw [size_throttles_enrolled, period_enrolled]
  rcases (mem_membersAt_enrolled s r i t u p).mp member with old | ⟨_, rfl, rfl⟩
  · exact h i p u old
  · exact ⟨made, rfl⟩

theorem shift (h : Filed s) (sound : Sound s) (moved : Shift s s') : Filed s' := by
  cases moved with
  | steady same => exact h.alike same.alike
  | drain r => exact h.drained r
  | join made alive => exact h.enrolled _ made
  | @introduce s' l topic made alive absent same =>
    refine (h.alike ((Alike.registered s l topic).trans same.alike)).enrolled _ ?_
    rw [same.throttles, size_throttles_registered]
    exact Nat.lt_succ_self _
  | vacate l => exact h.alike (.setCatalogue s l _)
  | close r => exact h.alike (.changeRoster s r (fun _ => rfl) fun _ _ => rfl)
  | cancelJobs r => exact h.alike (.changeRoster s r (fun _ => rfl) Roster.membersAt_cancelJobs)
  | hold | letGo => exact h.alike { Alike.refl s with }
  | openRoster => exact h.alike (.openRoster s)
  | build alive fresh => exact h.alike (.build sound _)

theorem shifts (h : Filed s) (sound : Sound s) (path : Shifts s s') : Filed s' := by
  induction path with
  | refl => exact h
  | tail path last ih => exact ih.shift (sound.shifts path) last

theorem after {a : Action} (h : Filed s) (sound : Sound s) (ready : a.Ready s) : Filed (s.after a) := by
  by_cases domestic : a.Domestic s
  · exact h.shifts sound (shifts_after sound ready domestic)
  · cases a with
    | enrol r t =>
      obtain ⟨s', same, he⟩ := after_enrol s r t
      rw [he]
      exact (h.alike same.alike).enrolled r (same.throttles ▸ ready.2)
    | _ => exact absurd trivial domestic

end Filed

theorem Reachable.filed {s : System} (h : Reachable s) : Filed s := by
  induction h with
  | empty => exact .empty
  | after a reached ready ih => exact ih.after reached.sound ready

end LogThrottle.System
