import LogThrottle.Proofs.Enrolment.Filing
import LogThrottle.Proofs.Enrolment.Idle
import LogThrottle.Proofs.System.Beside
import LogThrottle.Proofs.Windows.Giving

/-! What is settled for good in a run. A roster that was closed stays closed, one that nobody holds stays
without holders, and a throttle is a member of its own roster alone unless a caller enrolled it with another. -/
namespace LogThrottle.System
open Call
variable {r : RosterId} {t : ThrottleId} {a : Action} {s s' : System} {as bs : List Action}

section Closed

theorem Shift.closed (moved : Shift s s') (closed : (s.roster r).closed = true) : (s'.roster r).closed = true := by
  cases moved with
  | steady same => rwa [same.roster_eq]
  | drain i => rwa [(beside_drained s i).closed]
  | join => rwa [(beside_enrolled ..).closed]
  | introduce _ _ _ same =>
    rw [(beside_enrolled ..).closed, same.roster_eq]
    exact closed
  | close i =>
    rw [roster_changeRoster]
    split
    · rfl
    · exact closed
  | cancelJobs i => rwa [(beside_changeRoster s i (f := Roster.cancelJobs) fun _ => rfl).closed]
  | openRoster =>
    rw [roster, getD_push]
    split
    · rename_i new
      rw [roster, getD_of_size_le (Nat.le_of_eq new.symm)] at closed
      exact closed
    · exact closed
  | vacate | hold | letGo | build => exact closed

theorem Shifts.closed (path : Shifts s s') (closed : (s.roster r).closed = true) : (s'.roster r).closed = true := by
  induction path with
  | refl => exact closed
  | tail _ last ih => exact last.closed ih

theorem closed_after (sound : Sound s) (ready : a.Ready s) (closed : (s.roster r).closed = true) :
    ((s.after a).roster r).closed = true := by
  by_cases domestic : a.Domestic s
  · exact (shifts_after sound ready domestic).closed closed
  · cases a with
    | enrol i u =>
      obtain ⟨s', same, he⟩ := after_enrol s i u
      rwa [he, (beside_enrolled ..).closed, same.roster_eq]
    | _ => exact absurd trivial domestic

theorem shutdown_of_closed (closed : (s.roster r).closed = true) : (shutdown r).exec s = (.ok (), s) := by
  simp only [shutdown, exec_bind, exec_get, closed, if_true]
  rfl

theorem closed_shutdown (there : r < s.rosters.size) : ((s.after (.shutdown r)).roster r).closed = true := by
  cases closed : (s.roster r).closed with
  | true =>
    have unmoved : s.after (.shutdown r) = s := congrArg Prod.snd (shutdown_of_closed closed)
    rwa [unmoved]
  | false =>
    obtain ⟨s₁, he, same⟩ := flush_outcome r (changeRoster r Roster.close s)
    have after : s.after (.shutdown r) = changeRoster r Roster.cancelJobs s₁ := by
      simp only [after, Action.perform, shutdown, exec_bind, exec_get, exec_modify, closed, he,
        Bool.false_eq_true, if_false]
    have size : s₁.rosters.size = s.rosters.size := by
      rw [same.rosters, size_rosters_drained, size_rosters_changeRoster]
    rw [after, roster_changeRoster, if_pos ⟨rfl, size ▸ there⟩, same.roster_eq, roster_drained,
      if_pos ⟨rfl, by rwa [size_rosters_changeRoster]⟩, roster_changeRoster, if_pos ⟨rfl, there⟩]
    rfl

theorem closed_run (sound : Sound s) (feasible : s.Feasible as) (closed : (s.roster r).closed = true) :
    ((s.run as).roster r).closed = true :=
  (feasible.keeps (I := fun s => Sound s ∧ (s.roster r).closed = true) ⟨sound, closed⟩
    fun _ _ h ready => ⟨h.1.after ready, closed_after h.1 ready h.2⟩).2

end Closed

section Alive

/-- No action brings a roster back that nobody holds. -/
private theorem alive_of_after (sound : Sound s) (ready : a.Ready s) (there : r < s.rosters.size) :
    ((s.after a).alive r = true → s.alive r = true) ∧ r < (s.after a).rosters.size := by
  by_cases bare : ∃ t, a = .attempt t
  · obtain ⟨t, rfl⟩ := bare
    have same : Steady s (s.after (.attempt t)) := steady_attempt t s
    exact ⟨fun alive => by rwa [same.alive_eq] at alive, by rwa [same.rosters]⟩
  · have spared := spares_after sound ready fun t same => bare ⟨t, same⟩
    exact ⟨spared.alive r there, Nat.lt_of_lt_of_le there spared.rosters⟩

theorem alive_of_run (sound : Sound s) (feasible : s.Feasible as) (there : r < s.rosters.size)
    (alive : (s.run as).alive r = true) : s.alive r = true := by
  induction as generalizing s with
  | nil => exact alive
  | cons a as ih =>
    obtain ⟨back, there'⟩ := alive_of_after sound feasible.1 there
    exact back (ih (sound.after feasible.1) feasible.2 there' alive)

end Alive

/-- Members of rosters that are not their own were enrolled there by a caller. -/
def Invited (as : List Action) (s : System) : Prop :=
  ∀ i p, ∀ t ∈ (s.roster i).membersAt p, i = s.home t ∨ .enrol i t ∈ as

namespace Invited

theorem alike (h : Invited as s) (filed : Filed s) (same : Alike s s') : Invited as s' := by
  intro i p t member
  rw [same.membersAt] at member
  rw [same.home t (filed i p t member).1]
  exact h i p t member

theorem enrolled (h : Invited as s) {i : RosterId} {u : ThrottleId} (known : i = s.home u ∨ .enrol i u ∈ as) :
    Invited as (enrolled i u s) := by
  intro j p t member
  rw [home_enrolled]
  rcases (mem_membersAt_enrolled s i j u t p).mp member with old | ⟨⟨rfl, _⟩, _, rfl⟩
  · exact h j p t old
  · exact known

theorem shift (h : Invited as s) (filed : Filed s) (sound : Sound s) (moved : Shift s s') : Invited as s' := by
  cases moved with
  | steady same => exact h.alike filed same.alike
  | drain i =>
    intro j p t member
    rw [roster_drained] at member
    split at member
    · rw [Roster.membersAt_drain] at member
      exact absurd member List.not_mem_nil
    · exact h j p t member
  | join => exact h.enrolled (.inl rfl)
  | @introduce s' l topic made alive absent same =>
    refine (h.alike filed ((Alike.registered s l topic).trans same.alike)).enrolled (.inl ?_)
    rw [same.home_eq, home_registered]
  | vacate l => exact h.alike filed (.setCatalogue s l _)
  | close i => exact h.alike filed (.changeRoster s i (fun _ => rfl) fun _ _ => rfl)
  | cancelJobs i => exact h.alike filed (.changeRoster s i (fun _ => rfl) Roster.membersAt_cancelJobs)
  | hold | letGo => exact h.alike filed { Alike.refl s with }
  | openRoster => exact h.alike filed (.openRoster s)
  | build alive fresh => exact h.alike filed (.build sound _)

theorem shifts (h : Invited as s) (filed : Filed s) (sound : Sound s) (path : Shifts s s') : Invited as s' := by
  induction path with
  | refl => exact h
  | tail path last ih => exact ih.shift (filed.shifts sound path) (sound.shifts path) last

theorem mono (h : Invited as s) (more : as ⊆ bs) : Invited bs s := fun i p t member =>
  (h i p t member).imp id fun there => more there

end Invited

theorem invited_run (feasible : System.Feasible {} as) : Invited as (System.run {} as) := by
  induction as using List.reverseRecOn with
  | nil => exact fun _ _ _ member => absurd member List.not_mem_nil
  | append_singleton as a ih =>
    obtain ⟨earlier, ready⟩ := along_snoc.mp feasible
    have reached := reachable_run as .empty earlier
    have invited : Invited (as ++ [a]) (System.run {} as) := (ih earlier).mono (List.subset_append_left ..)
    rw [run_snoc]
    by_cases domestic : a.Domestic (System.run {} as)
    · exact invited.shifts reached.filed reached.sound (shifts_after reached.sound ready domestic)
    · cases a with
      | enrol i u =>
        obtain ⟨s', same, he⟩ := after_enrol (System.run {} as) i u
        rw [he]
        exact (invited.alike reached.filed same.alike).enrolled (.inr (by simp))
      | _ => exact absurd trivial domestic

theorem home_run (sound : Sound s) (feasible : s.Feasible as) (made : t < s.throttles.size) :
    (s.run as).home t = s.home t := by
  obtain ⟨_, _, carries⟩ := advances_run sound feasible
  exact carries.home_eq sound made

/-- After a run, a throttle belongs to a roster, and no caller has enrolled it with another. -/
structure Resident (as : List Action) (r : RosterId) (t : ThrottleId) : Prop where
  made : t < (System.run {} as).throttles.size
  home : (System.run {} as).home t = r
  alone : ∀ i, .enrol i t ∈ as → i = r

namespace Resident

theorem of_append (h : Resident (as ++ bs) r t) (feasible : System.Feasible {} (as ++ bs))
    (made : t < (System.run {} as).throttles.size) : Resident as r t where
  made := made
  home := by
    obtain ⟨earlier, later⟩ := along_append.mp feasible
    rw [← h.home, run_append, home_run (sound_run earlier) later made]
  alone i there := h.alone i (List.mem_append_left _ there)

/-- Wherever the throttle was enrolled, it was at home. -/
theorem not_enrolledAbroad (h : Resident (as ++ bs) r t) (feasible : System.Feasible {} (as ++ bs)) (e : UInt64) :
    ¬EnrolledAbroad as t e := by
  rintro ⟨before, i, after, rfl, abroad, _⟩
  have cut : before ++ .enrol i t :: after ++ bs = before ++ (.enrol i t :: (after ++ bs)) := by simp
  have own := h.alone i (List.mem_append_left _ (by simp))
  rw [cut] at h feasible
  obtain ⟨_, ready, _⟩ := along_append.mp feasible
  exact abroad (own.trans (h.of_append feasible ready.2).home.symm)

/-- It is a member of no other roster. -/
theorem eq_of_member (h : Resident as r t) (feasible : System.Feasible {} as) {i : RosterId} {p : Duration}
    (member : t ∈ ((System.run {} as).roster i).membersAt p) : i = r :=
  (invited_run feasible i p t member).elim (·.trans h.home) (h.alone i)

end Resident
end LogThrottle.System
