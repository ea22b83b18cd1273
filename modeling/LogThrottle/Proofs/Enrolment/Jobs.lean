import LogThrottle.Proofs.Enrolment.Actions
import LogThrottle.Proofs.System.Composites

/-! Reset jobs. Between actions, every slot of an open roster has a job, whenever it was made and for
whichever throttle, and no slot of a closed one has. -/
namespace LogThrottle

namespace Roster
variable {r : Roster}

/-- Jobs run exactly while the roster is open. -/
def Punctual (r : Roster) : Prop :=
  ∀ p slot, r.slots.find? p = some slot → slot.scheduled = !r.closed

theorem mem_members_cancelJobs (r : Roster) (t : ThrottleId) :
    t ∈ r.cancelJobs.members ↔ t ∈ r.members := by
  simp only [mem_members, membersAt_cancelJobs]

namespace Punctual

/-- A job that runs resets all members of its period. -/
theorem due_eq (h : r.Punctual) (p : Duration) : r.due p = if r.closed then [] else r.membersAt p := by
  rw [due, membersAt]
  cases found : r.slots.find? p with
  | none => simp
  | some slot =>
    have scheduled := h p slot found
    cases closed : r.closed <;> simp [scheduled, closed]

theorem enrol (h : r.Punctual) (p : Duration) (t : ThrottleId) : (r.enrol p t).Punctual := by
  intro q slot found
  rw [Roster.enrol, Store.find?_map, Store.find?_insert] at found
  obtain ⟨old, was, rfl⟩ := Option.map_eq_some_iff.mp found
  have scheduled : old.scheduled = !r.closed := by
    split at was
    · cases before : r.slots.find? p with
      | none =>
        rw [before] at was
        cases was
        rfl
      | some kept =>
        rw [before] at was
        cases was
        exact h p _ before
    · exact h q old was
  split <;> exact scheduled

theorem drain (h : r.Punctual) : r.drain.Punctual := by
  intro q slot found
  rw [Roster.drain, Store.find?_map] at found
  obtain ⟨old, was, rfl⟩ := Option.map_eq_some_iff.mp found
  exact h q old was

end Punctual

theorem punctual_cancelJobs (closed : r.closed = true) : r.cancelJobs.Punctual := by
  intro q slot found
  rw [cancelJobs, Store.find?_map] at found
  obtain ⟨old, _, rfl⟩ := Option.map_eq_some_iff.mp found
  have still : r.cancelJobs.closed = true := closed
  rw [still]
  rfl

theorem punctual_new : ({} : Roster).Punctual := fun _ _ found => nomatch found

end Roster

namespace System
open Call

/-- Rosters whose jobs are right stay so. -/
def KeepsTime (s s' : System) : Prop := ∀ r, (s.roster r).Punctual → (s'.roster r).Punctual

variable {s s' : System}

private theorem keepsTime_refl (s : System) : KeepsTime s s := fun _ => id

private theorem keepsTime_trans {s s' s'' : System} (h : KeepsTime s s') (h' : KeepsTime s' s'') :
    KeepsTime s s'' := fun r punctual => h' r (h r punctual)

private theorem chain_keepsTime : Chain KeepsTime := ⟨keepsTime_refl, keepsTime_trans⟩

theorem keepsTime_of_rosters (same : s'.rosters = s.rosters) : KeepsTime s s' := by
  intro r punctual
  rwa [roster, same]

theorem Steady.keepsTime (h : Steady s s') : KeepsTime s s' := keepsTime_of_rosters h.rosters

private theorem keepsTime_changeRoster (s : System) (r : RosterId) {f : Roster → Roster}
    (kept : ∀ x, x.Punctual → (f x).Punctual) : KeepsTime s (changeRoster r f s) := by
  intro i punctual
  rw [roster_changeRoster]
  split
  · exact kept _ punctual
  · exact punctual

private theorem keepsTime_flush (r : RosterId) : Keeps KeepsTime (flush r) := by
  intro s
  obtain ⟨s', he, same⟩ := flush_outcome r s
  rw [he]
  exact keepsTime_trans (keepsTime_changeRoster s r fun _ h => h.drain) same.keepsTime

private theorem keepsTime_enrol (r : RosterId) (t : ThrottleId) : Keeps KeepsTime (enrol r t) := by
  intro s
  obtain ⟨s', he, wrote⟩ := enrol_exec r t s
  rw [he]
  exact keepsTime_trans (keepsTime_of_rosters wrote.rosters)
    (keepsTime_changeRoster s' r fun _ h => h.enrol _ _)

private theorem searching_keepsTime : Searching KeepsTime where
  toChain := chain_keepsTime
  flush := keepsTime_flush
  overflowed _ := keepsTime_of_rosters rfl
  warn _ _ _ s := (resetting_steady.deliver (by simp) s).keepsTime
  enrol := keepsTime_enrol
  push _ _ _ := keepsTime_of_rosters rfl
  setCatalogue _ _ _ := keepsTime_of_rosters rfl
  countOverflow _ _ := keepsTime_of_rosters rfl

private theorem keepsTime_logThrough (t : ThrottleId) (severity : Severity) (args : List Argument) :
    Keeps KeepsTime (logThrough t severity args) := by
  intro s
  obtain ⟨s', he, joined⟩ := join_outcome t s
  refine keepsTime_trans ?_ (steady_logThrough severity args he).keepsTime
  cases joined with
  | idle => exact keepsTime_refl s
  | enrolled _ _ wrote =>
    exact keepsTime_trans (keepsTime_of_rosters wrote.rosters)
      (keepsTime_changeRoster _ _ fun _ h => h.enrol _ _)

/-- While a roster is being closed its jobs are not right, but nothing looks at them until they are. -/
private theorem keepsTime_shutdown (r : RosterId) : Keeps KeepsTime (shutdown r) := by
  intro s
  simp only [shutdown, exec_bind, exec_get]
  split
  · exact keepsTime_refl s
  · obtain ⟨s₁, he, same⟩ := flush_outcome r (changeRoster r Roster.close s)
    simp only [exec_bind, exec_modify, he]
    intro i punctual
    rw [roster_changeRoster, same.rosters, same.roster_eq, size_rosters_drained, size_rosters_changeRoster,
      roster_drained, size_rosters_changeRoster, roster_changeRoster]
    split
    · exact Roster.punctual_cancelJobs rfl
    · exact punctual

private theorem keepsTime_release (x : Holder) : Keeps KeepsTime (release x) :=
  chain_keepsTime.release (fun _ => keepsTime_flush _) (fun _ => keepsTime_of_rosters rfl) (keepsTime_shutdown _)

private theorem keepsTime_after (s : System) (a : Action) : KeepsTime s (s.after a) := by
  cases a with
  | addSink | addStopwatch | addCounter | guard | share | resetTally => exact keepsTime_of_rosters rfl
  | openRoster =>
    intro r punctual
    rw [roster_openRoster]
    split
    · exact Roster.punctual_new
    · exact punctual
  | build p =>
    rw [after_build]
    cases p.logger <;> exact keepsTime_of_rosters rfl
  | move w m =>
    rw [after_move]
    exact keepsTime_of_rosters rfl
  | lookup l topic => exact searching_keepsTime.lookup l topic s
  | log l severity template args =>
    exact searching_keepsTime.bind (searching_keepsTime.lookup l _)
      (fun t => keepsTime_logThrough t severity args) s
  | logThrough t severity args => exact keepsTime_logThrough t severity args s
  | emit t args =>
    rw [after_emit]
    exact keepsTime_logThrough t _ args s
  | attempt t => exact (steady_attempt t s).keepsTime
  | enrol r t => exact keepsTime_enrol r t s
  | flush r => exact keepsTime_flush r s
  | shutdown r => exact keepsTime_shutdown r s
  | fire r period => exact (steady_resetAll _ s).keepsTime
  | release x => exact keepsTime_release x s

theorem punctual_run (as : List Action) (r : RosterId) : ((System.run {} as).roster r).Punctual := by
  have kept : KeepsTime {} (System.run {} as) := by
    induction as using List.reverseRecOn with
    | nil => exact keepsTime_refl _
    | append_singleton as a ih =>
      rw [run_snoc]
      exact keepsTime_trans ih (keepsTime_after _ a)
  exact kept r Roster.punctual_new

theorem Reachable.punctual (h : Reachable s) (r : RosterId) : (s.roster r).Punctual := by
  induction h with
  | empty => exact Roster.punctual_new
  | after a _ _ ih => exact keepsTime_after _ a r ih

end System
end LogThrottle
