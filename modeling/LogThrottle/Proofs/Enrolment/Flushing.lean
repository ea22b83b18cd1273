import LogThrottle.Proofs.Enrolment.Alignment

/-! A run flushes at most once for each of its actions. Releasing a guard may flush twice, but the
second flush is the last of its roster and was paid for when the roster was opened. -/
namespace LogThrottle

/-- The flush still to come when a roster that is not closed loses its last holder. -/
def Roster.outstanding (r : Roster) : Nat := if r.closed then 0 else 1

namespace System
open Call

/-- Flushes so far, and those outstanding. -/
def burden (s : System) : Nat :=
  s.flushes + ∑ r ∈ Finset.range s.rosters.size, (s.roster r).outstanding

/-- A computation adds at most `k`. -/
private def Costs {α : Type} (k : Nat) (c : Call α) : Prop := ∀ s, (c.exec s).2.burden ≤ s.burden + k

variable {s s' : System}

theorem burden_of_rosters (rosters : s'.rosters = s.rosters) (flushes : s'.flushes = s.flushes) :
    s'.burden = s.burden := by
  have read : s'.roster = s.roster := funext fun r => by rw [roster, rosters, roster]
  rw [burden, rosters, flushes, read, burden]

theorem Steady.burden_eq (h : Steady s s') : s'.burden = s.burden :=
  burden_of_rosters h.rosters h.flushes

private theorem burden_changeRoster (s : System) (r : RosterId) {f : Roster → Roster}
    (closed : ∀ x, (f x).closed = x.closed) : (changeRoster r f s).burden = s.burden := by
  have flushes : (changeRoster r f s).flushes = s.flushes := rfl
  rw [burden, flushes, size_rosters_changeRoster, burden]
  congr 1
  refine Finset.sum_congr rfl fun i _ => ?_
  rw [roster_changeRoster]
  split
  · rw [Roster.outstanding, closed, Roster.outstanding]
  · rfl

private theorem burden_drained (s : System) (r : RosterId) : (drained r s).burden = s.burden + 1 := by
  have same := burden_changeRoster s r (f := Roster.drain) fun _ => rfl
  have flushes : (changeRoster r Roster.drain s).flushes = s.flushes := rfl
  have rosters : (drained r s).roster = (changeRoster r Roster.drain s).roster := rfl
  have size : (drained r s).rosters.size = (changeRoster r Roster.drain s).rosters.size := rfl
  rw [burden, flushes] at same
  rw [burden, flushes_drained, rosters, size, Nat.add_right_comm, same]

/-- Closing an open roster pays for its last flush. -/
private theorem burden_close {r : RosterId} (there : r < s.rosters.size)
    (opened : (s.roster r).closed = false) : (changeRoster r Roster.close s).burden + 1 = s.burden := by
  have flushes : (changeRoster r Roster.close s).flushes = s.flushes := rfl
  have member : r ∈ Finset.range s.rosters.size := Finset.mem_range.mpr there
  have others : ∀ i ∈ (Finset.range s.rosters.size).erase r,
      ((changeRoster r Roster.close s).roster i).outstanding = (s.roster i).outstanding := by
    intro i hi
    rw [roster_changeRoster, if_neg fun e => (Finset.mem_erase.mp hi).1 e.1.symm]
  have paid : ((changeRoster r Roster.close s).roster r).outstanding = 0 := by
    rw [roster_changeRoster, if_pos ⟨rfl, there⟩]
    rfl
  have owed : (s.roster r).outstanding = 1 := by rw [Roster.outstanding, opened]; rfl
  rw [burden, flushes, size_rosters_changeRoster, burden, ← Finset.add_sum_erase _ _ member,
    ← Finset.add_sum_erase _ _ member, Finset.sum_congr rfl others, paid, owed,
    Nat.zero_add, Nat.add_assoc, Nat.add_comm 1]

section Costs
variable {α β : Type}

private theorem costs_then {k : Nat} {c : Call α} {f : α → Call β} (hc : Costs k c)
    (hf : ∀ a, Costs 0 (f a)) : Costs k (c >>= f) := by
  intro s
  rw [exec_bind]
  have first := hc s
  revert first
  rcases c.exec s with ⟨_ | a, s'⟩
  · exact id
  · exact fun first => Nat.le_trans (hf a s') first

private theorem costs_flush (r : RosterId) : Costs 1 (flush r) := by
  intro s
  obtain ⟨s', he, same⟩ := flush_outcome r s
  rw [he]
  exact Nat.le_of_eq (same.burden_eq.trans (burden_drained s r))

private theorem costs_enrol (r : RosterId) (t : ThrottleId) : Costs 0 (enrol r t) := by
  intro s
  obtain ⟨s', he, hw⟩ := enrol_exec r t s
  rw [he]
  have enrolled : (enrolled r t s').burden = s'.burden := burden_changeRoster s' r fun _ => rfl
  exact Nat.le_of_eq (enrolled.trans hw.steady_announced.burden_eq)

private theorem costs_overflow (l : LoggerId) : Costs 1 (overflow l) := by
  intro s
  obtain ⟨f, s', he, same⟩ | ⟨s₁, s₂, s', he, same₁, same₂, same₃⟩ := overflow_outcome l s
  · rw [he]
    exact Nat.le_succ_of_le (Nat.le_of_eq same.burden_eq)
  · have emptied : (setCatalogue l .cleared s₂).burden = s₂.burden := burden_of_rosters rfl rfl
    rw [he]
    refine Nat.le_of_eq ?_
    rw [same₃.burden_eq, emptied, same₂.burden_eq, burden_drained, same₁.burden_eq]

private theorem burden_introduce {l : LoggerId} {topic : Topic}
    (absent : (s.logger l).catalogue.find? topic = none) :
    ((introduce l topic).exec s).2.burden = s.burden := by
  obtain ⟨s', he, wrote⟩ := introduce_exec absent
  have entered : (enrolled (s.logger l).roster s.throttles.size s').burden = s'.burden :=
    burden_changeRoster s' _ fun _ => rfl
  have registers : (registered l topic s).burden = s.burden := burden_of_rosters rfl rfl
  rw [he, entered, wrote.steady_announced.burden_eq, registers]

private theorem costs_lookup (l : LoggerId) (topic : Topic) : Costs 1 (lookup l topic) := by
  intro s
  cases found : (s.logger l).catalogue.find? topic with
  | some t =>
    rw [lookup_of_some found]
    exact Nat.le_succ _
  | none =>
    rw [lookup_of_none found]
    split
    · have first := costs_overflow l s
      rw [exec_bind]
      cases he : (overflow l).exec s with
      | mk answer s' =>
        rw [he] at first
        cases answer with
        | error f => exact first
        | ok => exact Nat.le_trans (Nat.le_of_eq (burden_introduce (absent_overflow found he))) first
    · exact Nat.le_succ_of_le (Nat.le_of_eq (burden_introduce found))

end Costs

private theorem burden_shutdown {r : RosterId} (there : r < s.rosters.size) :
    ((shutdown r).exec s).2.burden ≤ s.burden := by
  simp only [shutdown, exec_bind, exec_get]
  split
  · exact Nat.le_refl _
  · rename_i opened
    have closed := burden_close there (Bool.eq_false_iff.mpr opened)
    have flushed := costs_flush r (changeRoster r Roster.close s)
    obtain ⟨s', he, _⟩ := flush_outcome r (changeRoster r Roster.close s)
    rw [he] at flushed
    simp only [exec_bind, exec_modify, he]
    rw [burden_changeRoster s' r (f := Roster.cancelJobs) fun _ => rfl]
    have flushed' : s'.burden ≤ (changeRoster r Roster.close s).burden + 1 := flushed
    omega

private theorem burden_release {x : Holder} (h : Sound s) (held : x ∈ s.holders) :
    ((release x).exec s).2.burden ≤ s.burden + 1 := by
  have there := h.holder x held
  have rest {s : System} (there : x.roster < s.rosters.size) : ((do
      modify fun s => { s with holders := s.holders.erase x }
      unless (← get).alive x.roster do shutdown x.roster : Call Unit).exec s).2.burden ≤ s.burden := by
    simp only [exec_bind, exec_get, exec_modify]
    have erased : System.burden { s with holders := s.holders.erase x } = s.burden :=
      burden_of_rosters rfl rfl
    split
    · exact Nat.le_of_eq erased
    · exact Nat.le_trans (burden_shutdown there) (Nat.le_of_eq erased)
  simp only [release, exec_bind, exec_get, held, if_true]
  split
  · obtain ⟨s', he, same⟩ := flush_outcome x.roster s
    have flushed := same.burden_eq.trans (burden_drained s x.roster)
    rw [exec_bind, he]
    refine Nat.le_trans (rest ?_) (Nat.le_of_eq flushed)
    rw [same.rosters, size_rosters_drained]
    exact there
  · exact Nat.le_succ_of_le (rest there)

private theorem costs_logThrough (t : ThrottleId) (severity : Severity) (args : List Argument) :
    Costs 0 (logThrough t severity args) := by
  intro s
  obtain ⟨s', he, joined⟩ := join_outcome t s
  have same := (steady_logThrough severity args he).burden_eq
  have joining : s'.burden = s.burden := by
    cases joined with
    | idle => rfl
    | @enrolled s' stale alive wrote =>
      have enrolled : (enrolled (s.home t) t s').burden = s'.burden :=
        burden_changeRoster s' _ fun _ => rfl
      rw [enrolled, wrote.steady_announced.burden_eq]
  exact Nat.le_of_eq (same.trans joining)

theorem burden_after {a : Action} (h : Sound s) (ready : a.Ready s) :
    (s.after a).burden ≤ s.burden + 1 := by
  have same {s' : System} (rosters : s'.rosters = s.rosters) (flushes : s'.flushes = s.flushes) :
      s'.burden ≤ s.burden + 1 :=
    Nat.le_succ_of_le (Nat.le_of_eq (burden_of_rosters rosters flushes))
  cases a with
  | addSink | addStopwatch | addCounter | guard | share => exact same rfl rfl
  | openRoster =>
    have flushes : (s.after .openRoster).flushes = s.flushes := rfl
    have size : (s.after .openRoster).rosters.size = s.rosters.size + 1 := Array.size_push ..
    have old : ∀ r ∈ Finset.range s.rosters.size,
        ((s.after .openRoster).roster r).outstanding = (s.roster r).outstanding := by
      intro r hr
      rw [roster_openRoster, if_neg (Nat.ne_of_lt (Finset.mem_range.mp hr))]
    rw [burden, flushes, size, Finset.sum_range_succ, Finset.sum_congr rfl old,
      roster_openRoster, if_pos rfl, burden, Nat.add_assoc]
    exact Nat.le_refl _
  | build p =>
    rw [after_build]
    cases p.logger with
    | error e => exact Nat.le_succ _
    | ok x => exact same rfl rfl
  | move w m =>
    rw [after_move]
    exact same rfl rfl
  | lookup l topic => exact costs_lookup l topic s
  | log l severity template args =>
    exact costs_then (costs_lookup l _) (fun t => costs_logThrough t severity args) s
  | logThrough t severity args => exact Nat.le_succ_of_le (costs_logThrough t severity args s)
  | emit t args =>
    rw [after_emit]
    exact Nat.le_succ_of_le (costs_logThrough t _ args s)
  | attempt t => exact Nat.le_succ_of_le (Nat.le_of_eq (steady_attempt t s).burden_eq)
  | enrol r t => exact Nat.le_succ_of_le (costs_enrol r t s)
  | flush r => exact costs_flush r s
  | shutdown r => exact Nat.le_succ_of_le (burden_shutdown (h.alive_lt ready))
  | fire r period => exact Nat.le_succ_of_le (Nat.le_of_eq (steady_resetAll _ s).burden_eq)
  | release x => exact burden_release h ready
  | resetTally l =>
    exact Nat.le_succ_of_le (Nat.le_of_eq (steady_changeTally s l fun _ => {}).burden_eq)

/-- A run has flushed at most once for each of its actions. -/
theorem flushes_le_length {as : List Action} (feasible : System.Feasible {} as) :
    (System.run {} as).flushes ≤ as.length := by
  suffices h : (System.run {} as).burden ≤ as.length from Nat.le_trans (Nat.le_add_right _ _) h
  induction as using List.reverseRecOn with
  | nil => exact Nat.le_refl 0
  | append_singleton as a ih =>
    obtain ⟨earlier, ready⟩ := along_snoc.mp feasible
    rw [run_snoc, List.length_append, List.length_singleton]
    exact Nat.le_trans (burden_after (sound_run earlier) ready) (Nat.succ_le_succ (ih earlier))

end System
end LogThrottle
