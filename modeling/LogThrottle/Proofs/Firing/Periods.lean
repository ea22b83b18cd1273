import LogThrottle.Proofs.Enrolment.Filing
import LogThrottle.Proofs.Enrolment.Jobs
import LogThrottle.Proofs.Firing.Reordering
import LogThrottle.Proofs.Refinement.Passes

/-! Reset jobs beside flushes. A job resets the members of its period and keeps them; the jobs of all periods
together do what a flush does, which begins an epoch with empty slots besides. -/
namespace LogThrottle

/-- Members are the members of each period. -/
theorem Roster.members_eq_flatMap (r : Roster) : r.members = r.slots.keys.flatMap r.membersAt := by
  rw [members, Store.values, Store.keys, List.flatMap_map, List.flatMap_map]
  refine List.flatMap_congr fun e there => ?_
  rw [membersAt, Store.mem_entries_iff.mp there]
  rfl

namespace System
open Call
variable {s : System} {r : RosterId}

theorem exec_fire (r : RosterId) (p : Duration) (s : System) :
    (fire r p).exec s = (resetAll ((s.roster r).due p)).exec s := by
  simp only [fire, exec_bind, exec_get]

/-- The job of an open roster resets all members of its period. -/
theorem exec_fire_open (steadfast : Steadfast s) (punctual : (s.roster r).Punctual)
    (opened : (s.roster r).closed = false) (p : Duration) :
    (fire r p).exec s = (.ok (), ((s.roster r).membersAt p).foldl afterReset s) := by
  rw [exec_fire, punctual.due_eq, opened, if_neg Bool.false_ne_true, exec_resetAll steadfast]

theorem rosters_foldl_afterReset (ts : List ThrottleId) (s : System) :
    (ts.foldl afterReset s).rosters = s.rosters := by
  induction ts generalizing s with
  | nil => rfl
  | cons t ts ih => exact (ih (s.afterReset t)).trans (told_afterReset s t).rosters

/-- Jobs that run one after the other make one pass, over the members of all their periods. -/
theorem run_fires (steadfast : Steadfast s) (made : r < s.rosters.size) (punctual : (s.roster r).Punctual)
    (opened : (s.roster r).closed = false) (ps : List Duration) :
    s.Along (fun s a => a.Ready s ∧ ∃ answer, (a.perform.exec s).1 = .ok answer) (ps.map (.fire r)) ∧
      s.run (ps.map (.fire r)) = (ps.flatMap (s.roster r).membersAt).foldl afterReset s := by
  induction ps generalizing s with
  | nil => exact ⟨trivial, rfl⟩
  | cons p ps ih =>
    have he := exec_fire_open steadfast punctual opened p
    have after : s.after (.fire r p) = ((s.roster r).membersAt p).foldl afterReset s := congrArg Prod.snd he
    have rosters : (s.after (.fire r p)).rosters = s.rosters := after ▸ rosters_foldl_afterReset _ s
    have same : (s.after (.fire r p)).roster r = s.roster r := by rw [roster, rosters, roster]
    obtain ⟨along, run⟩ := ih (s := s.after (.fire r p)) (after ▸ steadfast.foldl _) (rosters ▸ made)
      (same ▸ punctual) (same ▸ opened)
    refine ⟨⟨⟨made, (), congrArg Prod.fst he⟩, along⟩, ?_⟩
    rw [List.flatMap_cons, List.foldl_append, ← after, ← same]
    exact run

theorem after_flush_steadfast (steadfast : Steadfast s) (r : RosterId) :
    s.after (.flush r) = (s.roster r).members.foldl afterReset (drained r s) := by
  have same : s.after (.flush r) = ((flush r).exec s).2 := rfl
  have equipped : Equipped s (drained r s) := (beside_drained s r).toEquipped
  rw [same, flush_exec, exec_resetAll (equipped.steadfast steadfast)]

/-- Reordered journals deliver the same lines. -/
theorem Reordered.delivered {s' : System} (h : Reordered s s') (k : SinkId) :
    (s'.delivered k).Perm (s.delivered k) := h.journal.filterMap _

/-- Take any system that can be brought about, with sinks that fail on chosen lines, and any of its rosters that
is open. The job of a period clears the limiters of the members of that period and of no others, writes what the
reset of each comes to, and leaves memberships, stamps and epochs alone. The jobs of all periods that have a slot,
one after the other in any order, deliver the same lines as a flush, each as often. A flush leaves the system that
they leave but for the roster, which has empty slots and the next epoch, and for the order of the journal. -/
theorem fires_match_flush (reachable : Reachable s) (steadfast : Steadfast s) (made : r < s.rosters.size)
    (opened : (s.roster r).closed = false) :
    (∀ p, ∃ s', (fire r p).exec s = (.ok (), s') ∧
      (∀ t, (s'.throttle t).limiter =
        if t ∈ (s.roster r).membersAt p then .cleared else (s.throttle t).limiter) ∧
      s'.journal.toList = s.journal.toList ++ ((s.roster r).membersAt p).flatMap s.resetEntries ∧
      s'.rosters = s.rosters ∧ ∀ t, (s'.throttle t).stamp = (s.throttle t).stamp) ∧
    ∀ ps : List Duration, ps.Perm (s.roster r).slots.keys →
      let fired := s.run (ps.map (.fire r))
      let flushed := s.after (.flush r)
      s.Along (fun s a => a.Ready s ∧ ∃ answer, (a.perform.exec s).1 = .ok answer) (ps.map (.fire r)) ∧
      ((flush r).exec s).1 = .ok () ∧
      (∀ k, (flushed.delivered k).Perm (fired.delivered k)) ∧
      flushed = { changeRoster r Roster.drain fired with journal := flushed.journal } := by
  have punctual := reachable.punctual r
  refine ⟨fun p => ?_, fun ps all => ?_⟩
  · have he := exec_fire_open steadfast punctual opened p
    obtain ⟨s', done, told⟩ := resetAll_steadfast steadfast ((s.roster r).nodup_membersAt p)
    cases (exec_resetAll steadfast _).symm.trans done
    refine ⟨_, he, fun t => ?_, told.journal, told.rosters, fun t => (congrArg Throttle.stamp (told.throttle t) :)⟩
    have cleared := limiter_resetAll ((s.roster r).membersAt p) s t
    rw [done] at cleared
    rw [cleared]
    by_cases member : t ∈ (s.roster r).membersAt p
    · rw [if_pos ⟨member, (reachable.filed r p t member).1⟩, if_pos member]
    · rw [if_neg fun both => member both.1, if_neg member]
  · intro fired flushed
    obtain ⟨along, run⟩ := run_fires steadfast made punctual opened ps
    have same : (ps.flatMap (s.roster r).membersAt).Perm (s.roster r).members := by
      rw [Roster.members_eq_flatMap]
      exact all.flatMap_right _
    have reordered : Reordered (drained r fired) flushed := by
      have begun := (reordered_drained r (ps.flatMap (s.roster r).membersAt) s).symm
      rw [← run] at begun
      have passed := reordered_of_perm same (drained r s)
      rw [← after_flush_steadfast steadfast] at passed
      exact begun.trans passed
    refine ⟨along, ?_, fun k => ?_, reordered.same⟩
    · obtain ⟨s', he, _⟩ := flush_outcome r s
      rw [he]
    · exact delivered_drained fired r k ▸ reordered.delivered k

/-- Two periods, with a sink that fails on the digest of one of their members. The jobs report it first, and the
flush last. -/
theorem fires_match_flush_two_periods :
    let as : List Action := [.addSink .filled fun _ line =>
        if line.message = "(suppressed 1 logs similar to 'x' in 0ns)" then some (.text "full") else none,
      .addStopwatch .zero fun _ => none, .openRoster, .build ⟨0, 0, 0, none, 1, ⟨7, by decide⟩, 3⟩,
      .build ⟨0, 0, 0, none, 1, ⟨9, by decide⟩, 3⟩, .log 0 .info "x" [], .log 0 .info "x" [],
      .log 1 .info "y" [], .log 1 .info "y" []]
    let s := System.run {} as
    let ps : List Duration := [⟨7, by decide⟩, ⟨9, by decide⟩]
    let x : Line := ⟨.warn, "failed to reset rate-limited log 'x': full"⟩
    let y : Line := ⟨.info, "(suppressed 1 logs similar to 'y' in 0ns)"⟩
    ((s.after (.flush 0)).delivered 0).Perm ((s.run (ps.map (.fire 0))).delivered 0) ∧
      (s.run (ps.map (.fire 0))).delivered 0 = s.delivered 0 ++ [x, y] ∧
      (s.after (.flush 0)).delivered 0 = s.delivered 0 ++ [y, x] := by
  intro as s ps x y
  have reachable : Reachable s := reachable_run as .empty (by decide +kernel : System.Feasible {} as)
  have steadfast : Steadfast s := steadfast_run (by simp [as, Action.Steadfast])
  have slots : ps.Perm (s.roster 0).slots.keys := by decide +kernel
  obtain ⟨_, orders⟩ := fires_match_flush (r := 0) reachable steadfast (by decide +kernel) (by decide +kernel)
  exact ⟨(orders ps slots).2.2.1 0, by decide +kernel⟩

end System
end LogThrottle
