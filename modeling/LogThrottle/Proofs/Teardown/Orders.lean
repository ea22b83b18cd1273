import LogThrottle.Proofs.Teardown.Releases

/-! Letting go of everything. In whichever order the holders of all rosters are released, the same throttles
are reset, each at the first release that flushes a roster of which it is a member. -/
namespace LogThrottle.System
open Call
variable {s s' : System} {r : RosterId} {t : ThrottleId}

/-- Members of a roster that somebody holds, which is open or has a guard among its holders. -/
def Doomed (s : System) (t : ThrottleId) : Prop :=
  ∃ y ∈ s.holders, t ∈ (s.roster y.roster).members ∧ ((s.roster y.roster).closed = false ∨ y.kind = .guard)

/-- Who is to be reset was reset by the first release, or is still to be. -/
private theorem doomed_iff {x : Holder} {ts : List ThrottleId} (held : x ∈ s.holders)
    (cleared : Cleared x.roster
      (x.kind = .guard ∨ ¬(∃ y ∈ s.holders.erase x, y.roster = x.roster) ∧
        (s.roster x.roster).closed = false)
      (¬∃ y ∈ s.holders.erase x, y.roster = x.roster) ts s s')
    (holders : s'.holders = s.holders.erase x) : s.Doomed t ↔ t ∈ ts ∨ s'.Doomed t := by
  constructor
  · rintro ⟨y, hy, member, flushes⟩
    by_cases own : y.roster = x.roster
    · rw [own] at member flushes
      by_cases now : x.kind = .guard ∨ ¬(∃ y ∈ s.holders.erase x, y.roster = x.roster) ∧
          (s.roster x.roster).closed = false
      · exact .inl ((cleared.reset t).mpr ⟨now, member⟩)
      · -- another holder is left, and it flushes the roster in its turn
        have later : ∃ z ∈ s.holders.erase x, z.roster = x.roster ∧
            ((s.roster x.roster).closed = false ∨ z.kind = .guard) := by
          by_cases same : y = x
          · subst same
            have opened : (s.roster y.roster).closed = false := flushes.resolve_right fun g => now (.inl g)
            have left := Classical.byContradiction fun none => now (.inr ⟨none, opened⟩)
            obtain ⟨z, hz, there⟩ := left
            exact ⟨z, hz, there, .inl opened⟩
          · exact ⟨y, (List.mem_erase_of_ne same).mpr hy, own, flushes⟩
        obtain ⟨z, hz, there, flushes⟩ := later
        have closed : (s'.roster x.roster).closed = (s.roster x.roster).closed := by
          rw [Bool.eq_iff_iff, cleared.closed]
          exact ⟨fun h => h.resolve_left fun none => none ⟨z, hz, there⟩, .inr⟩
        refine .inr ⟨z, holders ▸ hz, ?_, ?_⟩
        · rw [there]
          exact (cleared.members t).mpr ⟨now, member⟩
        · rwa [there, closed]
    · have other : s'.roster y.roster = s.roster y.roster := cleared.others _ own
      have still : y ∈ s.holders.erase x := (List.mem_erase_of_ne fun same => own (congrArg _ same)).mpr hy
      exact .inr ⟨y, holders ▸ still, other ▸ member, other ▸ flushes⟩
  · rintro (reset | ⟨y, hy, member, flushes⟩)
    · obtain ⟨now, member⟩ := (cleared.reset t).mp reset
      exact ⟨x, held, member, now.elim .inr fun last => .inl last.2⟩
    · rw [holders] at hy
      refine ⟨y, List.mem_of_mem_erase hy, ?_⟩
      by_cases own : y.roster = x.roster
      · rw [own] at member flushes ⊢
        refine ⟨((cleared.members t).mp member).2, flushes.imp_left fun opened => ?_⟩
        exact Bool.eq_false_iff.mpr fun closed =>
          Bool.eq_false_iff.mp opened (cleared.closed.mpr (.inr closed))
      · rw [cleared.others _ own] at member flushes
        exact ⟨member, flushes⟩

/-- All holders are released without a fault, and all throttles to be reset are reset once. -/
theorem emptied_by_releases (reached : Reachable s) (steadfast : Steadfast s) {hs : List Holder}
    (all : hs.Perm s.holders) :
    s.Along (fun s a => a.Ready s ∧ ∃ answer, (a.perform.exec s).1 = .ok answer) (hs.map .release) ∧
      ∃ ts, Emptied ts s (s.run (hs.map .release)) ∧ ∀ t, t ∈ ts ↔ s.Doomed t := by
  induction hs generalizing s with
  | nil =>
    have nobody : s.holders = [] := all.symm.eq_nil
    exact ⟨trivial, [], emptied_of_same rfl (.refl s) fun _ => rfl, by simp [Doomed, nobody]⟩
  | cons x hs ih =>
    have held : x ∈ s.holders := all.mem_iff.mp List.mem_cons_self
    obtain ⟨ts, s', he, cleared, holders⟩ := cleared_release steadfast (reached.sound.holder x held)
      (reached.filed.nodup_members _) held
    have after : s.after (.release x) = s' := congrArg Prod.snd he
    have reached' : Reachable s' := after ▸ reached.after (.release x) held
    have rest : hs.Perm s'.holders := by
      rw [holders]
      exact (List.cons_perm_iff_perm_erase.mp all).2
    obtain ⟨along, us, emptied, doomed⟩ := ih reached' (cleared.equipped.steadfast steadfast) rest
    have all_reset := cleared.toEmptied.trans emptied
    rw [← after] at along all_reset
    refine ⟨⟨⟨held, (), congrArg Prod.fst he⟩, along⟩, _, all_reset, fun t => ?_⟩
    rw [doomed_iff held cleared holders, ← doomed, List.mem_append, List.mem_filter, decide_eq_true_eq]
    tauto

/-- The order of releases does not matter. Take any system that can be brought about, with sinks that fail
on chosen lines, and any two orders in which all holders of its rosters are let go: owners, guards, loggers
and their clones. No release ends in a fault, and every sink takes the same lines in both orders, each as
often. Throttles that callers kept hold nothing, so letting go of them is no action. -/
theorem release_orders_agree (reached : Reachable s) (steadfast : Steadfast s) {hs hs' : List Holder}
    (all : hs.Perm s.holders) (all' : hs'.Perm s.holders) :
    (∀ order ∈ [hs, hs'], s.Along
      (fun s a => a.Ready s ∧ ∃ answer, (a.perform.exec s).1 = .ok answer) (order.map .release)) ∧
    ∀ k, ∃ ls ls', (s.run (hs.map .release)).delivered k = s.delivered k ++ ls ∧
      (s.run (hs'.map .release)).delivered k = s.delivered k ++ ls' ∧ ls.Perm ls' := by
  obtain ⟨along, ts, emptied, doomed⟩ := emptied_by_releases reached steadfast all
  obtain ⟨along', ts', emptied', doomed'⟩ := emptied_by_releases reached steadfast all'
  have same : ts.Perm ts' :=
    (List.perm_ext_iff_of_nodup emptied.distinct emptied'.distinct).mpr fun t =>
      (doomed t).trans (doomed' t).symm
  refine ⟨by simpa using ⟨along, along'⟩, fun k => ⟨_, _, emptied.lines k, emptied'.lines k, ?_⟩⟩
  exact (same.flatMap_right _).filterMap _

/-- One throttle is a member of two rosters, one of which has a guard, and the sink fails on its digest. It
is reported once in each order, as failed, beside the digest of a throttle that is a member of the other
roster only. -/
theorem release_orders_agree_two_rosters :
    let as : List Action := [.addSink .filled fun _ line =>
        if line.message = "(suppressed 1 logs similar to 'x' in 0ns)" then some (.text "full") else none,
      .addStopwatch .zero fun _ => none, .openRoster, .openRoster,
      .build ⟨0, 0, 0, none, 1, ⟨7, by decide⟩, 3⟩, .build ⟨1, 0, 0, none, 1, ⟨7, by decide⟩, 3⟩, .guard 0,
      .log 0 .info "x" [], .log 0 .info "x" [], .enrol 1 0, .log 1 .info "y" [], .log 1 .info "y" []]
    let s := System.run {} as
    let hs : List Holder := [⟨.guard, 0⟩, ⟨.logger 1, 1⟩, ⟨.owner, 0⟩, ⟨.owner, 1⟩, ⟨.logger 0, 0⟩]
    let hs' : List Holder := [⟨.logger 1, 1⟩, ⟨.owner, 1⟩, ⟨.logger 0, 0⟩, ⟨.owner, 0⟩, ⟨.guard, 0⟩]
    (∃ ls ls', (s.run (hs.map .release)).delivered 0 = s.delivered 0 ++ ls ∧
      (s.run (hs'.map .release)).delivered 0 = s.delivered 0 ++ ls' ∧ ls.Perm ls') ∧
    (s.run (hs.map .release)).delivered 0 = s.delivered 0 ++
      [⟨.warn, "failed to reset rate-limited log 'x': full"⟩,
        ⟨.info, "(suppressed 1 logs similar to 'y' in 0ns)"⟩] := by
  intro as s hs hs'
  have reached : Reachable s := reachable_run as .empty (by decide +kernel : System.Feasible {} as)
  have steadfast : Steadfast s := steadfast_run (by simp [as, Action.Steadfast])
  have all : hs.Perm s.holders := by decide +kernel
  have all' : hs'.Perm s.holders := by decide +kernel
  exact ⟨(release_orders_agree reached steadfast all all').2 0, by decide +kernel⟩

end LogThrottle.System
