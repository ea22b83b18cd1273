import LogThrottle.Proofs.Enrolment.Idle
import LogThrottle.Proofs.Refinement.Passes

/-! Lookups, events and passes beside plain counting. The roster of the logger has its jobs scheduled
exactly while it is open, and everybody with events is a member of it when a pass begins. -/
namespace LogThrottle.Reference
open LogThrottle.System
open LogThrottle.Call

def Outcome.isPass : Outcome → Bool
  | .pass _ => true
  | .line _ => false

theorem Delivered.append {os os' : List Outcome} {ls ls' : List Line} (h : Delivered os ls)
    (h' : Delivered os' ls') : Delivered (os ++ os') (ls ++ ls') := by
  induction h with
  | nil => exact h'
  | line l _ ih => exact .line l ih
  | @pass _ _ es _ order _ ih =>
    rw [List.append_assoc]
    exact .pass order ih

/-- Some outcomes were delivered, with at most one flush for each pass. -/
structure Tells (os : List Outcome) (s s' : System) : Prop where
  lines : ∃ ls, Delivered os ls ∧ s'.delivered 0 = s.delivered 0 ++ ls
  flushes : s'.flushes ≤ s.flushes + os.countP Outcome.isPass

/-- The slots of a roster have their jobs exactly while the roster is open. -/
structure Jobs (g : Ledger) (r : Roster) : Prop where
  closed : r.closed = g.closed
  scheduled : ∀ p slot, r.slots.find? p = some slot → slot.scheduled = !g.closed

/-- The ledger tells what is counted in the system, and whether the logger's roster is closed. -/
structure Follows (x : Setting) (g : Ledger) (n : Nat) (s : System) : Prop extends
    Mirrors x g n s where
  there : 0 < s.rosters.size
  jobs : Jobs g (s.roster 0)

/-- The throttles with events are among the members of a roster, under one period. -/
structure Gathered (p : Duration) (r : Roster) (s : System) : Prop where
  distinct : r.members.Nodup
  made : ∀ q t, t ∈ r.membersAt q → t < s.throttles.size
  complete : ∀ t < s.throttles.size, (s.throttle t).limiter ≠ .cleared → t ∈ r.membersAt p

variable {x : Setting} {g : Ledger} {n : Nat} {s s' s'' : System}

namespace Tells

theorem refl (s : System) : Tells [] s s :=
  ⟨⟨[], .nil, (List.append_nil _).symm⟩, Nat.le_refl _⟩

theorem trans {os os' : List Outcome} (h : Tells os s s') (h' : Tells os' s' s'') :
    Tells (os ++ os') s s'' := by
  obtain ⟨ls, delivered, lines⟩ := h.lines
  obtain ⟨ls', delivered', lines'⟩ := h'.lines
  refine ⟨⟨ls ++ ls', delivered.append delivered', ?_⟩, ?_⟩
  · rw [lines', lines, List.append_assoc]
  · rw [List.countP_append, ← Nat.add_assoc]
    exact Nat.le_trans h'.flushes (Nat.add_le_add_right h.flushes _)

theorem of_journal {os : List Outcome} {es : List Entry}
    (journal : s'.journal.toList = s.journal.toList ++ es)
    (delivered : Delivered os (es.filterMap (Entry.line? 0)))
    (flushed : es.count (.notice .flushing) ≤ os.countP Outcome.isPass) : Tells os s s' := by
  refine ⟨⟨_, delivered, delivered_append journal 0⟩, ?_⟩
  · rw [System.flushes, journal, List.count_append]
    exact Nat.add_le_add_left flushed _

/-- Nothing but notices other than of a flush. -/
theorem silent {es : List Entry} (journal : s'.journal.toList = s.journal.toList ++ es)
    (quiet : es.filterMap (Entry.line? 0) = []) (unflushed : .notice .flushing ∉ es) :
    Tells [] s s' :=
  of_journal journal (quiet ▸ .nil) (Nat.le_of_eq (List.count_eq_zero_of_not_mem unflushed))

theorem same (journal : s'.journal = s.journal) : Tells [] s s' := by
  have nothing : s'.journal.toList = s.journal.toList ++ [] := by rw [journal, List.append_nil]
  exact silent nothing rfl List.not_mem_nil

end Tells

namespace Jobs
variable {r : Roster}

theorem enrol (h : Jobs g r) (p : Duration) (t : ThrottleId) : Jobs g (r.enrol p t) := by
  refine ⟨h.closed, fun q slot found => ?_⟩
  rw [Roster.enrol, Store.find?_map, Store.find?_insert] at found
  split at found
  · obtain ⟨old, hold, rfl⟩ := Option.map_eq_some_iff.mp found
    have kept : old.scheduled = !g.closed := by
      obtain rfl := Option.some.inj hold
      cases hp : r.slots.find? p with
      | none => exact (congrArg Bool.not h.closed :)
      | some old => exact h.scheduled p old hp
    exact kept
  · obtain ⟨old, hold, rfl⟩ := Option.map_eq_some_iff.mp found
    exact h.scheduled q old hold

theorem drain (h : Jobs g r) : Jobs g r.drain := by
  refine ⟨h.closed, fun q slot found => ?_⟩
  rw [Roster.drain, Store.find?_map] at found
  obtain ⟨old, hold, rfl⟩ := Option.map_eq_some_iff.mp found
  exact h.scheduled q old hold

theorem cancelJobs (closed : r.closed = true) : Jobs { g with closed := true } r.cancelJobs := by
  refine ⟨closed, fun q slot found => ?_⟩
  rw [Roster.cancelJobs, Store.find?_map] at found
  obtain ⟨old, _, rfl⟩ := Option.map_eq_some_iff.mp found
  rfl

end Jobs

theorem Follows.steady (f : Follows x g n s) {h : Ledger} {k : Nat} (m : Mirrors x h k s')
    (closed : h.closed = g.closed) (rosters : s'.rosters = s.rosters) : Follows x h k s' where
  toMirrors := m
  there := rosters ▸ f.there
  jobs := by
    rw [roster, rosters, ← roster]
    exact ⟨f.jobs.closed.trans closed.symm, fun p slot found => closed ▸ f.jobs.scheduled p slot found⟩

theorem Follows.enrolled (f : Follows x g n s) (t : ThrottleId) : Follows x g n (enrolled 0 t s) where
  toMirrors := f.toMirrors.enrolled 0 t
  there := by
    rw [size_rosters_enrolled]
    exact f.there
  jobs := by
    rw [roster_enrolled, if_pos ⟨rfl, f.there⟩]
    exact f.jobs.enrol _ t

section Passing

private theorem flushing_not_mem (ts : List ThrottleId) :
    .notice .flushing ∉ ts.flatMap s.digestEntries := by
  intro h
  obtain ⟨t, _, ht⟩ := List.mem_flatMap.mp h
  rw [digestEntries] at ht
  obtain ⟨d, _, hd⟩ := List.mem_map.mp ht
  cases hd

/-- A pass over a list of throttles that has everybody with events tells the digests. -/
private theorem tells_pass (m : Mirrors x g n s) {ts : List ThrottleId} (distinct : ts.Nodup)
    (made : ∀ t ∈ ts, t < s.throttles.size)
    (complete : ∀ t < s.throttles.size, (s.throttle t).limiter ≠ .cleared → t ∈ ts) :
    ∃ s', (resetAll ts).exec s = (.ok (), s') ∧ Mirrors x g.settled n s' ∧
      s'.rosters = s.rosters ∧ Tells [.pass g.digests] s s' := by
  obtain ⟨s', he, told, m'⟩ := pass_outcome m distinct complete
  refine ⟨s', he, m', told.rosters, .of_journal told.journal ?_ ?_⟩
  · have delivered := Delivered.pass (digests_perm m distinct made complete) .nil
    rwa [List.append_nil] at delivered
  · rw [List.count_eq_zero_of_not_mem (flushing_not_mem ts)]
    exact Nat.zero_le _

theorem tells_flush (m : Mirrors x g n s) (gathered : Gathered x.quota.period (s.roster 0) s) :
    ∃ s', (flush 0).exec s = (.ok (), s') ∧ Mirrors x g.settled n s' ∧
      s'.rosters = (drained 0 s).rosters ∧ Tells [.pass g.digests] s s' := by
  have drained : Mirrors x g n (drained 0 s) := (m.changeRoster 0 _).wrote (wrote_write _ _)
  have made : ∀ t ∈ (s.roster 0).members, t < s.throttles.size := by
    intro t ht
    obtain ⟨p, hp⟩ := Roster.mem_members.mp ht
    exact gathered.made p t hp
  have complete : ∀ t < s.throttles.size, (s.throttle t).limiter ≠ .cleared → t ∈ (s.roster 0).members :=
    fun t ht left => Roster.mem_members.mpr ⟨_, gathered.complete t ht left⟩
  obtain ⟨s', he, told, m'⟩ := pass_outcome drained gathered.distinct complete
  have lines := digests_perm m gathered.distinct made complete
  have journal : s'.journal.toList =
      s.journal.toList ++ .notice .flushing :: (s.roster 0).members.flatMap s.digestEntries := by
    have begun : (System.drained 0 s).journal.toList = s.journal.toList ++ [.notice .flushing] :=
      Array.toList_push
    have entries : (System.drained 0 s).digestEntries = s.digestEntries := rfl
    rw [told.journal, begun, entries, List.append_assoc, List.singleton_append]
  refine ⟨s', by rw [flush_exec, he], m', told.rosters, .of_journal journal ?_ ?_⟩
  · have delivered := Delivered.pass lines .nil
    rwa [List.append_nil] at delivered
  · rw [List.count_cons_self, List.count_eq_zero_of_not_mem (flushing_not_mem _)]
    exact Nat.le_refl 1

theorem follows_flush (f : Follows x g n s) (gathered : Gathered x.quota.period (s.roster 0) s) :
    ∃ s', (flush 0).exec s = (.ok (), s') ∧ Follows x g.settled n s' ∧
      Tells [.pass g.digests] s s' := by
  obtain ⟨s', he, m, rosters, tells⟩ := tells_flush f.toMirrors gathered
  refine ⟨s', he, { m with there := ?_, jobs := ?_ }, tells⟩
  · rw [rosters, size_rosters_drained]
    exact f.there
  · have drained : s'.roster 0 = (s.roster 0).drain := by
      rw [roster, rosters, ← roster, roster_drained, if_pos ⟨rfl, f.there⟩]
    rw [drained]
    exact ⟨f.jobs.drain.closed, f.jobs.drain.scheduled⟩

/-- A job that is scheduled passes over all members of its period. -/
theorem follows_fire (f : Follows x g n s) (gathered : Gathered x.quota.period (s.roster 0) s) :
    ∃ s', (fire 0 x.quota.period).exec s = (.ok (), s') ∧ Follows x (g.step .fire).2 n s' ∧
      Tells (g.step .fire).1 s s' := by
  have fired : (fire 0 x.quota.period).exec s = (resetAll ((s.roster 0).due x.quota.period)).exec s := rfl
  rw [fired]
  cases hc : g.closed with
  | true =>
    have none : (s.roster 0).due x.quota.period = [] := by
      unfold Roster.due
      split
      · rename_i slot found
        rw [f.jobs.scheduled _ slot found, hc]
        rfl
      · rfl
    rw [none]
    simp only [Ledger.step, hc, if_true]
    exact ⟨s, rfl, f, .refl s⟩
  | false =>
    have all : (s.roster 0).due x.quota.period = (s.roster 0).membersAt x.quota.period := by
      unfold Roster.due Roster.membersAt
      cases found : (s.roster 0).slots.find? x.quota.period with
      | none => rfl
      | some slot =>
        simp only [f.jobs.scheduled _ slot found, hc, Bool.not_false, if_true, Option.map_some,
          Option.getD_some]
    obtain ⟨s', he, m, rosters, tells⟩ := tells_pass f.toMirrors (Roster.nodup_membersAt _ _)
      (gathered.made x.quota.period) gathered.complete
    rw [all]
    simp only [Ledger.step, hc]
    exact ⟨s', he, f.steady m rfl rosters, tells⟩

/-- The first shutdown is the last pass of the jobs. -/
theorem follows_shutdown (f : Follows x g n s) (gathered : Gathered x.quota.period (s.roster 0) s) :
    ∃ s', (shutdown 0).exec s = (.ok (), s') ∧ Follows x (g.step .shutdown).2 n s' ∧
      Tells (g.step .shutdown).1 s s' := by
  simp only [shutdown, exec_bind, exec_get]
  cases hc : g.closed with
  | true =>
    have closed : (s.roster 0).closed = true := f.jobs.closed.trans hc
    simp only [Ledger.step, hc, closed, if_true]
    exact ⟨s, rfl, f, .refl s⟩
  | false =>
    have opened : (s.roster 0).closed = false := f.jobs.closed.trans hc
    have roster : (changeRoster 0 Roster.close s).roster 0 = (s.roster 0).close := by
      rw [roster_changeRoster, if_pos ⟨rfl, f.there⟩]
    obtain ⟨s', he, m, rosters, tells⟩ := tells_flush (f.toMirrors.changeRoster 0 Roster.close)
      (roster ▸ ⟨gathered.distinct, gathered.made, gathered.complete⟩)
    have there : 0 < s'.rosters.size := by
      rw [rosters, size_rosters_drained, size_rosters_changeRoster]
      exact f.there
    have closed : (s'.roster 0).closed = true := by
      rw [System.roster, rosters, ← System.roster, roster_drained, roster,
        if_pos ⟨rfl, by rw [size_rosters_changeRoster]; exact f.there⟩]
      rfl
    simp only [Ledger.step, hc, opened, Bool.false_eq_true, if_false, exec_bind, exec_modify, he]
    have closing : Tells [] s (changeRoster 0 Roster.close s) := .same rfl
    have cancelling : Tells [] s' (changeRoster 0 Roster.cancelJobs s') := .same rfl
    refine ⟨_, rfl, ?_, (closing.trans tells).trans cancelling⟩
    have last := m.changeRoster 0 Roster.cancelJobs
    refine { last with there := ?_, jobs := ?_ }
    · rw [size_rosters_changeRoster]
      exact there
    · rw [roster_changeRoster, if_pos ⟨rfl, there⟩]
      exact .cancelJobs closed

end Passing

end LogThrottle.Reference
