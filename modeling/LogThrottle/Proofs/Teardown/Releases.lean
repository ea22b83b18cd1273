import LogThrottle.Proofs.Enrolment.Filing
import LogThrottle.Proofs.Enrolment.Jobs
import LogThrottle.Proofs.Refinement.Passes
import LogThrottle.Proofs.Teardown.Resets

/-! What releases reset. A guard flushes its roster, the last holder of an open roster does so by closing
it, and any other release does nothing; each throttle that is reset writes what it would have written
before, and starts afresh. So rosters that nobody holds stay closed. -/
namespace LogThrottle.System
open Call

/-- Some throttles were reset, each once. -/
structure Emptied (ts : List ThrottleId) (s s' : System) : Prop where
  distinct : ts.Nodup
  equipped : Equipped s s'
  throttle : ∀ t, { s'.throttle t with limiter := {} } = { s.throttle t with limiter := {} }
  limiter : ∀ t, (s'.throttle t).limiter = if t ∈ ts then .cleared else (s.throttle t).limiter
  lines : ∀ k, s'.delivered k =
    s.delivered k ++ (ts.flatMap s.resetEntries).filterMap (Entry.line? k)

/-- Some throttles were reset, each once; they were the members of a roster, if that was flushed. The
roster may have been closed too, and all others are as they were. -/
structure Cleared (r : RosterId) (flushed shut : Prop) (ts : List ThrottleId) (s s' : System) : Prop
    extends Emptied ts s s' where
  reset : ∀ t, t ∈ ts ↔ flushed ∧ t ∈ (s.roster r).members
  members : ∀ t, t ∈ (s'.roster r).members ↔ ¬flushed ∧ t ∈ (s.roster r).members
  closed : (s'.roster r).closed = true ↔ shut ∨ (s.roster r).closed = true
  others : ∀ i, i ≠ r → s'.roster i = s.roster i
  rosters : s'.rosters.size = s.rosters.size

variable {s s' s'' : System} {ts us : List ThrottleId} {r : RosterId}

namespace Emptied

theorem resetEntries_eq (h : Emptied ts s s') {t : ThrottleId} (spared : t ∉ ts) :
    s'.resetEntries t = s.resetEntries t :=
  h.equipped.resetEntries_eq (congrArg Throttle.topic (h.throttle t) :)
    (congrArg Throttle.logger (h.throttle t) :) (by rw [h.limiter, if_neg spared])

/-- A throttle that was reset before writes nothing when it is reset again. -/
theorem trans (h : Emptied ts s s') (h' : Emptied us s' s'') :
    Emptied (ts ++ us.filter (· ∉ ts)) s s'' where
  distinct := by
    refine List.nodup_append.mpr ⟨h.distinct, h'.distinct.filter _, fun t ht u hu same => ?_⟩
    exact of_decide_eq_true (List.mem_filter.mp hu).2 (same ▸ ht)
  equipped := h.equipped.trans h'.equipped
  throttle t := (h'.throttle t).trans (h.throttle t)
  limiter t := by
    rw [h'.limiter, h.limiter]
    by_cases first : t ∈ ts <;> by_cases again : t ∈ us <;> simp [first, again]
  lines k := by
    have again : us.flatMap s'.resetEntries = (us.filter (· ∉ ts)).flatMap s.resetEntries := by
      rw [← Reference.flatMap_filter (p := (· ∉ ts)) fun t _ before => ?_]
      · exact List.flatMap_congr fun t ht =>
          h.resetEntries_eq (of_decide_eq_true (List.mem_filter.mp ht).2)
      · exact resetEntries_of_cleared (by
          rw [h.limiter, if_pos (by simpa using before)])
    rw [h'.lines, h.lines, again, List.flatMap_append, List.filterMap_append, List.append_assoc]

end Emptied

theorem emptied_of_same (throttles : s'.throttles = s.throttles) (equipped : Equipped s s')
    (lines : ∀ k, s'.delivered k = s.delivered k) : Emptied [] s s' where
  distinct := List.nodup_nil
  equipped := equipped
  throttle t := by rw [System.throttle, throttles, System.throttle]
  limiter t := by rw [System.throttle, throttles, ← System.throttle, if_neg List.not_mem_nil]
  lines k := by rw [lines, List.flatMap_nil, List.filterMap_nil, List.append_nil]

namespace Cleared
variable {a a' b b' : Prop}

theorem trans (h : Cleared r a b ts s s') (h' : Cleared r a' b' us s' s'') :
    Cleared r (a ∨ a') (b ∨ b') (ts ++ us.filter (· ∉ ts)) s s'' where
  toEmptied := h.toEmptied.trans h'.toEmptied
  reset t := by
    simp only [List.mem_append, List.mem_filter, decide_eq_true_eq, h.reset, h'.reset, h.members]
    tauto
  members t := by
    rw [h'.members, h.members]
    tauto
  closed := by
    rw [h'.closed, h.closed]
    tauto
  others i hi := (h'.others i hi).trans (h.others i hi)
  rosters := h'.rosters.trans h.rosters

theorem congr (h : Cleared r a b ts s s') (flushed : a ↔ a') (shut : b ↔ b') : Cleared r a' b' ts s s' :=
  propext flushed ▸ propext shut ▸ h

/-- Nobody is a member of a roster that was flushed. -/
theorem nodup_members (h : Cleared r a b ts s s') (flushed : a) : (s'.roster r).members.Nodup := by
  have nobody : (s'.roster r).members = [] := List.eq_nil_iff_forall_not_mem.mpr fun t member =>
    ((h.members t).mp member).1 flushed
  rw [nobody]
  exact List.nodup_nil

theorem of_same (r : RosterId) (throttles : s'.throttles = s.throttles) (rosters : s'.rosters = s.rosters)
    (equipped : Equipped s s') (lines : ∀ k, s'.delivered k = s.delivered k) :
    Cleared r False False [] s s' := by
  have read (i : RosterId) : s'.roster i = s.roster i := by rw [roster, rosters, roster]
  refine ⟨emptied_of_same throttles equipped lines, by simp, fun t => ?_, ?_, fun i _ => read i,
    congrArg Array.size rosters⟩
  · rw [read]
    simp
  · rw [read]
    simp

/-- A change of the roster alone, which keeps its members. -/
theorem of_changeRoster (there : r < s.rosters.size) {f : Roster → Roster}
    (members : ∀ x t, t ∈ (f x).members ↔ t ∈ x.members)
    (closed : (f (s.roster r)).closed = true ↔ b ∨ (s.roster r).closed = true) :
    Cleared r False b [] s (changeRoster r f s) := by
  have read : (changeRoster r f s).roster r = f (s.roster r) := by
    rw [roster_changeRoster, if_pos ⟨rfl, there⟩]
  refine ⟨emptied_of_same rfl { Equipped.refl s with } fun _ => rfl, by simp, fun t => ?_, ?_,
    fun i hi => ?_, ?_⟩
  · rw [read, members]
    simp
  · rw [read, closed]
  · rw [roster_changeRoster, if_neg fun same => hi same.1.symm]
  · exact size_rosters_changeRoster ..

end Cleared

/-- A flush resets all members of its roster. -/
theorem cleared_flush (steadfast : Steadfast s) (there : r < s.rosters.size)
    (distinct : (s.roster r).members.Nodup) :
    ∃ s', (flush r).exec s = (.ok (), s') ∧ Cleared r True False (s.roster r).members s s' ∧
      s'.holders = s.holders := by
  have equipped : Equipped s (drained r s) := (beside_drained s r).toEquipped
  obtain ⟨s', he, told⟩ := resetAll_steadfast (equipped.steadfast steadfast) distinct
  have limiters := limiter_resetAll (s.roster r).members (drained r s)
  have beside := beside_resetAll (s.roster r).members (drained r s)
  rw [he] at limiters beside
  have same : (drained r s).resetEntries = s.resetEntries :=
    funext fun t => equipped.resetEntries_eq rfl rfl rfl
  have rosters (i : RosterId) : s'.roster i = (drained r s).roster i := by
    rw [roster, told.rosters, roster]
  refine ⟨s', by rw [flush_exec, he], ⟨⟨distinct, equipped.trans beside.toEquipped, told.throttle, ?_, ?_⟩,
    by simp, ?_, ?_, ?_, ?_⟩, told.holders⟩
  · intro t
    rw [limiters]
    by_cases made : t < (drained r s).throttles.size
    · simp [made]
      rfl
    · have unmade : (drained r s).throttle t = default := throttle_of_size_le (Nat.not_lt.mp made)
      have unmade' : s.throttle t = default := unmade
      rw [if_neg fun both => made both.2, unmade, unmade']
      split <;> rfl
  · intro k
    rw [delivered_append told.journal, delivered_drained, same]
  · intro t
    rw [rosters, roster_drained, if_pos ⟨rfl, there⟩, Roster.members_drain]
    simp
  · rw [rosters, roster_drained, if_pos ⟨rfl, there⟩]
    simp [Roster.drain]
  · intro i hi
    rw [rosters, roster_drained, if_neg fun same => hi same.1.symm]
  · exact beside.rosters.trans (size_rosters_drained ..)

/-- A shutdown flushes its roster if it was open. -/
theorem cleared_shutdown (steadfast : Steadfast s) (there : r < s.rosters.size)
    (distinct : (s.roster r).members.Nodup) :
    ∃ ts s', (shutdown r).exec s = (.ok (), s') ∧ Cleared r ((s.roster r).closed = false) True ts s s' ∧
      s'.holders = s.holders := by
  simp only [shutdown, exec_bind, exec_get]
  split
  · rename_i closed
    have nothing : Cleared r False False [] s s := .of_same r rfl rfl (.refl s) fun _ => rfl
    refine ⟨[], s, rfl, { nothing with reset := ?_, members := ?_, closed := ?_ }, rfl⟩ <;> simp [closed]
  · rename_i opened
    have closing : Cleared r False True [] s (changeRoster r Roster.close s) :=
      .of_changeRoster there (fun _ _ => Iff.rfl) (by simp [Roster.close])
    have members : ((changeRoster r Roster.close s).roster r).members = (s.roster r).members := by
      rw [roster_changeRoster]
      split <;> rfl
    have there₁ : r < (changeRoster r Roster.close s).rosters.size := closing.rosters ▸ there
    obtain ⟨s₁, he, flushed, holders⟩ :=
      cleared_flush (closing.equipped.steadfast steadfast) there₁ (members ▸ distinct)
    have cancelling : Cleared r False False [] s₁ (changeRoster r Roster.cancelJobs s₁) :=
      .of_changeRoster (flushed.rosters ▸ there₁) Roster.mem_members_cancelJobs (by simp [Roster.cancelJobs])
    refine ⟨_, changeRoster r Roster.cancelJobs s₁, ?_, ((closing.trans flushed).trans cancelling).congr ?_ ?_,
      holders⟩
    · simp only [exec_bind, he, exec_modify]
    · simpa using opened
    · simp

/-- A release flushes its roster if it is a guard's, or if the roster is open and nobody is left to hold
it; in the latter case the roster is closed. -/
theorem cleared_release {x : Holder} (steadfast : Steadfast s) (there : x.roster < s.rosters.size)
    (distinct : (s.roster x.roster).members.Nodup) (held : x ∈ s.holders) :
    let left := ∃ y ∈ s.holders.erase x, y.roster = x.roster
    ∃ ts s', (release x).exec s = (.ok (), s') ∧
      Cleared x.roster (x.kind = .guard ∨ ¬left ∧ (s.roster x.roster).closed = false) (¬left) ts s s' ∧
      s'.holders = s.holders.erase x := by
  intro left
  -- what comes after a guard's flush
  have rest {s₁ : System} (steadfast : Steadfast s₁) (there : x.roster < s₁.rosters.size)
      (distinct : (s₁.roster x.roster).members.Nodup) (holders : s₁.holders = s.holders) :
      ∃ ts s', (do modify fun s => { s with holders := s.holders.erase x }
                   unless (← get).alive x.roster do shutdown x.roster : Call Unit).exec s₁ = (.ok (), s') ∧
        Cleared x.roster (¬left ∧ (s₁.roster x.roster).closed = false) (¬left) ts s₁ s' ∧
        s'.holders = s.holders.erase x := by
    have letting : Cleared x.roster False False [] s₁ { s₁ with holders := s₁.holders.erase x } :=
      .of_same _ rfl rfl { Equipped.refl s₁ with } fun _ => rfl
    have alive : System.alive { s₁ with holders := s₁.holders.erase x } x.roster = true ↔ left := by
      rw [alive_iff, holders]
    simp only [exec_bind, exec_get, exec_modify]
    split
    · rename_i still
      exact ⟨[], _, rfl, letting.congr (by simp [alive.mp still]) (by simp [alive.mp still]),
        congrArg (·.erase x) holders⟩
    · rename_i dead
      have none : ¬left := fun still => dead (alive.mpr still)
      obtain ⟨ts, s', he, shut, same⟩ := cleared_shutdown (s := { s₁ with holders := s₁.holders.erase x })
        (letting.equipped.steadfast steadfast) there distinct
      refine ⟨_, s', he, (letting.trans shut).congr ?_ ?_, same.trans (congrArg (·.erase x) holders)⟩
      · simp only [none, not_false_eq_true, true_and, false_or]
        exact Iff.rfl
      · simp [none]
  simp only [release, exec_bind, exec_get, held, if_true]
  split
  · rename_i guard
    obtain ⟨s₁, he, flushed, holders⟩ := cleared_flush steadfast there distinct
    obtain ⟨ts, s', he', after, left'⟩ := rest (flushed.equipped.steadfast steadfast)
      (flushed.rosters ▸ there) (flushed.nodup_members trivial) holders
    refine ⟨_, s', by rw [exec_bind, he]; exact he', (flushed.trans after).congr ?_ ?_, left'⟩
    · simp [guard]
    · simp
  · rename_i plain
    obtain ⟨ts, s', he, after, left'⟩ := rest steadfast there distinct rfl
    exact ⟨ts, s', he, after.congr (by simp [plain]) Iff.rfl, left'⟩

/-- A roster that nobody holds is closed. -/
def Tended (s : System) : Prop := ∀ r < s.rosters.size, s.alive r = true ∨ (s.roster r).closed = true

private theorem Beside.tended (h : Beside s s') (tended : Tended s) : Tended s' := by
  intro r made
  rw [h.alive_eq, h.closed]
  exact tended r (Nat.lt_of_lt_of_eq made h.rosters)

private theorem Tended.hold (h : Tended s) (x : Holder) : Tended { s with holders := x :: s.holders } := by
  intro r made
  refine (h r made).imp (fun alive => ?_) id
  obtain ⟨y, held, own⟩ := alive_iff.mp alive
  exact alive_iff.mpr ⟨y, List.mem_cons_of_mem x held, own⟩

/-- The last holder's release closes the roster. -/
private theorem Tended.release (h : Tended s) (sound : Sound s) (filed : Filed s) (steadfast : Steadfast s)
    {x : Holder} (held : x ∈ s.holders) : Tended (s.after (.release x)) := by
  obtain ⟨ts, s', he, cleared, holders⟩ :=
    cleared_release steadfast (sound.holder x held) (filed.nodup_members x.roster) held
  rw [after, Action.perform, he]
  intro r made
  rw [alive_iff, holders]
  by_cases left : ∃ y ∈ s.holders.erase x, y.roster = r
  · exact .inl left
  · refine .inr ?_
    by_cases own : r = x.roster
    · subst own
      exact cleared.closed.mpr (.inl left)
    · rw [cleared.others r own]
      refine (h r (Nat.lt_of_lt_of_eq made cleared.rosters)).resolve_left fun alive => left ?_
      obtain ⟨y, there, own'⟩ := alive_iff.mp alive
      have other : y ≠ x := by
        rintro rfl
        exact own own'.symm
      exact ⟨y, (List.mem_erase_of_ne other).mpr there, own'⟩

theorem Tended.after (h : Tended s) (sound : Sound s) (filed : Filed s) (steadfast : Steadfast s) {a : Action}
    (ready : a.Ready s) : Tended (s.after a) := by
  cases a with
  | addSink | addStopwatch | addCounter => exact h
  | openRoster =>
    intro r made
    by_cases new : r = s.rosters.size
    · exact .inl (alive_iff.mpr ⟨_, List.mem_cons_self, new.symm⟩)
    · rw [roster_openRoster, if_neg new]
      have old : r < s.rosters.size :=
        Nat.lt_of_le_of_ne (Nat.le_of_lt_succ (Nat.lt_of_lt_of_eq made (Array.size_push ..))) new
      exact h.hold ⟨.owner, s.rosters.size⟩ r old
  | build p =>
    rw [after_build]
    cases p.logger with
    | error e => exact h
    | ok x => exact h.hold ⟨.logger s.loggers.size, p.roster⟩
  | move w m =>
    rw [after_move]
    exact h
  | lookup | log | logThrough | emit | attempt | enrol | flush | fire | resetTally =>
    exact (beside_of_inward rfl s).tended h
  | shutdown r =>
    obtain ⟨ts, s', he, cleared, holders⟩ :=
      cleared_shutdown steadfast (sound.alive_lt ready) (filed.nodup_members r)
    rw [System.after, Action.perform, he]
    intro i made
    rw [alive, holders, ← alive]
    by_cases own : i = r
    · subst own
      exact .inr (cleared.closed.mpr (.inl trivial))
    · rw [cleared.others i own]
      exact h i (Nat.lt_of_lt_of_eq made cleared.rosters)
  | guard r => exact h.hold ⟨.guard, r⟩
  | share l => exact h.hold ⟨.logger l, (s.logger l).roster⟩
  | release x => exact h.release sound filed steadfast ready

end LogThrottle.System
