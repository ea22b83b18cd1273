import LogThrottle.Proofs.Interleaving.Contention
import LogThrottle.Proofs.Interleaving.Numbering
import LogThrottle.Proofs.Interleaving.Traces

/-! The attempt that reaches the limit. It looks at the mark only after it was counted, and an attempt numbered beyond
it may set the mark in between. Then it is withheld, and the other one passes in its place; otherwise it passes. -/
namespace LogThrottle.Interleaving.Attempt
open Phase

/-- The caller counts the event that reaches the limit. -/
def Reaches (limit : UInt32) (c : Caller) (x y : Config) : Prop :=
  x.phase c = .idle ∧ y.phase c = .counted limit.toUInt64

/-- The caller sets the mark for event `m`, where there was none. -/
structure Marks (d : Caller) (m : UInt64) (x y : Config) : Prop where
  unlimited : x.limiter.isLimited = false
  marking : ∃ now, x.phase d = .marking m now
  limited : y.limiter.isLimited = true
  passing : y.phase d = .passing m

/-- Caller `c` reached the limit at `i` and looked at the mark at `j`; in between, at `k`, caller `d` set it. -/
structure Forestalled (limit : UInt32) (x : Nat → Config) (n : Nat) (c d : Caller) (m : UInt64) (i k j : Nat) :
    Prop where
  reaches : Reaches limit c (x i) (x (i + 1))
  waits : ∀ h, i < h → h ≤ j → (x h).phase c = .counted limit.toUInt64
  looks : (x (j + 1)).phase c ≠ .counted limit.toUInt64
  marks : Marks d m (x k) (x (k + 1))
  after : i < k
  before : k < j
  within : j < n

section Steps
variable {limit : UInt32} {x y : Config} {c d : Caller} {m : UInt64}

theorem counted_of_step (s : Step limit x y) (now : y.phase c = .counted m) :
    x.phase c = .counted m ∨ x.phase c = .idle ∧ m = x.limiter.ordinal := by
  cases s with
  | countBelow d at_ below => exact .inl now
  | countPast d at_ past =>
    obtain ⟨rfl, same⟩ | before := moved_eq now
    · cases same
      exact .inr ⟨at_, rfl⟩
    · exact .inl before
  | _ => exact (moved_eq now).elim (fun own => nomatch own.2) .inl

/-- Only a caller that sets the mark brings one about. -/
theorem marks_of_step (s : Step limit x y) (before : x.limiter.isLimited = false)
    (after : y.limiter.isLimited = true) :
    ∃ d m, Marks d m x y := by
  cases s with
  | @setMark d m now at_ => exact ⟨d, m, before, ⟨now, at_⟩, after, if_pos rfl⟩
  | _ => exact absurd (before.symm.trans after) Bool.false_ne_true

theorem limited_step (s : Step limit x y) (limited : x.limiter.isLimited = true) : y.limiter.isLimited = true := by
  cases s with
  | setMark d at_ =>
    have kept : x.limiter.mark ≠ 0 := bne_iff_ne.mp limited
    rw [Limiter.setMark, if_neg kept]
    exact limited
  | _ => exact limited

theorem returned_step {e : UInt64 × Decision} (s : Step limit x y) (member : e ∈ x.returned) : e ∈ y.returned := by
  cases s with
  | countBelow | seeMark | allow => exact List.mem_cons_of_mem _ member
  | _ => exact member

/-- An attempt is withheld by a caller that looks and finds a mark. -/
theorem looks_of_step (s : Step limit x y) (before : (m, .suppress) ∉ x.returned)
    (after : (m, .suppress) ∈ y.returned) :
    ∃ c, x.phase c = .counted m ∧ y.phase c = .idle ∧ x.limiter.isLimited = true := by
  cases s with
  | countBelow d at_ below | allow d at_ =>
    rcases List.mem_cons.mp after with new | old
    · cases new
    · exact absurd old before
  | seeMark d at_ limited =>
    rcases List.mem_cons.mp after with new | old
    · cases new
      exact ⟨d, at_, if_pos rfl, limited⟩
    · exact absurd old before
  | _ => exact absurd after before

/-- A caller that looks and finds a mark is withheld. -/
theorem withheld_step (s : Step limit x y) (waits : x.phase c = .counted m) (looks : y.phase c ≠ .counted m)
    (limited : x.limiter.isLimited = true) : (m, .suppress) ∈ y.returned := by
  -- whoever else moves leaves the caller where it is
  have mine {d : Caller} {p : Phase} (moved : (x.enter d p).phase c ≠ .counted m) : c = d :=
    Classical.byContradiction fun other => moved ((if_neg other).trans waits)
  cases s with
  | countBelow d at_ below => exact absurd waits looks
  | seeMark d at_ marked =>
    cases mine looks
    cases waits.symm.trans at_
    exact List.mem_cons_self
  | seeNone d at_ unlimited => exact absurd (unlimited.symm.trans limited) Bool.false_ne_true
  | countPast d at_ | acquire d at_ | findBelow d at_ | findPast d at_ | readClock d _ at_ | setMark d at_
  | allow d at_ =>
    cases mine looks
    cases waits.symm.trans at_

theorem passes_step (s : Step limit x y) (passing : x.phase d = .passing m ∨ (m, .allow) ∈ x.returned) :
    y.phase d = .passing m ∨ (m, .allow) ∈ y.returned := by
  obtain passing | member := passing
  · have stays {c : Caller} {p : Phase} (other : x.phase c ≠ .passing m) : (x.enter c p).phase d = .passing m :=
      stays_of_ne passing other
    cases s with
    | countBelow c at_ below => exact .inl passing
    | allow c at_ =>
      by_cases own : d = c
      · subst own
        cases passing.symm.trans at_
        exact .inr List.mem_cons_self
      · exact .inl ((if_neg own).trans passing)
    | countPast c at_ | seeMark c at_ | seeNone c at_ | acquire c at_ | findBelow c at_ | findPast c at_
    | readClock c _ at_ | setMark c at_ => exact .inl (stays (at_ ▸ nofun))
  · exact .inr (returned_step s member)

end Steps

section Runs
variable {limit : UInt32} {x : Nat → Config} {n : Nat}

theorem reachable_run (run : Trace (Step limit) {} x n) : Reachable limit (x n) :=
  run.keeps .start fun i lt h => h.attempt (run.step i lt)

theorem events_le_run (run : Trace (Step limit) {} x n) {i : Nat} (le : i ≤ n) : (x i).events ≤ (x n).events :=
  run.stays (P := fun y => (x i).events ≤ y.events) (fun _ _ s le => le.trans (events_le_step s)) le le_rfl le_rfl

theorem numbered_run (run : Trace (Step limit) {} x n) (few : (x n).events < 2 ^ 64) : Numbered limit (x n) := by
  refine run.keeps ⟨nofun, List.nodup_nil, nofun, nofun, nofun, fun m positive le => ?_⟩ fun i lt h => ?_
  · exact absurd le (Nat.not_le.mpr positive)
  · have fewer : (x (i + 1)).events < 2 ^ 64 := (events_le_run run lt).trans_lt few
    exact h.step (marked_reachable (reachable_run (run.take lt.le))) fewer (run.step i lt)

/-- Whoever set the mark is beyond the limit, and passes. -/
theorem Forestalled.passes (run : Trace (Step limit) {} x n) (few : (x n).events < 2 ^ 64) {c d : Caller} {m : UInt64}
    {i k j : Nat} (h : Forestalled limit x n c d m i k j) :
    limit.toNat < m.toNat ∧ ((x n).phase d = .passing m ∨ (m, .allow) ∈ (x n).returned) := by
  have early : k < n := h.before.trans h.within
  have numbered := numbered_run (run.take early.le) ((events_le_run run early.le).trans_lt few)
  obtain ⟨now, marking⟩ := h.marks.marking
  have counted := h.waits k h.after h.before.le
  have number : (x k).numbers d = some m := congrArg Phase.number? marking
  have number' : (x k).numbers c = some limit.toUInt64 := congrArg Phase.number? counted
  refine ⟨Nat.lt_of_le_of_ne (numbered.past d m number).1 fun same => ?_, ?_⟩
  · have equal : limit.toUInt64 = m := UInt64.toNat_inj.mp (UInt32.toNat_toUInt64 limit ▸ same)
    cases numbered.apart d c m number (equal ▸ number')
    cases marking.symm.trans counted
  · exact run.stays (fun _ _ s => passes_step s) early le_rfl (.inl h.marks.passing)

/-- Whoever finds a mark when it looks is withheld. -/
theorem Forestalled.withheld (run : Trace (Step limit) {} x n) {c d : Caller} {m : UInt64} {i k j : Nat}
    (h : Forestalled limit x n c d m i k j) : (limit.toUInt64, .suppress) ∈ (x n).returned := by
  have limited : (x j).limiter.isLimited = true :=
    run.stays (fun _ _ s => limited_step s) h.before h.within.le h.marks.limited
  have counted := h.waits j (h.after.trans h.before) le_rfl
  have withheld := withheld_step (run.step j h.within) counted h.looks limited
  exact run.stays (fun _ _ s => returned_step s) h.within le_rfl withheld

/-- If the attempt that reached the limit was withheld, somebody set the mark before it looked. -/
theorem exists_forestalled (run : Trace (Step limit) {} x n) (few : (x n).events < 2 ^ 64)
    (withheld : (limit.toUInt64, .suppress) ∈ (x n).returned) : ∃ c d m i k j, Forestalled limit x n c d m i k j := by
  have nothing : (limit.toUInt64, .suppress) ∉ (x 0).returned := by rw [run.start]; exact List.not_mem_nil
  obtain ⟨j, -, within, before, after⟩ := exists_since (P := fun h => (limit.toUInt64, .suppress) ∈ (x h).returned)
    n.zero_le nothing withheld
  obtain ⟨c, counted, idle, limited⟩ := looks_of_step (run.step j within) before (after (j + 1) j.lt_succ_self within)
  have outside : ¬(x 0).phase c = .counted limit.toUInt64 := by rw [run.start]; nofun
  obtain ⟨i, -, lt, away, waits⟩ := exists_since (P := fun h => (x h).phase c = .counted limit.toUInt64)
    j.zero_le outside counted
  have early : i < n := lt.trans within
  have fewer : (x i).events < 2 ^ 64 := (events_le_run run early.le).trans_lt few
  have marked := marked_reachable (reachable_run (run.take early.le))
  obtain there | ⟨idle', last⟩ := counted_of_step (run.step i early) (waits (i + 1) i.lt_succ_self lt)
  · exact absurd there away
  -- before the limit is reached there is no mark, and nobody is on the way to one
  have few' : (x i).events < limit.toNat := by
    have number : limit.toNat = (x i).limiter.ordinal.toNat := last ▸ (UInt32.toNat_toUInt64 limit).symm
    rw [Limiter.ordinal_toNat, marked.count, Nat.mod_eq_of_lt fewer] at number
    have := limit.toNat_lt
    omega
  have unlimited : ¬(x i).limiter.isLimited = true := fun limited => Nat.not_le.mpr few' (marked.reached limited)
  obtain ⟨k, le, before, turn, since⟩ := exists_since (P := fun h => (x h).limiter.isLimited = true)
    lt.le unlimited limited
  obtain ⟨d, m, marks⟩ := marks_of_step (run.step k (before.trans within)) (Bool.eq_false_iff.mpr turn)
    (since (k + 1) k.lt_succ_self before)
  refine ⟨c, d, m, i, k, j, ⟨idle', waits (i + 1) i.lt_succ_self lt⟩, waits, ?_, marks, ?_, before, within⟩
  · rw [idle]
    nofun
  · refine Nat.lt_of_le_of_ne le fun same => ?_
    subst same
    obtain ⟨now, marking⟩ := marks.marking
    have number := ((numbered_run (run.take early.le) fewer).past d m (congrArg Phase.number? marking))
    omega

end Runs

/-- Callers make attempts on a fresh limiter in any interleaving, and nobody resets it. The attempt that reaches the
limit is withheld exactly if another one set the mark after it was counted and before it looked. That one is numbered
beyond the limit and passes in its place. If there was none, the attempt that reaches the limit passes. -/
theorem withheld_iff_forestalled {q : Quota} {x : Nat → Config} {n : Nat} (run : Trace (Step q.limit) {} x n)
    (few : (x n).events < 2 ^ 64) :
    let last := q.limit.toUInt64
    ((last, .suppress) ∈ (x n).returned ↔ ∃ c d m i k j, Forestalled q.limit x n c d m i k j) ∧
    (∀ c d m i k j, Forestalled q.limit x n c d m i k j →
      q.limit.toNat < m.toNat ∧ ((x n).phase d = .passing m ∨ (m, .allow) ∈ (x n).returned)) ∧
    ((x n).Quiet → q.limit.toNat ≤ (x n).events →
      ((last, .allow) ∈ (x n).returned ↔ ¬∃ c d m i k j, Forestalled q.limit x n c d m i k j)) := by
  intro last
  have iff : (last, .suppress) ∈ (x n).returned ↔ ∃ c d m i k j, Forestalled q.limit x n c d m i k j :=
    ⟨exists_forestalled run few, fun ⟨_, _, _, _, _, _, h⟩ => h.withheld run⟩
  have numbered := numbered_run run few
  refine ⟨iff, fun c d m i k j h => h.passes run few, fun quiet reached => ?_⟩
  have number : last.toNat = q.limit.toNat := UInt32.toNat_toUInt64 q.limit
  have positive : 0 < last.toNat := number ▸ UInt32.lt_iff_toNat_lt.mp q.limit_pos
  rw [← iff]
  obtain given | ⟨c, borne⟩ := numbered.all last positive (number ▸ reached)
  · obtain ⟨⟨_, decision⟩, member, rfl⟩ := List.mem_map.mp given
    cases decision with
    | allow => exact iff_of_true member fun other => nomatch numbered.decision_eq member other
    | suppress => exact iff_of_false (fun other => nomatch numbered.decision_eq member other) (not_not.mpr member)
  · rw [Config.numbers, quiet c] at borne
    cases borne

/-- Two callers count at once; the second of them sets the mark, and only then the first looks. -/
def forestalling : List (Config → Config) :=
  [fun x => { x.enter 0 (.counted x.limiter.ordinal) with limiter := x.limiter.bump, events := x.events + 1 },
    fun x => { x.enter 1 (.counted x.limiter.ordinal) with limiter := x.limiter.bump, events := x.events + 1 },
    (·.enter 1 (.owing 2)), fun x => { x.enter 1 (.checking 2) with lock := some 1 }, (·.enter 1 (.timing 2)),
    (·.enter 1 (.marking 2 1)), fun x => { x.enter 1 (.passing 2) with limiter := x.limiter.setMark 1 },
    fun x => { x.enter 1 .idle with lock := none, returned := (2, .allow) :: x.returned },
    fun x => { x.enter 0 .idle with returned := (1, .suppress) :: x.returned }]

def afterMoves (i : Nat) : Config := (forestalling.take i).foldl (fun x f => f x) {}

private theorem run_forestalling : Trace (Step 1) {} afterMoves 9 := by
  refine ⟨rfl, fun i lt => ?_⟩
  interval_cases i
  · exact .countPast 0 rfl rfl
  · exact .countPast 1 rfl rfl
  · exact .seeNone 1 rfl rfl
  · exact .acquire 1 rfl rfl
  · exact .findPast 1 rfl rfl
  · exact .readClock 1 .zero rfl
  · exact .setMark 1 rfl
  · exact .allow 1 rfl
  · exact .seeMark 0 rfl rfl

-- the first two callers moved and came back, no other ever moved
private theorem quiet_forestalling : (afterMoves 9).Quiet
  | 0 | 1 | _ + 2 => rfl

theorem limit_reached_and_withheld : ∃ (x : Nat → Config) (n : Nat), Trace (Step 1) {} x n ∧ (x n).Quiet ∧
    (x n).events = 2 ∧ (x n).returned = [(1, .suppress), (2, .allow)] :=
  ⟨afterMoves, 9, run_forestalling, quiet_forestalling, rfl, rfl⟩

theorem forestalled_by_second :
    Trace (Step 1) {} afterMoves 9 ∧ (afterMoves 9).events < 2 ^ 64 ∧ (afterMoves 9).Quiet ∧
    ∃ c d m i k j, Forestalled 1 afterMoves 9 c d m i k j ∧ 1 < m.toNat ∧ (m, .allow) ∈ (afterMoves 9).returned := by
  have few : (afterMoves 9).events < 2 ^ 64 := by decide
  obtain ⟨withheld, passes, -⟩ := withheld_iff_forestalled (q := default) run_forestalling few
  obtain ⟨c, d, m, i, k, j, h⟩ := withheld.mp (show (1, .suppress) ∈ (afterMoves 9).returned from List.mem_cons_self)
  obtain ⟨beyond, passing | allowed⟩ := passes c d m i k j h
  · exact nomatch (quiet_forestalling d).symm.trans passing
  · exact ⟨run_forestalling, few, quiet_forestalling, c, d, m, i, k, j, h, beyond, allowed⟩

end LogThrottle.Interleaving.Attempt
