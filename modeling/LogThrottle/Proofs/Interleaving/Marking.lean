import LogThrottle.Proofs.Interleaving.Callers
import LogThrottle.Quota

/-! What the mark says while callers overlap. Events are counted outside the lock and the mark is set
under it, so somebody may be on the way to a mark that is due; a reset that comes first leaves them
nothing to set. -/
namespace LogThrottle.Interleaving.Attempt
open Phase

namespace Phase

def locked : Phase → Bool
  | .checking _ | .timing _ | .marking .. | .passing _ | .clearing | .emptying _ | .reset .. => true
  | .idle | .counted _ | .owing _ => false

/-- Whether a caller here may still set the mark, or is a reset that cleared the mark and not yet the
count. -/
def unsettled : Phase → Bool
  | .counted _ | .owing _ | .checking _ | .timing _ | .marking .. | .emptying _ => true
  | .idle | .passing _ | .clearing | .reset .. => false

/-- What the mark and the events counted have to be while a caller is here. -/
def Fits (limit : UInt32) (mark : UInt64) (events : Nat) : Phase → Prop
  | .timing _ => limit.toNat ≤ events
  | .marking _ now => now ≠ 0 ∧ limit.toNat ≤ events
  | .emptying _ => mark = 0
  | _ => True

variable {limit : UInt32} {mark : UInt64} {events : Nat} {p : Phase}

theorem fits_of_not_locked (h : p.locked = false) : p.Fits limit mark events := by
  cases p <;> trivial

theorem Fits.succ (h : p.Fits limit mark events) : p.Fits limit mark (events + 1) := by
  cases p with
  | timing n => exact Nat.le_succ_of_le h
  | marking n now => exact ⟨h.1, Nat.le_succ_of_le h.2⟩
  | _ => exact h

end Phase

/-- Whoever needs the lock has it. -/
def Held (x : Config) : Prop := ∀ c, (x.phase c).locked = true → x.lock = some c

namespace Held
variable {limit : UInt32} {x y : Config}

/-- While one caller has the lock, nobody else is where it is needed. -/
theorem others (h : Held x) {c : Caller} (locked : (x.phase c).locked = true) (d : Caller)
    (other : d ≠ c) : (x.phase d).locked = false := by
  refine Bool.eq_false_iff.mpr fun locked' => other ?_
  exact Option.some.inj ((h d locked').symm.trans (h c locked))

theorem nobody (h : Held x) (free : x.lock = none) (c : Caller) : (x.phase c).locked = false :=
  Bool.eq_false_iff.mpr fun locked => Option.some_ne_none c ((h c locked).symm.trans free)

private theorem enter {lock : Option Caller} {c : Caller} {p : Phase}
    (own : p.locked = true → lock = some c)
    (others : ∀ d, d ≠ c → (x.phase d).locked = true → lock = some d) (d : Caller) :
    ((x.enter c p).phase d).locked = true → lock = some d :=
  forall_moved (P := fun d (p : Phase) => p.locked = true → lock = some d) own others d

private theorem released (h : Held x) {c : Caller} (locked : (x.phase c).locked = true) (d : Caller)
    (other : d ≠ c) (locked' : (x.phase d).locked = true) : (none : Option Caller) = some d := by
  rw [h.others locked d other] at locked'
  cases locked'

private theorem taken (h : Held x) {c : Caller} (free : x.lock = none) (d : Caller)
    (locked : (x.phase d).locked = true) : some c = some d := by
  rw [h.nobody free d] at locked
  cases locked

theorem step (h : Held x) (s : Step limit x y) : Held y := by
  cases s with
  | countBelow c at_ below => exact h
  | countPast c at_ past => exact enter nofun fun d _ => h d
  | seeMark c at_ limited => exact enter nofun fun d _ => h d
  | seeNone c at_ unlimited => exact enter nofun fun d _ => h d
  | acquire c at_ free => exact enter (fun _ => rfl) fun d _ => h.taken free d
  | findBelow c at_ below => exact enter (fun _ => h c (at_ ▸ rfl)) fun d _ => h d
  | findPast c at_ past => exact enter (fun _ => h c (at_ ▸ rfl)) fun d _ => h d
  | readClock c now at_ => exact enter (fun _ => h c (at_ ▸ rfl)) fun d _ => h d
  | setMark c at_ => exact enter (fun _ => h c (at_ ▸ rfl)) fun d _ => h d
  | allow c at_ => exact enter nofun fun d => h.released (at_ ▸ rfl) d

theorem resetStep (h : Held x) (s : ResetStep x y) : Held y := by
  cases s with
  | acquire c at_ free => exact enter (fun _ => rfl) fun d _ => h.taken free d
  | clearMark c at_ => exact enter (fun _ => h c (at_ ▸ rfl)) fun d _ => h d
  | clearCount c at_ => exact enter (fun _ => h c (at_ ▸ rfl)) fun d _ => h d
  | release c at_ => exact enter nofun fun d => h.released (at_ ▸ rfl) d

end Held

/-- How the count, the mark and the callers under way stand to the events counted. -/
structure Marked (limit : UInt32) (x : Config) : Prop where
  held : Held x
  count : x.limiter.count.toNat = x.events % 2 ^ 64
  reached : x.limiter.isLimited = true → limit.toNat ≤ x.events
  fits : ∀ c, (x.phase c).Fits limit x.limiter.mark x.events

namespace Marked
variable {limit : UInt32} {x y : Config}

theorem events_of_past (h : Marked limit x) (past : Limiter.below limit x.limiter.count = false) :
    limit.toNat ≤ x.events := by
  have : ¬x.limiter.count.toNat < limit.toNat := fun b => by simp [Limiter.below_iff.mpr b] at past
  rw [h.count] at this
  exact Nat.le_trans (Nat.not_lt.mp this) (Nat.mod_le ..)

theorem events_of_below (h : Marked limit x) (few : x.events < 2 ^ 64)
    (below : Limiter.below limit x.limiter.count = true) : x.events < limit.toNat := by
  have := Limiter.below_iff.mp below
  rwa [h.count, Nat.mod_eq_of_lt few] at this

theorem events_of_ordinal_below (h : Marked limit x) (few : x.events < 2 ^ 64)
    (below : Limiter.below limit x.limiter.ordinal = true) : x.events + 1 < limit.toNat := by
  have := Limiter.below_iff.mp below
  rw [Limiter.ordinal_toNat, h.count, Nat.mod_eq_of_lt few] at this
  have := limit.toNat_lt
  omega

theorem events_of_ordinal_past (h : Marked limit x) (past : Limiter.below limit x.limiter.ordinal = false) :
    limit.toNat ≤ x.events + 1 := by
  have : ¬x.limiter.ordinal.toNat < limit.toNat := fun b => by simp [Limiter.below_iff.mpr b] at past
  rw [Limiter.ordinal_toNat, h.count] at this
  have := Nat.mod_le x.events (2 ^ 64)
  omega

private theorem count_bump (h : Marked limit x) :
    x.limiter.bump.count.toNat = (x.events + 1) % 2 ^ 64 := by
  rw [Limiter.bump, UInt64.toNat_add, h.count, UInt64.toNat_one, Nat.mod_add_mod]

private theorem enter {mark : UInt64} {events : Nat} {c : Caller} {p : Phase}
    (own : p.Fits limit mark events)
    (others : ∀ d, d ≠ c → (x.phase d).Fits limit mark events) (d : Caller) :
    ((x.enter c p).phase d).Fits limit mark events :=
  forall_moved (P := fun _ (p : Phase) => p.Fits limit mark events) own others d

theorem step (h : Marked limit x) (s : Step limit x y) : Marked limit y := by
  have held := h.held.step s
  cases s with
  | countBelow c at_ below =>
    exact ⟨held, h.count_bump, fun m => Nat.le_succ_of_le (h.reached m), fun d => (h.fits d).succ⟩
  | countPast c at_ past =>
    exact ⟨held, h.count_bump, fun m => Nat.le_succ_of_le (h.reached m),
      enter trivial fun d _ => (h.fits d).succ⟩
  | seeMark c at_ limited => exact ⟨held, h.count, h.reached, enter trivial fun d _ => h.fits d⟩
  | seeNone c at_ unlimited => exact ⟨held, h.count, h.reached, enter trivial fun d _ => h.fits d⟩
  | acquire c at_ free => exact ⟨held, h.count, h.reached, enter trivial fun d _ => h.fits d⟩
  | findBelow c at_ below => exact ⟨held, h.count, h.reached, enter trivial fun d _ => h.fits d⟩
  | findPast c at_ past =>
    exact ⟨held, h.count, h.reached, enter (h.events_of_past past) fun d _ => h.fits d⟩
  | readClock c now at_ =>
    have timing := h.fits c
    rw [at_] at timing
    exact ⟨held, h.count, h.reached, enter ⟨now.clockMillis_ne_zero, timing⟩ fun d _ => h.fits d⟩
  | setMark c at_ =>
    have marking := h.fits c
    rw [at_] at marking
    have others := h.held.others (c := c) (at_ ▸ rfl)
    refine ⟨held, ?_, fun _ => marking.2, enter trivial fun d other => fits_of_not_locked (others d other)⟩
    rw [Limiter.count_setMark]
    exact h.count
  | allow c at_ => exact ⟨held, h.count, h.reached, enter trivial fun d _ => h.fits d⟩

theorem resetStep (h : Marked limit x) (s : ResetStep x y) : Marked limit y := by
  have held := h.held.resetStep s
  cases s with
  | acquire c at_ free => exact ⟨held, h.count, h.reached, enter trivial fun d _ => h.fits d⟩
  | clearMark c at_ =>
    have others := h.held.others (c := c) (at_ ▸ rfl)
    exact ⟨held, h.count, nofun, enter rfl fun d other => fits_of_not_locked (others d other)⟩
  | clearCount c at_ =>
    have emptying := h.fits c
    rw [at_] at emptying
    have others := h.held.others (c := c) (at_ ▸ rfl)
    refine ⟨held, rfl, fun limited => ?_, enter trivial fun d other => fits_of_not_locked (others d other)⟩
    exact absurd emptying (bne_iff_ne.mp limited)
  | release c at_ => exact ⟨held, h.count, h.reached, enter trivial fun d _ => h.fits d⟩

end Marked

/-- Where the limit is reached and there is no mark, somebody is still to set it, or a reset is still
to clear the count. -/
def Owed (limit : UInt32) (x : Config) : Prop :=
  x.events < 2 ^ 64 → limit.toNat ≤ x.events → x.limiter.isLimited = false →
    ∃ c, (x.phase c).unsettled = true

namespace Owed
variable {limit : UInt32} {x y : Config}

private theorem entered (x : Config) (c : Caller) {p : Phase} (h : p.unsettled = true) :
    ∃ d, ((x.enter c p).phase d).unsettled = true :=
  ⟨c, by simpa only [Config.enter, if_true] using h⟩

/-- A settled caller that moves on leaves the others where they are. -/
private theorem left {c : Caller} (settled : (x.phase c).unsettled = false) (p : Phase)
    (h : ∃ d, (x.phase d).unsettled = true) : ∃ d, ((x.enter c p).phase d).unsettled = true := by
  obtain ⟨d, unsettled⟩ := h
  have other : d ≠ c := by
    rintro rfl
    rw [settled] at unsettled
    cases unsettled
  exact ⟨d, by simpa only [Config.enter, other, if_false] using unsettled⟩

theorem step (m : Marked limit x) (h : Owed limit x) (s : Step limit x y) : Owed limit y := by
  intro few past unlimited
  cases s with
  | countBelow c at_ below =>
    have := m.events_of_ordinal_below (Nat.lt_of_succ_lt few) below
    exact absurd past (Nat.not_le.mpr this)
  | countPast c at_ past => exact entered x c rfl
  | seeMark c at_ limited => exact absurd (limited.symm.trans unlimited) nofun
  | seeNone c at_ unmarked => exact entered x c rfl
  | acquire c at_ free => exact entered x c rfl
  | findBelow c at_ below =>
    exact absurd past (Nat.not_le.mpr (m.events_of_below few below))
  | findPast c at_ past => exact entered x c rfl
  | readClock c now at_ => exact entered x c rfl
  | setMark c at_ =>
    have marking := m.fits c
    rw [at_] at marking
    exact absurd unlimited (by rw [Limiter.isLimited_setMark marking.1]; nofun)
  | allow c at_ => exact left (at_ ▸ rfl) .idle (h few past unlimited)

theorem resetStep (positive : 0 < limit.toNat) (h : Owed limit x) (s : ResetStep x y) :
    Owed limit y := by
  intro few past unlimited
  cases s with
  | acquire c at_ free => exact left (at_ ▸ rfl) .clearing (h few past unlimited)
  | clearMark c at_ => exact entered x c rfl
  | clearCount c at_ => exact absurd past (Nat.not_le.mpr positive)
  | release c at_ => exact left (at_ ▸ rfl) .idle (h few past unlimited)

/-- With no call under way nothing is owed. -/
theorem settled (h : Owed limit x) (quiet : x.Quiet) (few : x.events < 2 ^ 64) (past : limit.toNat ≤ x.events) :
    x.limiter.isLimited = true := by
  refine Classical.byContradiction fun unlimited => ?_
  obtain ⟨c, unsettled⟩ := h few past (Bool.eq_false_iff.mpr unlimited)
  rw [quiet c] at unsettled
  cases unsettled

end Owed

theorem marked_reachable {limit : UInt32} {x : Config} (h : Reachable limit x) : Marked limit x := by
  induction h with
  | start => exact ⟨nofun, rfl, nofun, fun _ => trivial⟩
  | attempt _ s ih => exact ih.step s
  | reset _ s ih => exact ih.resetStep s

theorem owed_reachable {limit : UInt32} {x : Config} (positive : 0 < limit.toNat)
    (h : Reachable limit x) : Owed limit x := by
  induction h with
  | start => exact fun _ past => absurd past (Nat.not_le.mpr positive)
  | attempt earlier s ih => exact ih.step (marked_reachable earlier) s
  | reset _ s ih => exact ih.resetStep positive s

/-- A mark is only ever there with the limit reached, and it is there whenever the limit is reached and
no call is under way. -/
theorem isLimited_agrees_with_count {q : Quota} {x : Config} (h : Reachable q.limit x)
    (few : x.events < 2 ^ 64) :
    (x.limiter.isLimited = true → q.limit.toNat ≤ x.limiter.count.toNat) ∧
    (x.Quiet → (x.limiter.isLimited = true ↔ q.limit.toNat ≤ x.limiter.count.toNat)) := by
  have marked := marked_reachable h
  have count : x.limiter.count.toNat = x.events := marked.count.trans (Nat.mod_eq_of_lt few)
  rw [count]
  have owed := owed_reachable (UInt32.lt_iff_toNat_lt.mp q.limit_pos) h
  exact ⟨marked.reached, fun quiet => ⟨marked.reached, owed.settled quiet few⟩⟩

/-- A caller that reached the limit waits for the lock while a reset runs. It leaves the new period
without a mark, and its next event sets one. -/
theorem isLimited_after_delay : ∃ x y : Config,
    Reachable 1 x ∧ x.Quiet ∧ x.events < 2 ^ 64 ∧ x.limiter = { count := 0, mark := 0 } ∧
    x.returned = [(1, .allow)] ∧ x.resets = [{ count := 1, mark := 0 }] ∧
    Reachable 1 y ∧ y.Quiet ∧ y.events < 2 ^ 64 ∧ y.limiter = { count := 1, mark := 1 } ∧
    (x.limiter.isLimited = true ↔ 1 ≤ x.limiter.count.toNat) ∧
    (y.limiter.isLimited = true ↔ 1 ≤ y.limiter.count.toNat) := by
  have waiting := ((.start : Reachable 1 {}).attempt (.countPast 0 rfl rfl)).attempt
    (.seeNone 0 rfl rfl)
  have emptied := ((waiting.reset (.acquire 1 rfl rfl)).reset (.clearMark 1 rfl)).reset
    (.clearCount 1 rfl)
  have locked := (emptied.reset (.release 1 rfl)).attempt (.acquire 0 rfl rfl)
  have delayed := (locked.attempt (.findBelow 0 rfl rfl)).attempt (.allow 0 rfl)
  have waiting' := (delayed.attempt (.countPast 0 rfl rfl)).attempt (.seeNone 0 rfl rfl)
  have timing := (waiting'.attempt (.acquire 0 rfl rfl)).attempt (.findPast 0 rfl rfl)
  have set := (timing.attempt (.readClock 0 .zero rfl)).attempt (.setMark 0 rfl)
  have again := set.attempt (.allow 0 rfl)
  obtain ⟨x, hx, qx, lx, ex, rx, sx⟩ : ∃ x : Config, Reachable 1 x ∧ x.Quiet ∧
      x.limiter = { count := 0, mark := 0 } ∧ x.events = 0 ∧ x.returned = [(1, .allow)] ∧
      x.resets = [{ count := 1, mark := 0 }] := by
    refine ⟨_, delayed, fun c => ?_, rfl, rfl, rfl, rfl⟩
    by_cases zero : c = 0 <;> by_cases one : c = 1 <;> simp [Config.enter, zero, one]
  obtain ⟨y, hy, qy, ly, ey⟩ : ∃ y : Config, Reachable 1 y ∧ y.Quiet ∧
      y.limiter = { count := 1, mark := 1 } ∧ y.events = 1 := by
    refine ⟨_, again, fun c => ?_, rfl, rfl⟩
    by_cases zero : c = 0 <;> by_cases one : c = 1 <;> simp [Config.enter, zero, one]
  have fx : x.events < 2 ^ 64 := by omega
  have fy : y.events < 2 ^ 64 := by omega
  exact ⟨x, y, hx, qx, fx, lx, rx, sx, hy, qy, fy, ly,
    (isLimited_agrees_with_count (q := default) hx fx).2 qx,
    (isLimited_agrees_with_count (q := default) hy fy).2 qy⟩

end LogThrottle.Interleaving.Attempt
