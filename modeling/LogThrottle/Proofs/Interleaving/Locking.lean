import LogThrottle.Interleaving.Overflow
import LogThrottle.Proofs.Interleaving.Callers
import LogThrottle.Proofs.System.Executions

/-! Who holds the lock of the overflow. A caller does exactly while it overflows the catalogue, so between overflows
the lock is free, also after one that failed, and a lookup that begins then goes through as if it were alone. -/
namespace LogThrottle.Interleaving.Overflow
variable {l : LoggerId} {x y : Config} {c : Caller} {topic : Topic}

namespace Config

/-- Only the last phase of a caller is left. -/
theorem enter_enter (x : Config) (c : Caller) (p q : Phase) : (x.enter c p).enter c q = x.enter c q := by
  have phases : ((x.enter c p).enter c q).phase = (x.enter c q).phase := by
    funext d
    by_cases own : d = c <;> simp [enter, own]
  exact congrArg (fun phase => { x with phase }) phases

theorem enter_idle (idle : x.phase c = .idle) : x.enter c .idle = x := by
  have phases : (x.enter c .idle).phase = x.phase := by
    funext d
    by_cases own : d = c <;> simp [enter, own, idle]
  exact congrArg (fun phase => { x with phase }) phases

/-- A lookup that has ended leaves the phases as they were before it began. -/
theorem answer_enter (idle : x.phase c = .idle) (p : Phase) (s : System) (lock : Option Caller) (topic : Topic)
    (result : Except Fault ThrottleId × System) : answer { x.enter c p with system := s, lock } c topic result =
      { x with system := result.2, lock, returned := (c, topic, result.1) :: x.returned } := by
  have phases : (x.enter c p).enter c .idle = x := (enter_enter ..).trans (enter_idle idle)
  exact congrArg (fun y : Config =>
    { y with system := result.2, lock, returned := (c, topic, result.1) :: x.returned }) phases

end Config

/-- Whoever has the lock is about to overflow the catalogue. -/
def Held (x : Config) : Prop := ∀ c, x.lock = some c → ∃ topic, x.phase c = .inside topic

namespace Held

/-- A caller without the lock moves and leaves the lock where it is. -/
private theorem elsewhere (h : Held x) (outside : ∀ topic, x.phase c ≠ .inside topic) (p : Phase) (d : Caller)
    (has : x.lock = some d) : ∃ topic, (x.enter c p).phase d = .inside topic := by
  obtain ⟨topic, inside⟩ := h d has
  exact ⟨topic, stays_of_ne inside (outside topic)⟩

theorem step (h : Held x) (s : Step l x y) : Held y := by
  cases s with
  | find c topic idle | room c topic idle | crowd c topic idle | introduce c idle =>
    exact h.elsewhere (fun _ inside => by rw [idle] at inside; cases inside) _
  | @acquire c topic waiting free =>
    intro d has
    obtain rfl : c = d := Option.some.inj has
    exact ⟨topic, if_pos rfl⟩
  | recovered | refused | emptied =>
    intro d has
    cases has
  | other a elsewhere ready => exact h

end Held

theorem Reachable.held (h : Reachable l x) : Held x := by
  induction h with
  | start =>
    intro c has
    cases has
  | step _ s ih => exact ih.step s

/-- Where nobody overflows, the lock is free. -/
theorem Reachable.lock_free (h : Reachable l x) (settled : x.Settled) : x.lock = none := by
  cases taken : x.lock with
  | none => rfl
  | some c =>
    obtain ⟨topic, inside⟩ := h.held c taken
    exact absurd inside (settled c topic)

/-- The lock is free, and whoever begins a lookup can go on to its end, with the answer that the lookup gives alone and
with the lock free again. -/
def Unhindered (l : LoggerId) (x : Config) : Prop :=
  x.lock = none ∧ ∀ c topic, x.phase c = .idle → Relation.ReflTransGen (Step l) x { x with
    system := ((System.lookup l topic).exec x.system).2
    returned := (c, topic, ((System.lookup l topic).exec x.system).1) :: x.returned }

theorem Reachable.unhindered (h : Reachable l x) (settled : x.Settled) : Unhindered l x := by
  have free := h.lock_free settled
  refine ⟨free, fun c topic idle => ?_⟩
  have introduced (s : System) : Step l { x.enter c (.entering topic) with system := s }
      { x with
        system := ((System.introduce l topic).exec s).2
        returned := (c, topic, ((System.introduce l topic).exec s).1) :: x.returned } := by
    rw [← Config.answer_enter idle (.entering topic) s x.lock]
    exact .introduce c (if_pos rfl)
  cases found : (x.system.logger l).catalogue.find? topic with
  | some t =>
    rw [System.lookup_of_some found]
    have step := Step.find c topic idle found
    rw [Config.answer, Config.enter_idle idle] at step
    exact .single step
  | none =>
    rw [System.lookup_of_none found]
    split
    · next full =>
      have inside : Relation.ReflTransGen (Step l) x { x.enter c (.inside topic) with lock := some c } := by
        have acquired : Step l (x.enter c (.waiting topic)) _ := .acquire c (if_pos rfl) free
        rw [Config.enter_enter] at acquired
        exact .tail (.single (.crowd c topic idle found full)) acquired
      rw [Call.exec_bind]
      rcases overflowed : (System.overflow l).exec x.system with ⟨f | _, s⟩
      · have refused : Step l { x.enter c (.inside topic) with lock := some c } _ :=
          .refused c (if_pos rfl) full overflowed
        rw [← free] at refused
        have ended := Config.answer_enter idle (.inside topic) x.system (some c) topic (.error f, s)
        exact inside.tail (congrArg (fun y : Config => { y with lock := x.lock }) ended ▸ refused)
      · have emptied : Step l { x.enter c (.inside topic) with lock := some c } _ :=
          .emptied c (if_pos rfl) full overflowed
        rw [← free] at emptied
        have room := Config.enter_enter x c (.inside topic) (.entering topic)
        have cleared := inside.tail (congrArg (fun y : Config => { y with system := s, lock := x.lock }) room ▸ emptied)
        exact cleared.tail (introduced s)
    · next room =>
      exact .tail (.single (.room c topic idle found (Nat.not_lt.mp room))) (introduced x.system)

end LogThrottle.Interleaving.Overflow
