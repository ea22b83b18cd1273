import LogThrottle.Proofs.Enrolment.Logging
import LogThrottle.Proofs.Enrolment.Sparing

/-! Throttles with events are members. Where events come from logging calls alone and throttles are
enrolled with their own rosters only, whoever is outside a living roster has nothing to report. -/
namespace LogThrottle

/-- Events are counted by logging calls alone, and throttles enrolled with their own rosters only. -/
def Action.Regular (s : System) (a : Action) : Prop := a.Domestic s ∧ ∀ t, a ≠ .attempt t

namespace System
open Call

section Sparing
variable {T : ThrottleId → Prop}

private theorem spares_openRoster (s : System) : Spares T s (s.after .openRoster) := by
  refine (Alike.openRoster s).spares (Array.size_push _ ▸ Nat.le_succ _) (fun r hr alive => ?_)
    fun _ _ _ => rfl
  obtain ⟨x, hx, rfl⟩ := alive_iff.mp alive
  rcases List.mem_cons.mp hx with rfl | hx
  · exact absurd hr (Nat.lt_irrefl _)
  · exact alive_iff.mpr ⟨x, hx, rfl⟩

private theorem spares_build {s : System} (h : Sound s) {p : Plan} (alive : s.alive p.roster = true) :
    Spares T s (s.after (.build p)) := by
  rw [after_build]
  cases hp : p.logger with
  | error e => exact .refl _ s
  | ok x =>
    obtain ⟨hr, _⟩ := fresh_of_plan hp
    have held : Spares T s { s with holders := ⟨.logger s.loggers.size, x.roster⟩ :: s.holders } :=
      .hold (hr ▸ alive)
    have built : Spares T s { s with
        loggers := s.loggers.push x
        holders := ⟨.logger s.loggers.size, x.roster⟩ :: s.holders } :=
      (Alike.build h x).spares (Nat.le_refl _) held.alive fun _ _ _ => rfl
    rw [hr] at built
    exact built

/-- The throttles that a job clears have no events left, and the others keep theirs. -/
private theorem spares_fire (r : RosterId) (period : Duration) (s : System) :
    Spares T s (s.after (.fire r period)) := by
  have same : Steady s (s.after (.fire r period)) := steady_resetAll _ s
  refine same.alike.spares (Nat.le_of_eq (congrArg Array.size same.rosters.symm)) ?_ fun t _ left => ?_
  · intro i _ alive
    rwa [same.alive_eq] at alive
  · rw [limiter_fire] at left ⊢
    split
    · rename_i due
      rw [if_pos due] at left
      exact absurd rfl left
    · rfl

end Sparing

/-- What an action other than a bare attempt spares: every throttle but the one it logs through. -/
theorem spares_after {s : System} {a : Action} (h : Sound s) (ready : a.Ready s)
    (counted : ∀ t, a ≠ .attempt t) : Spares (fun t => a.throttle? s = some t) s (s.after a) := by
  cases a with
  | addSink | addStopwatch | addCounter => exact .steady { Steady.refl s with } rfl
  | openRoster => exact spares_openRoster s
  | build p => exact spares_build h ready.1
  | move w m =>
    rw [after_move]
    exact .steady { Steady.refl s with } rfl
  | lookup l topic => exact lasting_spares.lookup l topic s
  | log l severity template args =>
    have found := (lasting_spares (T := fun t =>
      (Action.log l severity template args).throttle? s = some t)).lookup l { template } s
    have reached : (Action.log l severity template args).throttle? s =
        ((lookup l { template }).exec s).1.toOption := rfl
    rw [after, Action.perform, log, exec_bind]
    revert found reached
    rcases (lookup l { template }).exec s with ⟨f | t, s'⟩
    · exact fun found _ => found
    · exact fun found reached => found.trans (spares_logThrough reached severity args s')
  | logThrough t severity args =>
    exact spares_logThrough (T := fun u => some t = some u) rfl severity args s
  | emit t args =>
    rw [after_emit]
    exact spares_logThrough (T := fun u => some t = some u) rfl _ args s
  | attempt t => exact absurd rfl (counted t)
  | enrol r t => exact spares_enrol r t s
  | flush r => exact spares_flush r s
  | shutdown r => exact lasting_spares.shutdown r s
  | fire r period => exact spares_fire r period s
  | guard r => exact .hold ready
  | share l => exact .hold (h.held ready).2
  | release x => exact lasting_spares.release x s
  | resetTally l => exact .steady (steady_changeTally s l fun _ => {}) rfl

/-- Throttles that are not members of their living rosters have no events. -/
def Idle (s : System) : Prop :=
  ∀ t < s.throttles.size, s.alive (s.home t) = true → (s.throttle t).limiter ≠ .cleared → s.Enrolled t

theorem Idle.spares {T : ThrottleId → Prop} {s s' : System} (h : Idle s) (sound : Sound s)
    (spared : Spares T s s')
    (touched : ∀ t < s'.throttles.size, T t → s'.alive (s'.home t) = true → s'.Enrolled t) :
    Idle s' := by
  intro t ht alive left
  by_cases out : T t
  · exact touched t ht out alive
  · have kept := spared.limiter t out left
    have old : t < s.throttles.size := Classical.byContradiction fun new => by
      rw [kept, throttle_of_size_le (Nat.not_lt.mp new)] at left
      exact left rfl
    rw [spared.home t old] at alive
    have before := spared.alive _ (sound.home_lt old) alive
    exact spared.enrolled t old out left (h t old before (kept ▸ left))

theorem idle_after {s : System} {a : Action} (h : Idle s) (sound : Sound s)
    (aligned : Aligned (fun _ _ => False) s) (ready : a.Ready s) (regular : a.Regular s) :
    Idle (s.after a) := by
  refine h.spares sound (spares_after sound ready regular.2) fun t _ reached alive => ?_
  rw [enrolled_after sound ready reached alive]
  rintro ⟨made, same, out⟩
  exact out ((aligned.enrolled_of_stamp made id).mp same)

theorem aligned_of_regular {as : List Action}
    (regular : System.Along (fun s a => a.Ready s ∧ a.Regular s) {} as)
    (few : (System.run {} as).flushes < 2 ^ 64) :
    Aligned (fun _ _ => False) (System.run {} as) :=
  (aligned_run (regular.mono fun _ _ h => h.1) few).wider
    (not_enrolledAbroad (regular.mono fun _ _ h => h.2.1))

/-- On every regular run, throttles with events are members as long as their rosters live, whatever
failed. -/
theorem idle_run {as : List Action}
    (regular : System.Along (fun s a => a.Ready s ∧ a.Regular s) {} as)
    (few : (System.run {} as).flushes < 2 ^ 64) : Idle (System.run {} as) := by
  induction as using List.reverseRecOn with
  | nil => exact fun t ht => absurd ht (Nat.not_lt_zero t)
  | append_singleton as a ih =>
    obtain ⟨earlier, ready, last⟩ := along_snoc.mp regular
    have sound := sound_run (earlier.mono fun _ _ h => h.1)
    rw [run_snoc] at few ⊢
    have few' := Nat.lt_of_le_of_lt (flushes_le_after sound ready) few
    exact idle_after (ih earlier few') sound (aligned_of_regular earlier few') ready last

end System
end LogThrottle
