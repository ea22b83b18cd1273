import LogThrottle.Proofs.Enrolment.Logging
import LogThrottle.Proofs.System.Masking
import LogThrottle.Proofs.System.Ticking

/-! Actions that bring no faults: while nothing else is done, nothing outside fails. A run in which nothing failed is
a run of such actions, once the faults that never fired are taken away. -/
namespace LogThrottle

/-- An action that brings no part that fails, moves no stopwatch too far and shows no argument that
fails. -/
def Action.Calm (s : System) : Action → Prop
  | .addSink _ fault => ∀ n line, fault n line = none
  | .addStopwatch _ fault => ∀ n, fault n = none
  | .addCounter fault => ∀ n name, fault n name = none
  | .move w m => ((s.stopwatch w).move m).1 = .ok ()
  | .log _ _ _ args | .logThrough _ _ args | .emit _ args => Painless args
  | _ => True

theorem Action.Calm.arguments {s : System} {a : Action} {t : ThrottleId} (quiet : a.Calm s)
    (reached : a.throttle? s = some t) : Painless a.arguments := by
  cases a with
  | log | logThrough | emit => exact quiet
  | _ => cases reached

namespace System
open Call
variable {P Q : System → Action → Prop} {s : System} {a : Action}

theorem calm_addSink (calm : Calm s) {style : Sink.Style} {fault : Nat → Line → Option Fault}
    (quiet : (Action.addSink style fault).Calm s) : Calm (s.after (.addSink style fault)) := by
  refine ⟨fun k => ?_, calm.stopwatch, calm.counter⟩
  rw [sink_addSink]
  split
  · exact quiet
  · exact calm.sink k

theorem calm_addStopwatch (calm : Calm s) {reading : Duration} {fault : Nat → Option Fault}
    (quiet : (Action.addStopwatch reading fault).Calm s) :
    Calm (s.after (.addStopwatch reading fault)) := by
  refine ⟨calm.sink, fun w => ?_, calm.counter⟩
  rw [stopwatch_addStopwatch]
  split
  · exact ⟨rfl, quiet⟩
  · exact calm.stopwatch w

theorem calm_addCounter (calm : Calm s) {fault : Nat → String → Option Fault}
    (quiet : (Action.addCounter fault).Calm s) : Calm (s.after (.addCounter fault)) := by
  refine ⟨calm.sink, calm.stopwatch, fun c => ?_⟩
  rw [counter_addCounter]
  split
  · exact quiet
  · exact calm.counter c

theorem calm_move (calm : Calm s) {w : StopwatchId} {m : Stopwatch.Move}
    (quiet : (Action.move w m).Calm s) :
    Calm { s with stopwatches := s.stopwatches.setIfInBounds w ((s.stopwatch w).move m).2 } := by
  obtain ⟨fine, sound⟩ := calm.stopwatch w
  have moved : ((s.stopwatch w).move m).2.broken = false ∧
      ((s.stopwatch w).move m).2.fault = (s.stopwatch w).fault := by
    revert quiet
    cases m with
    | set d =>
      intro _
      simp [Stopwatch.move, Stopwatch.set, fine]
    | advance d =>
      simp only [Action.Calm, Stopwatch.move, Stopwatch.advance]
      rw [if_neg (by simp [fine])]
      cases (s.stopwatch w).reading.add? d with
      | none => simp
      | some r => simp [fine]
  refine ⟨calm.sink, fun i => ?_, calm.counter⟩
  rw [stopwatch, getD_setIfInBounds]
  split
  · exact ⟨moved.1, moved.2 ▸ sound⟩
  · exact calm.stopwatch i

/-- Where nothing failed, what never fired is not missed. -/
theorem masked_after (clean : a.Clean s) :
    (s.masked .faultless).after (a.masked .faultless) = (s.after a).masked .faultless := by
  have behind : Behind .faultless #[] #[] s (s.masked .faultless) :=
    ⟨s.journal, Array.empty_append.symm, by rw [Array.empty_append]; rfl⟩
  obtain ⟨es, began, same⟩ := behind.after fun _ => clean
  rw [same, ← began]
  rfl

theorem masked_run {as : List Action} (clean : s.Along (fun s a => a.Clean s) as) :
    (s.masked .faultless).run (as.map (Action.masked .faultless)) = (s.run as).masked .faultless := by
  induction as generalizing s with
  | nil => rfl
  | cons a as ih =>
    have first := masked_after clean.1
    have rest := ih clean.2
    rw [← first] at rest
    exact rest

/-- What holds along a run where nothing fails, and does not hang on latent faults, holds without them. -/
theorem along_masked {as : List Action} (along : s.Along P as) (clean : ∀ s a, P s a → a.Clean s)
    (unmasked : ∀ s a, P s a → Q (s.masked .faultless) (a.masked .faultless)) :
    (s.masked .faultless).Along Q (as.map (Action.masked .faultless)) := by
  induction as generalizing s with
  | nil => trivial
  | cons a as ih =>
    obtain ⟨held, rest⟩ := along
    refine ⟨unmasked s a held, ?_⟩
    rw [masked_after (clean s a held)]
    exact ih rest

theorem masked_empty {hides : Prop} (m : Mask hides) : System.masked m {} = {} := by simp [System.masked]

/-- The same for runs from the start: they end in the same system without its latent faults. -/
theorem faultless_run {as : List Action} (along : System.Along P {} as) (clean : ∀ s a, P s a → a.Clean s)
    (unmasked : ∀ s a, P s a → Q (s.masked .faultless) (a.masked .faultless)) :
    System.Along Q {} (as.map (Action.masked .faultless)) ∧
      System.run {} (as.map (Action.masked .faultless)) = (System.run {} as).masked .faultless := by
  have kept := along_masked along clean unmasked
  have same := masked_run (along.mono clean)
  rw [masked_empty] at kept same
  exact ⟨kept, same⟩

theorem ready_masked {hides : Prop} {m : Mask hides} (ready : a.Ready s) : (a.masked m).Ready (s.masked m) := by
  cases a with
  | build p =>
    obtain ⟨alive, sink, stopwatch, counter⟩ := ready
    exact ⟨alive, Array.size_map.symm ▸ sink, Array.size_map.symm ▸ stopwatch,
      fun c own => Array.size_map.symm ▸ counter c own⟩
  | move w move =>
    have there : w < (s.stopwatches.map m.stopwatch).size := by
      rw [Array.size_map]
      exact ready
    exact there
  | _ => exact ready

theorem domestic_masked {hides : Prop} {m : Mask hides} (domestic : a.Domestic s) :
    (a.masked m).Domestic (s.masked m) := by
  cases a <;> exact domestic

theorem standing_masked {hides : Prop} {m : Mask hides} (standing : ∀ l, a ≠ .resetTally l) (l : LoggerId) :
    a.masked m ≠ .resetTally l := by
  cases a with
  | resetTally => exact standing l
  | _ => nofun

private theorem painless_masked (args : List Argument) : Painless (args.map Mask.faultless.shows) := by
  intro f member
  obtain ⟨x, _, same⟩ := List.mem_map.mp member
  cases x <;> cases same

theorem calm_masked (clean : a.Clean s) : (a.masked .faultless).Calm (s.masked .faultless) := by
  cases a with
  | addSink | addStopwatch | addCounter => exact fun _ => by intros; rfl
  | log | logThrough | emit => exact painless_masked _
  | move w move =>
    have answered : ((moveClock w move).exec s).1.isOk = true := clean.1
    have moved : (((s.masked .faultless).stopwatch w).move move).1 = .ok () := by
      simp only [moveClock, exec_bind, exec_get, exec_modify, exec_ofExcept] at answered
      rw [stopwatch_masked, Mask.move_eq]
      cases outcome : ((s.stopwatch w).move move).1 with
      | error f =>
        rw [outcome] at answered
        cases answered
      | ok => rfl
    exact moved
  | _ => trivial

end System
end LogThrottle
