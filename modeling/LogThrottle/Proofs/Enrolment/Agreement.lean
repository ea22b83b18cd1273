import LogThrottle.Proofs.Enrolment.Logging

/-! Membership where throttles are enrolled with their own rosters only: the stamp tells exactly who
is a member, and a logging call always makes one. -/
namespace LogThrottle.System
open Call

/-- As long as the epochs do not run out, a throttle bears the epoch of its roster exactly while it is
a member of the slot for its period, it is in no other slot, and joining does nothing exactly if
nothing is to be done. A logging call that got to a throttle leaves it a member, however it ended. -/
theorem stamp_eq_epoch_iff_enrolled {as : List Action}
    (ready : System.Along (fun s a => a.Ready s ∧ a.Domestic s) {} as)
    (few : (System.run {} as).flushes < 2 ^ 64 - 1) :
    let s := System.run {} as
    (∀ t < s.throttles.size, s.alive (s.home t) = true →
      ((s.throttle t).stamp = (s.roster (s.home t)).epoch ↔ s.Enrolled t) ∧
      (∀ r p, t ∈ (s.roster r).membersAt p → r = s.home t ∧ p = s.period t) ∧
      ((join t).exec s = (.ok (), s) ↔ s.Enrolled t)) ∧
    ∀ before a t, as = before ++ [a] → a.throttle? (System.run {} before) = some t →
      s.alive (s.home t) = true → s.Enrolled t := by
  intro s
  have feasible : System.Feasible {} as := ready.mono fun _ _ h => h.1
  have few' : s.flushes < 2 ^ 64 := Nat.lt_of_lt_of_le few (Nat.sub_le _ _)
  have domestic := ready.mono (Q := fun s a => a.Domestic s) fun _ _ h => h.2
  refine ⟨fun t made alive => ?_, ?_⟩
  · have aligned := aligned_run feasible few'
    have agree := aligned.enrolled_of_stamp made (not_enrolledAbroad domestic t _)
    refine ⟨agree, fun r p member => ?_, join_eq_self_iff made alive agree⟩
    obtain ⟨_, hp, hr⟩ := aligned.member r p t member
    refine ⟨hr.resolve_right ?_, hp⟩
    rintro ⟨e, he⟩
    exact not_enrolledAbroad domestic t e he
  · rintro before a t rfl reached alive
    obtain ⟨earlier, ready⟩ := along_snoc.mp feasible
    have sound := sound_run earlier
    have after : s = (System.run {} before).after a := run_snoc ..
    have aligned := aligned_run earlier
      (Nat.lt_of_le_of_lt (flushes_le_after sound ready) (after ▸ few'))
    rw [after] at alive ⊢
    rw [enrolled_after sound ready reached alive]
    -- a stranded throttle would have been enrolled abroad
    rintro ⟨made, same, out⟩
    have home := not_enrolledAbroad (along_append.mp domestic).1 t
    exact out ((aligned.enrolled_of_stamp made (home _)).mp same)

/-- The sink fails on the second event, after a flush. -/
theorem enrolled_after_faulty_sink :
    let fault : Nat → Line → Option Fault := fun n _ => if n = 1 then some .wordless else none
    let as : List Action := [.addSink .filled fault, .addStopwatch .zero fun _ => none, .openRoster,
      .build ⟨0, 0, 0, none, 5, ⟨7, by decide⟩, 3⟩, .log 0 .info "x" [], .flush 0]
    let a : Action := .logThrough 0 .info []
    System.Along (fun s a => a.Ready s ∧ a.Domestic s) {} (as ++ [a]) ∧
      (System.run {} (as ++ [a])).flushes < 2 ^ 64 - 1 ∧ a.throttle? (System.run {} as) = some 0 ∧
      (a.perform.exec (System.run {} as)).1.toOption = none ∧
      (System.run {} (as ++ [a])).Enrolled 0 := by
  intro fault as a
  have ready : System.Along (fun s a => a.Ready s ∧ a.Domestic s) {} (as ++ [a]) := by decide +kernel
  have few : (System.run {} (as ++ [a])).flushes < 2 ^ 64 - 1 := by decide +kernel
  exact ⟨ready, few, rfl, by decide +kernel,
    (stamp_eq_epoch_iff_enrolled ready few).2 as a 0 rfl rfl (by decide +kernel)⟩

end LogThrottle.System
