import LogThrottle.Proofs.Enrolment.Logging
import LogThrottle.Proofs.System.Clearing

/-! Membership where callers enrol throttles anywhere. A throttle bears one stamp, and epochs of
different rosters are numbers that may coincide: a throttle that another roster stamped with the epoch
that its own has reached stays out of its own roster. -/
namespace LogThrottle.System
open Call

private theorem mem_members_home_iff {abroad : ThrottleId → UInt64 → Prop} {s : System}
    (h : Aligned abroad s) (t : ThrottleId) : t ∈ (s.roster (s.home t)).members ↔ s.Enrolled t := by
  rw [Roster.mem_members]
  refine ⟨?_, fun e => ⟨s.period t, e⟩⟩
  rintro ⟨p, hp⟩
  obtain ⟨_, rfl, _⟩ := h.member _ p t hp
  exact hp

private theorem limiter_cleared {s : System} {t : ThrottleId} (made : t < s.throttles.size)
    (enrolled : s.Enrolled t) :
    ((s.after (.flush (s.home t))).throttle t).limiter = .cleared ∧
    ∀ slot, (s.roster (s.home t)).slots.find? (s.period t) = some slot → slot.scheduled = true →
      ((s.after (.fire (s.home t) (s.period t))).throttle t).limiter = .cleared := by
  refine ⟨?_, fun slot found scheduled => ?_⟩
  · rw [limiter_flush, if_pos ⟨Roster.mem_members.mpr ⟨s.period t, enrolled⟩, made⟩]
  · obtain ⟨slot', found', member⟩ := Roster.mem_membersAt.mp enrolled
    obtain rfl : slot' = slot := Option.some.inj (found'.symm.trans found)
    have due : t ∈ (s.roster (s.home t)).due (s.period t) := by
      rw [Roster.due, found]
      simpa only [scheduled, if_true] using member
    rw [limiter_fire, if_pos ⟨due, made⟩]

/-- After a logging call on a throttle whose roster is alive, the throttle is a member exactly if it
was not stranded, and then the roster's next flush or reset job ends its period. A stranded one was
enrolled with another roster at the epoch that its own has now, and no flush of its own resets it. -/
theorem enrolled_after_logging_iff {as : List Action} {a : Action} {t : ThrottleId}
    (feasible : System.Feasible {} (as ++ [a]))
    (reached : a.throttle? (System.run {} as) = some t)
    (alive : (System.run {} (as ++ [a])).alive ((System.run {} (as ++ [a])).home t) = true) :
    let s := System.run {} as
    let s' := System.run {} (as ++ [a])
    (s'.Enrolled t ↔ ¬s.Stranded t) ∧
    (s'.Enrolled t → ((s'.after (.flush (s'.home t))).throttle t).limiter = .cleared ∧
      ∀ slot, (s'.roster (s'.home t)).slots.find? (s'.period t) = some slot → slot.scheduled = true →
        ((s'.after (.fire (s'.home t) (s'.period t))).throttle t).limiter = .cleared) ∧
    (s.Stranded t → s'.flushes < 2 ^ 64 →
      EnrolledAbroad as t (s.roster (s.home t)).epoch ∧
      ((s'.after (.flush (s'.home t))).throttle t).limiter = (s'.throttle t).limiter) := by
  intro s s'
  obtain ⟨earlier, ready⟩ := along_snoc.mp feasible
  have sound : Sound s := sound_run earlier
  have after : s' = s.after a := run_snoc ..
  have member : s'.Enrolled t ↔ ¬s.Stranded t := by
    change s'.alive (s'.home t) = true at alive
    rw [after] at alive ⊢
    exact enrolled_after sound ready reached alive
  have made : t < s'.throttles.size := after ▸ made_after sound ready reached
  refine ⟨member, limiter_cleared made, fun stranded few => ⟨?_, ?_⟩⟩
  · have few' := Nat.lt_of_le_of_lt (flushes_le_after sound ready) (after ▸ few)
    refine Classical.byContradiction fun home => stranded.2.2 ?_
    rw [← stranded.2.1] at home
    exact ((aligned_run earlier few').enrolled_of_stamp stranded.1 home).mp stranded.2.1
  · have out : ¬s'.Enrolled t := fun e => member.mp e stranded
    rw [limiter_flush, if_neg fun e => out ((mem_members_home_iff (aligned_run feasible few) t).mp e.1)]

/-- Two rosters flushed once each. The throttle is made in the first epoch of its own and enrolled with
the other one after that. -/
def coincidence : List Action :=
  [.addSink .filled fun _ _ => none, .addStopwatch .zero fun _ => none, .openRoster, .openRoster,
    .build ⟨0, 0, 0, none, 5, .ofMillis 3_600_000, 1000⟩, .lookup 0 ⟨"x", none⟩,
    .flush 0, .flush 1, .enrol 1 0]

theorem logging_on_equal_epochs_not_enrolled :
    let as := coincidence ++ [.logThrough 0 .info []]
    System.Feasible {} as ∧ (System.run {} as).alive ((System.run {} as).home 0) = true ∧
      ¬(System.run {} as).Enrolled 0 := by
  decide +kernel

theorem stranded_on_equal_epochs :
    let a : Action := .logThrough 0 .info []
    let s := System.run {} (coincidence ++ [a])
    System.Feasible {} (coincidence ++ [a]) ∧ a.throttle? (System.run {} coincidence) = some 0 ∧
      s.alive (s.home 0) = true ∧ (System.run {} coincidence).Stranded 0 ∧ s.flushes < 2 ^ 64 ∧
      EnrolledAbroad coincidence 0 1 ∧
      ((s.after (.flush 0)).throttle 0).limiter = { count := 1, mark := 0 } := by
  intro a s
  have feasible : System.Feasible {} (coincidence ++ [a]) := by decide +kernel
  have alive : s.alive (s.home 0) = true := by decide +kernel
  have stranded : (System.run {} coincidence).Stranded 0 := by decide +kernel
  have few : s.flushes < 2 ^ 64 := by decide +kernel
  obtain ⟨_, _, left⟩ := enrolled_after_logging_iff feasible (t := 0) rfl alive
  obtain ⟨abroad, kept⟩ := left stranded few
  have epoch : ((System.run {} coincidence).roster ((System.run {} coincidence).home 0)).epoch = 1 := by
    decide +kernel
  have limiter : (s.throttle 0).limiter = { count := 1, mark := 0 } := by decide +kernel
  exact ⟨feasible, rfl, alive, stranded, few, epoch ▸ abroad, limiter ▸ kept⟩

end LogThrottle.System
