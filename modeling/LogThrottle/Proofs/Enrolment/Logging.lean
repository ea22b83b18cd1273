import LogThrottle.Proofs.Enrolment.Alignment

/-! Membership after a logging call. The call joins its throttle before it does anything that can
fail, so the joining alone decides. -/
namespace LogThrottle

/-- The throttle that a logging call gets to. A call whose lookup fails gets to none. -/
def Action.throttle? (s : System) : Action → Option ThrottleId
  | .log l _ template _ => ((System.lookup l { template }).exec s).1.toOption
  | .logThrough t .. | .emit t _ => some t
  | _ => none

/-- The arguments that a logging call shows. -/
def Action.arguments : Action → List Argument
  | .log _ _ _ args | .logThrough _ _ args | .emit _ args => args
  | _ => []

namespace System
open Call

/-- A throttle that bears the epoch of its own roster without being a member. It does not join. -/
def Stranded (s : System) (t : ThrottleId) : Prop :=
  t < s.throttles.size ∧ (s.throttle t).stamp = (s.roster (s.home t)).epoch ∧ ¬s.Enrolled t

instance (s : System) (t : ThrottleId) : Decidable (s.Stranded t) := instDecidableAnd

/-- A throttle was enrolled with a roster that was not its own and had a given epoch. -/
def EnrolledAbroad (as : List Action) (t : ThrottleId) (e : UInt64) : Prop :=
  ∃ before r after, as = before ++ .enrol r t :: after ∧ r ≠ (System.run {} before).home t ∧
    ((System.run {} before).roster r).epoch = e

theorem EnrolledAbroad.snoc {as : List Action} {t : ThrottleId} {e : UInt64} (a : Action)
    (h : EnrolledAbroad as t e) : EnrolledAbroad (as ++ [a]) t e := by
  obtain ⟨before, r, after, rfl, abroad, epoch⟩ := h
  exact ⟨before, r, after ++ [a], by rw [List.append_assoc]; rfl, abroad, epoch⟩

theorem not_enrolledAbroad {as : List Action} (h : System.Along (fun s a => a.Domestic s) {} as)
    (t : ThrottleId) (e : UInt64) : ¬EnrolledAbroad as t e := by
  rintro ⟨before, r, after, rfl, abroad, _⟩
  exact abroad (along_append.mp h).2.1

theorem flushes_le_after {s : System} {a : Action} (h : Sound s) (ready : a.Ready s) :
    s.flushes ≤ (s.after a).flushes := by
  by_cases domestic : a.Domestic s
  · exact (shifts_after h ready domestic).flushes_le
  · cases a with
    | enrol r t =>
      obtain ⟨s', same, he⟩ := after_enrol s r t
      rw [he]
      exact Nat.le_of_eq same.flushes.symm
    | _ => exact absurd trivial domestic

theorem flushes_le_run {s : System} {as : List Action} (h : Sound s) (feasible : s.Feasible as) :
    s.flushes ≤ (s.run as).flushes :=
  (feasible.keeps (I := fun s' => Sound s' ∧ s.flushes ≤ s'.flushes) ⟨h, Nat.le_refl _⟩
    fun _ _ kept ready => ⟨kept.1.after ready, Nat.le_trans kept.2 (flushes_le_after kept.1 ready)⟩).2

/-- On every run, stamps and membership agree up to what was enrolled abroad. -/
theorem aligned_run {as : List Action} (feasible : System.Feasible {} as)
    (few : (System.run {} as).flushes < 2 ^ 64) :
    Aligned (EnrolledAbroad as) (System.run {} as) := by
  induction as using List.reverseRecOn with
  | nil => exact .empty _
  | append_singleton as a ih =>
    obtain ⟨earlier, ready⟩ := along_snoc.mp feasible
    have sound := sound_run earlier
    rw [run_snoc] at few ⊢
    have aligned := ih earlier (Nat.lt_of_le_of_lt (flushes_le_after sound ready) few)
    have wider (t e) : EnrolledAbroad as t e → EnrolledAbroad (as ++ [a]) t e := .snoc a
    by_cases domestic : a.Domestic (System.run {} as)
    · exact (aligned.wider wider).shifts sound (shifts_after sound ready domestic) few
    · cases a with
      | enrol r t =>
        exact aligned.after_enrol sound ready wider (.inr ⟨as, r, [], rfl, domestic, rfl⟩)
      | _ => exact absurd trivial domestic

section Joining
variable {s s' : System} {t : ThrottleId}

/-- Joining fails to make a member of stranded throttles only. -/
theorem Joined.enrolled_iff (joined : Joined t s s') (h : Sound s) (made : t < s.throttles.size)
    (alive : s.alive (s.home t) = true) : s'.Enrolled t ↔ ¬s.Stranded t := by
  cases joined with
  | idle current =>
    have same : (s.throttle t).stamp = (s.roster (s.home t)).epoch :=
      Classical.byContradiction fun stale => absurd alive (Bool.eq_false_iff.mp (current stale))
    exact ⟨fun e stranded => stranded.2.2 e, fun e => Classical.byContradiction fun out =>
      e ⟨made, same, out⟩⟩
  | enrolled stale _ wrote =>
    refine ⟨fun _ stranded => stale stranded.2.1, fun _ => ?_⟩
    rw [Enrolled, home_enrolled, period_enrolled, wrote.steady_announced.home_eq, mem_membersAt_enrolled]
    exact .inr ⟨⟨rfl, by rw [wrote.rosters]; exact h.home_lt made⟩, rfl, rfl⟩

/-- Joining leaves all as it is exactly if there is nothing to do. -/
theorem join_eq_self_iff (made : t < s.throttles.size) (alive : s.alive (s.home t) = true)
    (agree : (s.throttle t).stamp = (s.roster (s.home t)).epoch ↔ s.Enrolled t) :
    (join t).exec s = (.ok (), s) ↔ s.Enrolled t := by
  obtain ⟨s', he, joined⟩ := join_outcome t s
  rw [he, ← agree]
  cases joined with
  | idle current =>
    refine ⟨fun _ => Classical.byContradiction fun stale => ?_, fun _ => rfl⟩
    exact absurd alive (Bool.eq_false_iff.mp (current stale))
  | @enrolled s' stale _ wrote =>
    refine ⟨fun unmoved => ?_, fun e => absurd e stale⟩
    have moved : enrolled (s.home t) t s' = s := congrArg Prod.snd unmoved
    have stamped : ((enrolled (s.home t) t s').throttle t).stamp = (s.roster (s.home t)).epoch := by
      rw [throttle_enrolled, if_pos ⟨rfl, by rwa [wrote.throttles]⟩, roster, wrote.rosters, roster]
    rwa [moved] at stamped

end Joining

/-- A logging call finds its throttle or makes one, and logs through it after that. -/
theorem logging_outcome {s : System} {a : Action} {t : ThrottleId} (h : Sound s) (ready : a.Ready s)
    (reached : a.throttle? s = some t) :
    ∃ s₁ severity, s.after a = ((logThrough t severity a.arguments).exec s₁).2 ∧
      t < s₁.throttles.size ∧ (s₁ = s ∨ t = s.throttles.size ∧ Shifts s s₁ ∧ s₁.Enrolled t ∧
        ∃ l topic, s₁ = ((lookup l topic).exec s).2) := by
  cases a with
  | log l severity template args =>
    rw [after, Action.perform, log, exec_bind]
    rw [Action.throttle?] at reached
    rcases lookup_outcome h ready { template } with
      ⟨f, s', he, _⟩ | ⟨u, he, made⟩ | ⟨s', he, path, made, enrolled⟩
    · rw [he] at reached
      cases reached
    · rw [he] at reached ⊢
      obtain rfl := Option.some.inj reached
      exact ⟨s, severity, rfl, made, .inl rfl⟩
    · rw [he] at reached ⊢
      obtain rfl := Option.some.inj reached
      exact ⟨s', severity, rfl, made, .inr ⟨rfl, path, enrolled, l, { template }, by rw [he]⟩⟩
  | logThrough u severity args =>
    obtain rfl := Option.some.inj reached
    exact ⟨s, severity, rfl, ready, .inl rfl⟩
  | emit u args =>
    obtain rfl := Option.some.inj reached
    exact ⟨s, (s.throttle u).topic.voice, after_emit s u args, ready, .inl rfl⟩
  | _ => cases reached

/-- A logging call joins its throttle where the lookup left off, and leaves membership alone after
that. -/
theorem after_logging {s : System} {a : Action} {t : ThrottleId} (h : Sound s) (ready : a.Ready s)
    (reached : a.throttle? s = some t) :
    ∃ s₁ s₂, Shifts s s₁ ∧ t < s₁.throttles.size ∧ Joined t s₁ s₂ ∧ Steady s₂ (s.after a) ∧
      (s₁ = s ∨ s.throttles.size ≤ t ∧ s₁.Enrolled t) := by
  obtain ⟨s₁, severity, after, made, found⟩ := logging_outcome h ready reached
  obtain ⟨s₂, he, joined⟩ := join_outcome t s₁
  have same : Steady s₂ (s.after a) := by
    rw [after]
    exact steady_logThrough severity _ he
  rcases found with rfl | ⟨fresh, path, enrolled, _⟩
  · exact ⟨s₁, s₂, .refl, made, joined, same, .inl rfl⟩
  · exact ⟨s₁, s₂, path, made, joined, same, .inr ⟨Nat.le_of_eq fresh.symm, enrolled⟩⟩

theorem made_after {s : System} {a : Action} {t : ThrottleId} (h : Sound s) (ready : a.Ready s)
    (reached : a.throttle? s = some t) : t < (s.after a).throttles.size := by
  obtain ⟨s₁, s₂, _, made, joined, same, _⟩ := after_logging h ready reached
  rw [same.throttles, joined.throttles]
  exact made

/-- After a logging call its throttle is a member, unless it was stranded before. -/
theorem enrolled_after {s : System} {a : Action} {t : ThrottleId} (h : Sound s) (ready : a.Ready s)
    (reached : a.throttle? s = some t)
    (alive : (s.after a).alive ((s.after a).home t) = true) :
    (s.after a).Enrolled t ↔ ¬s.Stranded t := by
  obtain ⟨s₁, s₂, path, made, joined, same, found⟩ := after_logging h ready reached
  have sound := h.shifts path
  rw [same.home_eq, same.alive_eq, joined.home_eq, System.alive, joined.holders] at alive
  rw [same.enrolled_iff, joined.enrolled_iff sound made alive]
  rcases found with rfl | ⟨fresh, enrolled⟩
  · exact Iff.rfl
  · exact ⟨fun _ stranded => absurd stranded.1 (Nat.not_lt.mpr fresh), fun _ stranded =>
      stranded.2.2 enrolled⟩

end System
end LogThrottle
