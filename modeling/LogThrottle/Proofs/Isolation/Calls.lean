import LogThrottle.Proofs.Isolation.Matching

/-! What callers do to two systems that are the same for one key. Calls on the key, and all that happens to
rosters, keep them so when they are made in both; calls on other keys keep them so when they are made in one. -/
namespace LogThrottle.System
open Call

namespace SameFor
variable {p : Key} {s s' s'' s₁ s₁' : System} {t t' u : ThrottleId}

theorem refl (p : Key) (s : System) : SameFor p s s := by
  refine ⟨.refl s, ?_⟩
  cases s.listed? p with
  | none => exact .none
  | some t => exact .some (.refl s t)

theorem trans (h : SameFor p s s') (h' : SameFor p s' s'') : SameFor p s s'' := by
  refine ⟨h.toLevel.trans h'.toLevel, ?_⟩
  have first := h.throttle
  have second := h'.throttle
  revert first second
  rcases s.listed? p <;> rcases s'.listed? p <;> rcases s''.listed? p <;> rintro (m | _) (m' | _)
  · exact .none
  · exact .some (m.trans m')

theorem symm (h : SameFor p s s') : SameFor p s' s := by
  refine ⟨h.toLevel.symm, ?_⟩
  have same := h.throttle
  revert same
  rcases s.listed? p <;> rcases s'.listed? p <;> rintro (m | _)
  · exact .none
  · exact .some m.symm

theorem listed_iff (h : SameFor p s s') : s'.listed? p = none ↔ s.listed? p = none := by
  have same := h.throttle
  revert same
  rcases s.listed? p <;> rcases s'.listed? p <;> rintro (m | _)
  · exact Iff.rfl
  · simp

theorem matched (h : SameFor p s s') (found : s.listed? p = some t) (found' : s'.listed? p = some t') :
    Matches s s' t t' := by
  have same := h.throttle
  rw [found, found'] at same
  cases same with
  | some m => exact m

/-- Something happens in both systems. -/
theorem both (h : SameFor p s s') (level : Level s₁ s₁') (listed : s₁.listed? p = s.listed? p)
    (listed' : s₁'.listed? p = s'.listed? p)
    (each : ∀ t t', s.listed? p = some t → s'.listed? p = some t' → Matches s s' t t' → Matches s₁ s₁' t t') :
    SameFor p s₁ s₁' := by
  refine ⟨level, ?_⟩
  have same := h.throttle
  rw [listed, listed']
  revert same
  cases found : s.listed? p <;> cases found' : s'.listed? p <;> rintro (m | _)
  · exact .none
  · exact .some (each _ _ found found' m)

/-- Something happens to other throttles. -/
theorem apart (level : Level s s₁) (listed : s₁.listed? p = s.listed? p)
    (each : ∀ t, s.listed? p = some t → Matches s s₁ t t) : SameFor p s s₁ := by
  refine ⟨level, ?_⟩
  rw [listed]
  cases found : s.listed? p with
  | none => exact .none
  | some t => exact .some (each t found)

end SameFor

namespace SameFor
variable {p : Key} {s s' s₁ s₁' : System} {t t' u : ThrottleId}

section Rosters
variable (h : SameFor p s s') (fit : Fit s) (fit' : Fit s')
include h fit fit'

/-- A pass in each system, over the same members as far as the key is concerned. -/
theorem resetAll {ts ts' : List ThrottleId} (distinct : ts.Nodup) (distinct' : ts'.Nodup)
    (same : ∀ t t', s.listed? p = some t → s'.listed? p = some t' → (t' ∈ ts' ↔ t ∈ ts)) :
    SameFor p ((resetAll ts).exec s).2 ((System.resetAll ts').exec s').2 := by
  refine h.both (h.toLevel.keeps (level_resetAll ts) (level_resetAll ts')) ((steady_resetAll ts s).listed_eq p)
    ((steady_resetAll ts' s').listed_eq p) fun t t' found found' m => ?_
  exact m.resetAll h.toLevel fit.calm fit'.calm (fit.sound.key_of_listed found).1
    (fit'.sound.key_of_listed found').1 distinct distinct' (same t t' found found')

theorem flush (r : RosterId) : SameFor p ((flush r).exec s).2 ((System.flush r).exec s').2 := by
  have fits {s : System} (fit : Fit s) : Fit (drained r s) :=
    fit.shifts (.single (.drain s r)) (beside_drained s r).toEquipped
  have drained : SameFor p (drained r s) (System.drained r s') :=
    h.both (h.toLevel.drained r) rfl rfl fun _ _ _ _ m => m.drained h.toLevel r
  rw [flush_exec, flush_exec]
  refine drained.resetAll (fits fit) (fits fit') (fit.filed.nodup_members r) (fit'.filed.nodup_members r)
    fun t t' found found' => ?_
  rw [Roster.mem_members, Roster.mem_members]
  exact exists_congr ((h.matched found found').member r)

theorem fire (punctual : ∀ r, (s.roster r).Punctual) (punctual' : ∀ r, (s'.roster r).Punctual) (r : RosterId)
    (period : Duration) : SameFor p (s.after (.fire r period)) (s'.after (.fire r period)) := by
  have distinct {s : System} (punctual : ∀ r, (s.roster r).Punctual) : ((s.roster r).due period).Nodup := by
    rw [(punctual r).due_eq]
    split
    · exact List.nodup_nil
    · exact (s.roster r).nodup_membersAt period
  refine h.resetAll fit fit' (distinct punctual) (distinct punctual') fun t t' found found' => ?_
  rw [(punctual r).due_eq, (punctual' r).due_eq, h.closed]
  split
  · exact ⟨fun none => absurd none List.not_mem_nil, fun none => absurd none List.not_mem_nil⟩
  · exact (h.matched found found').member r period

end Rosters

/-- Closing a roster in both systems. -/
theorem closing (p : Key) (r : RosterId) : ClosingBoth r fun s s' => SameFor p s s' ∧ Fit s ∧ Fit s' where
  holders h := h.1.holders
  closed h := h.1.closed r
  flush | ⟨h, fit, fit'⟩ => ⟨h.flush fit fit' r, closing_fit.flush r _ fit, closing_fit.flush r _ fit'⟩
  close | ⟨h, fit, fit'⟩ => ⟨h.both (h.toLevel.changeRoster r (fun _ _ _ => rfl) fun _ _ same => same) rfl rfl
      fun _ _ _ _ m => m.changeRoster h.toLevel r Roster.membersAt_close,
    closing_fit.close _ r fit, closing_fit.close _ r fit'⟩
  cancelJobs | ⟨h, fit, fit'⟩ => ⟨h.both (h.toLevel.changeRoster r (fun _ _ same => same) fun _ _ same => same)
      rfl rfl fun _ _ _ _ m => m.changeRoster h.toLevel r Roster.membersAt_cancelJobs,
    closing_fit.cancelJobs _ r fit, closing_fit.cancelJobs _ r fit'⟩
  letGo x h := by
    obtain ⟨h, fit, fit'⟩ := h
    exact ⟨h.both ⟨h.toBeside.letGo x, h.epoch⟩ rfl rfl fun _ _ _ _ m => ⟨m.throttle, m.member, m.lines⟩,
      closing_fit.letGo _ x fit, closing_fit.letGo _ x fit'⟩

section Calls
variable (h : SameFor p s s') (found : s.listed? p = some t) (found' : s'.listed? p = some t')
  (made : t < s.throttles.size) (made' : t' < s'.throttles.size)
include h found found' made made'

theorem enrol (r : RosterId) : SameFor p ((enrol r t).exec s).2 ((System.enrol r t').exec s').2 := by
  obtain ⟨s₁, he, wrote⟩ := enrol_exec r t s
  obtain ⟨s₁', he', wrote'⟩ := enrol_exec r t' s'
  rw [he, he']
  have level : Level s₁ s₁' := wrote.level.symm.trans (h.toLevel.trans wrote'.level)
  refine h.both ((level_enrolled s₁ r t).symm.trans (level.trans (level_enrolled s₁' r t'))) (wrote.listed_eq p)
    (wrote'.listed_eq p) fun u u' hu hu' m => ?_
  obtain rfl := Option.some.inj (found.symm.trans hu)
  obtain rfl := Option.some.inj (found'.symm.trans hu')
  have quiet := (about?_announcement r t' t' s').trans (about?_announcement r t t s).symm
  exact (m.written wrote wrote' quiet).enrolled level r (wrote.throttles ▸ made) (wrote'.throttles ▸ made')

theorem join : SameFor p ((join t).exec s).2 ((System.join t').exec s').2 := by
  have m := h.matched found found'
  rw [join_exec, join_exec, h.home_eq m.key, m.throttle, h.epoch, h.alive_eq]
  split
  · exact h.enrol found found' made made' _
  · exact h

theorem attempt (calm : Calm s) (calm' : Calm s') :
    SameFor p ((attempt t).exec s).2 ((System.attempt t').exec s').2 := by
  have level := h.toLevel.keeps (level_attempt t) (level_attempt t')
  obtain ⟨s₁, he, wrote⟩ := attempt_calm calm t
  obtain ⟨s₁', he', wrote'⟩ := attempt_calm calm' t'
  rw [he, he'] at level ⊢
  refine h.both level (wrote.listed_eq p) (wrote'.listed_eq p) fun u u' hu hu' m => ?_
  obtain rfl := Option.some.inj (found.symm.trans hu)
  obtain rfl := Option.some.inj (found'.symm.trans hu')
  exact (m.attempted h.toLevel made made').written wrote wrote' rfl

/-- The throttles that match decide alike, and deliver the same line if the event passes. -/
theorem logThrough (calm : Calm s) (calm' : Calm s') (severity : Severity) {args : List Argument}
    (shown : Painless args) :
    SameFor p ((logThrough t severity args).exec s).2 ((System.logThrough t' severity args).exec s').2 := by
  obtain ⟨s₁, s₂, message, he, joined, done, rendered, wrote⟩ := logThrough_calm calm t severity shown
  obtain ⟨s₁', s₂', message', he', joined', done', rendered', wrote'⟩ := logThrough_calm calm' t' severity shown
  have before := h.join found found' made made'
  rw [he, he'] at before
  have listed := joined.listed_eq p
  have listed' := joined'.listed_eq p
  have m := before.matched (listed.trans found) (listed'.trans found')
  have same : message' = message := by
    rw [before.sink_style, before.logger_sink, m.throttle, rendered] at rendered'
    exact (Except.ok.inj rendered').symm
  have lines : (s₁'.eventEntries t' ⟨severity, message'⟩).filterMap (Entry.about? t') =
      (s₁.eventEntries t ⟨severity, message⟩).filterMap (Entry.about? t) := by
    rw [about?_eventEntries, about?_eventEntries, before.verdict_eq m.key m.limiter, before.logger_sink, m.throttle,
      same]
    simp only [true_and]
  have level := (level_ticked s₁ t severity).symm.trans (before.toLevel.trans (level_ticked s₁' t' severity))
  rw [done, done']
  refine before.both (wrote.level.symm.trans (level.trans wrote'.level))
    ((wrote.listed_eq p).trans (listed?_ticked p s₁ t severity))
    ((wrote'.listed_eq p).trans (listed?_ticked p s₁' t' severity)) fun u u' hu hu' _ => ?_
  obtain rfl := Option.some.inj ((listed.trans found).symm.trans hu)
  obtain rfl := Option.some.inj ((listed'.trans found').symm.trans hu')
  exact (m.ticked before.toLevel severity (joined.throttles ▸ made) (joined'.throttles ▸ made')).written wrote
    wrote' lines

end Calls

/-- Both lookups find throttles that match, or both make one. -/
theorem lookup (h : SameFor p s s') (grown : Grown s) (grown' : Grown s') (made : p.1 < s.loggers.size)
    (sought : Sought p s t s₁) (sought' : Sought p s' t' s₁') : SameFor p s₁ s₁' := by
  have made' : p.1 < s'.loggers.size := Nat.lt_of_lt_of_eq made h.loggers.symm
  cases sought with
  | found found =>
    cases sought' with
    | found => exact h
    | fresh absent => exact absurd (h.listed_iff.mp absent) (by rw [found]; exact Option.some_ne_none t)
  | @fresh s₂ absent new wrote =>
    cases sought' with
    | found found => exact absurd (h.listed_iff.mpr absent) (by rw [found]; exact Option.some_ne_none t')
    | @fresh s₂' absent' new' wrote' =>
      subst new new'
      have register {s : System} : Level s (registered p.1 p.2 s) := .of_rosters (beside_registered s p.1 p.2) rfl
      have level : Level s₂ s₂' :=
        wrote.level.symm.trans (register.symm.trans (h.toLevel.trans (register.trans wrote'.level)))
      have quiet := (about?_announcement (s'.logger p.1).roster s'.throttles.size s'.throttles.size
        (registered p.1 p.2 s')).trans (about?_announcement (s.logger p.1).roster s.throttles.size
          s.throttles.size (registered p.1 p.2 s)).symm
      have m : Matches s₂ s₂' s.throttles.size s'.throttles.size :=
        (Matches.registered grown grown' p).written wrote wrote' quiet
      have room {s s₂ : System} {es : List Entry} (wrote : Wrote es (registered p.1 p.2 s) s₂) :
          s.throttles.size < s₂.throttles.size := by
        rw [wrote.throttles, size_throttles_registered]
        exact Nat.lt_succ_self _
      rw [h.logger_roster]
      refine ⟨(level_enrolled s₂ _ _).symm.trans (level.trans (level_enrolled s₂' _ _)), ?_⟩
      have given {s s₂ : System} {es : List Entry} (made : p.1 < s.loggers.size) (absent : s.listed? p = none)
          (wrote : Wrote es (registered p.1 p.2 s) s₂) (r : RosterId) (t : ThrottleId) :
          (enrolled r t s₂).listed? p = some s.throttles.size :=
        (wrote.listed_eq p).trans ((listed?_registered s made absent).trans (if_pos rfl))
      rw [given made absent wrote, given made' absent' wrote']
      exact .some (m.enrolled level _ (room wrote) (room wrote'))

section Others
variable (other : s.listed? p ≠ some u)
include other

theorem enrol_other (r : RosterId) : SameFor p s ((System.enrol r u).exec s).2 := by
  obtain ⟨s₁, he, wrote⟩ := enrol_exec r u s
  rw [he]
  refine apart (wrote.level.trans (level_enrolled s₁ r u)) (wrote.listed_eq p) fun t found => ?_
  have apart : u ≠ t := fun own => other (own ▸ found)
  exact (Matches.wrote wrote (about?_announcement r u t s)).trans (.enrolled_other s₁ r apart)

theorem attempt_other (calm : Calm s) : SameFor p s ((System.attempt u).exec s).2 := by
  have level := level_attempt u s
  obtain ⟨s₁, he, wrote⟩ := attempt_calm calm u
  rw [he] at level ⊢
  refine apart level (wrote.listed_eq p) fun t found => ?_
  have apart : u ≠ t := fun own => other (own ▸ found)
  exact (Matches.setLimiter_other s _ apart).trans (.wrote wrote rfl)

theorem logThrough_other (calm : Calm s) (severity : Severity) {args : List Argument} (shown : Painless args) :
    SameFor p s ((System.logThrough u severity args).exec s).2 := by
  obtain ⟨s₁, s₂, message, he, joined, done, rendered, wrote⟩ := logThrough_calm calm u severity shown
  have before : SameFor p s s₁ := by
    have exec := join_exec u s
    rw [he] at exec
    split at exec
    · have enrolled := enrol_other other (s.home u)
      rwa [← exec] at enrolled
    · cases exec
      exact refl p s
  have listed := joined.listed_eq p
  rw [done]
  refine before.trans (apart ((level_ticked s₁ u severity).trans wrote.level)
    ((wrote.listed_eq p).trans (listed?_ticked p s₁ u severity)) fun t found => ?_)
  have apart : u ≠ t := fun own => other (own ▸ listed ▸ found)
  refine (Matches.ticked_other s₁ severity apart).trans (.wrote wrote ?_)
  rw [about?_eventEntries, if_neg fun own => apart own.1]

end Others

/-- A lookup of another key finds or makes a throttle that is not under this one. -/
theorem lookup_other {q : Key} (sound : Sound s) (made : q.1 < s.loggers.size) (different : q ≠ p)
    (sought : Sought q s u s₁) : SameFor p s s₁ ∧ s₁.listed? p ≠ some u := by
  cases sought with
  | found found =>
    refine ⟨refl p s, fun both => different ?_⟩
    exact (sound.key_of_listed found).2.symm.trans (sound.key_of_listed both).2
  | @fresh s₂ absent new wrote =>
    subst new
    have away : p ≠ q := fun e => different e.symm
    have listed (r : RosterId) (t : ThrottleId) : (enrolled r t s₂).listed? p = s.listed? p :=
      (wrote.listed_eq p).trans ((listed?_registered s made absent).trans (if_neg away))
    have old {t : ThrottleId} (found : s.listed? p = some t) : t < s.throttles.size :=
      (sound.key_of_listed found).1
    rw [listed]
    refine ⟨apart ?_ (listed _ _) fun t found => ?_, fun found => Nat.lt_irrefl _ (old found)⟩
    · exact (Level.of_rosters (beside_registered s q.1 q.2) rfl).trans (wrote.level.trans (level_enrolled s₂ _ _))
    · refine (Matches.registered_other s q (old found)).trans ((Matches.wrote wrote ?_).trans
        (.enrolled_other s₂ _ (Nat.ne_of_gt (old found))))
      exact about?_announcement ..

end SameFor
end LogThrottle.System
