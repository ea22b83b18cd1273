import LogThrottle.Proofs.Isolation.Calls
import LogThrottle.Proofs.System.Handles

/-! Keys do not influence each other. A run without the calls on other keys is the same for a key as the whole
run. -/
namespace LogThrottle
open Call

namespace Action

/-- The key that a call is on. -/
def key? (s : System) (a : Action) : Option Key := a.sought?.or (a.handle?.map s.key)

/-- No call on another key. -/
def Stays (p : Key) (s : System) (a : Action) : Prop := ∀ q ∈ a.key? s, q = p

instance (p : Key) (s : System) (a : Action) : Decidable (a.Stays p s) :=
  inferInstanceAs (Decidable (∀ q ∈ a.key? s, q = p))

theorem key?_of_handle {s : System} {a : Action} {t : ThrottleId} (own : a.handle? = some t) :
    a.key? s = some (s.key t) := by
  cases a with
  | logThrough | emit | attempt | enrol => exact congrArg (Option.map s.key) own
  | _ => cases own

theorem handle?_of_free {s : System} {a : Action} (free : a.key? s = none) : a.handle? = none := by
  cases own : a.handle? with
  | none => rfl
  | some t => exact absurd (free.symm.trans (key?_of_handle own)) (Option.some_ne_none _).symm

theorem key?_through {s s' : System} {a : Action} {t' : ThrottleId}
    (same : ∀ t, a.handle? = some t → s'.key t' = s.key t) : (a.through t').key? s' = a.key? s := by
  cases a with
  | logThrough t | emit t | attempt t => exact congrArg some (same t rfl)
  | enrol r t => exact congrArg some (same t rfl)
  | _ => rfl

end Action

namespace System

/-- What a logging call makes of its event. -/
def judge (t : ThrottleId) : Call Decision := do
  join t
  attempt t

end System

/-- The decision on the event of a call. -/
def Action.decision? (s : System) : Action → Option Decision
  | .log l _ template _ => ((System.lookup l { template } >>= System.judge).exec s).1.toOption
  | .logThrough t .. | .emit t _ => ((System.judge t).exec s).1.toOption
  | .attempt t => ((System.attempt t).exec s).1.toOption
  | _ => none

theorem Action.decision?_of_free {s : System} {a : Action} (free : a.key? s = none) : a.decision? s = none := by
  cases a with
  | lookup | log | logThrough | emit | attempt | enrol => cases free
  | _ => rfl

namespace System

/-- A run without the calls on other keys than the given one. There is one throttle at most in what is left of
the run, so its number is zero. -/
def alone (p : Key) : System → List Action → List Action
  | _, [] => []
  | s, a :: as => (if a.Stays p s then [a.through 0] else []) ++ (s.after a).alone p as

/-- The decisions on the events of a key. -/
def decisions (p : Key) : System → List Action → List Decision
  | _, [] => []
  | s, a :: as => (if a.Stays p s then (a.decision? s).toList else []) ++ (s.after a).decisions p as

/-- The lines of the events and digests of a key. -/
def linesUnder (s : System) (p : Key) : List (SinkId × Line) := ((s.listed? p).map s.linesOf).getD []

theorem alone_append (p : Key) (s : System) (as bs : List Action) :
    s.alone p (as ++ bs) = s.alone p as ++ (s.run as).alone p bs := by
  induction as generalizing s with
  | nil => rfl
  | cons a as ih => rw [List.cons_append, alone, alone, ih, List.append_assoc]; rfl

theorem decisions_append (p : Key) (s : System) (as bs : List Action) :
    s.decisions p (as ++ bs) = s.decisions p as ++ (s.run as).decisions p bs := by
  induction as generalizing s with
  | nil => rfl
  | cons a as ih => rw [List.cons_append, decisions, decisions, ih, List.append_assoc]; rfl

variable {p : Key} {s s' : System} {a : Action} {t t' : ThrottleId}

namespace SameFor

private theorem openRoster (h : SameFor p s s') : SameFor p (s.after .openRoster) (s'.after .openRoster) := by
  refine h.both ⟨h.toBeside.after .openRoster, fun r => ?_⟩ rfl rfl fun _ _ _ _ m =>
    ⟨m.throttle, fun r d => ?_, m.lines⟩
  · rw [roster_openRoster, roster_openRoster, h.rosters]
    split
    · rfl
    · exact h.epoch r
  · rw [roster_openRoster, roster_openRoster, h.rosters]
    split
    · exact ⟨fun none => absurd none List.not_mem_nil, fun none => absurd none List.not_mem_nil⟩
    · exact m.member r d

private theorem build (h : SameFor p s s') (plan : Plan) :
    SameFor p (s.after (.build plan)) (s'.after (.build plan)) := by
  have listed (s : System) : (s.after (.build plan)).listed? p = s.listed? p := listed?_build s plan p
  have rest (s : System) : (s.after (.build plan)).rosters = s.rosters ∧
      (s.after (.build plan)).throttles = s.throttles ∧ (s.after (.build plan)).journal = s.journal := by
    rw [after_build]
    cases plan.logger <;> exact ⟨rfl, rfl, rfl⟩
  refine h.both ⟨h.toBeside.after (.build plan), fun r => ?_⟩ (listed s) (listed s') fun _ _ _ _ m =>
    ⟨?_, fun r d => ?_, ?_⟩
  · rw [roster, roster, (rest s).1, (rest s').1]
    exact h.epoch r
  · rw [System.throttle, System.throttle, (rest s).2.1, (rest s').2.1]
    exact m.throttle
  · rw [roster, roster, (rest s).1, (rest s').1]
    exact m.member r d
  · rw [linesOf, linesOf, (rest s).2.2, (rest s').2.2]
    exact m.lines

/-- What happens to other parts than throttles, and to rosters, happens in both systems. -/
private theorem after_free (h : SameFor p s s') (grown : Grown s) (grown' : Grown s')
    (punctual : ∀ r, (s.roster r).Punctual) (punctual' : ∀ r, (s'.roster r).Punctual) (free : a.key? s = none) :
    SameFor p (s.after a) (s'.after a) := by
  have beside := h.toBeside.after a
  cases a with
  | lookup | log | logThrough | emit | attempt | enrol => cases free
  | addSink | addStopwatch | addCounter | guard | share =>
    exact h.both ⟨beside, h.epoch⟩ rfl rfl fun _ _ _ _ m => ⟨m.throttle, m.member, m.lines⟩
  | openRoster => exact h.openRoster
  | build plan => exact h.build plan
  | move w m =>
    rw [after_move, after_move] at beside ⊢
    exact h.both ⟨beside, h.epoch⟩ rfl rfl fun _ _ _ _ m => ⟨m.throttle, m.member, m.lines⟩
  | resetTally l =>
    have listed (s : System) : (s.after (.resetTally l)).listed? p = s.listed? p :=
      (steady_changeTally s l fun _ => {}).listed_eq p
    exact h.both ⟨beside, h.epoch⟩ (listed s) (listed s') fun _ _ _ _ m => ⟨m.throttle, m.member, m.lines⟩
  | flush r => exact h.flush grown.toFit grown'.toFit r
  | shutdown r => exact ((closing p r).shutdown ⟨h, grown.toFit, grown'.toFit⟩).2.1
  | fire r period => exact h.fire grown.toFit grown'.toFit punctual punctual' r period
  | release x => exact ((closing p x.roster).release ⟨h, grown.toFit, grown'.toFit⟩).2.1

section Judged
variable (h : SameFor p s s') (calm : Calm s) (calm' : Calm s') (found : s.listed? p = some t)
  (found' : s'.listed? p = some t')
include h calm calm' found found'

private theorem attempted : ((System.attempt t').exec s').1 = ((System.attempt t).exec s).1 := by
  obtain ⟨_, he, _⟩ := attempt_calm calm t
  obtain ⟨_, he', _⟩ := attempt_calm calm' t'
  rw [he, he', h.verdict_eq (h.matched found found').key (h.matched found found').limiter]

private theorem judged (made : t < s.throttles.size) (made' : t' < s'.throttles.size) :
    ((judge t').exec s').1 = ((judge t).exec s).1 := by
  have before := h.join found found' made made'
  obtain ⟨s₁, he, joined⟩ := join_outcome t s
  obtain ⟨s₁', he', joined'⟩ := join_outcome t' s'
  rw [he, he'] at before
  rw [judge, judge, exec_bind, exec_bind, he, he']
  exact before.attempted (joined.calm calm) (joined'.calm calm') ((joined.listed_eq p).trans found)
    ((joined'.listed_eq p).trans found')

end Judged

/-- A call on the key, made in both systems: they stay the same for the key, and the decisions are the same. -/
private theorem after_call (h : SameFor p s s') (grown : Grown s) (grown' : Grown s') (smooth : a.Smooth s)
    (smooth' : (a.through t').Smooth s') (own : a.key? s = some p)
    (handle : ∀ t, a.handle? = some t → s.listed? p = some t ∧ s'.listed? p = some t') :
    SameFor p (s.after a) (s'.after (a.through t')) ∧ (a.through t').decision? s' = a.decision? s := by
  have made {s : System} (grown : Grown s) {t : ThrottleId} (found : s.listed? p = some t) :
      t < s.throttles.size := (grown.sound.key_of_listed found).1
  obtain ⟨ready, quiet, roomy⟩ := smooth
  obtain ⟨ready', _, roomy'⟩ := smooth'
  cases a with
  | lookup l topic =>
    obtain rfl : (l, topic) = p := Option.some.inj own
    obtain ⟨u, s₁, he, sought⟩ := lookup_roomy (p := (l, topic)) (roomy _ rfl)
    obtain ⟨u', s₁', he', sought'⟩ := lookup_roomy (p := (l, topic)) (roomy' _ rfl)
    have same := h.lookup grown grown' (grown.sound.held ready).1 sought sought'
    rw [Action.through_of_none rfl, after, after, Action.perform, he, he']
    exact ⟨same, rfl⟩
  | log l severity template args =>
    obtain rfl : (l, ⟨template, none⟩) = p := Option.some.inj own
    obtain ⟨u, s₁, he, sought⟩ := lookup_roomy (p := (l, { template })) (roomy _ rfl)
    obtain ⟨u', s₁', he', sought'⟩ := lookup_roomy (p := (l, { template })) (roomy' _ rfl)
    have held := (grown.sound.held ready).1
    have held' := (grown'.sound.held ready').1
    have same := h.lookup grown grown' held sought sought'
    have calm := (sought.grows (P := fun _ => True) held trivial grown.calm).1
    have calm' := (sought'.grows (P := fun _ => True) held' trivial grown'.calm).1
    have found := sought.listed held
    have found' := sought'.listed held'
    have there := sought.made grown.sound ready
    have there' := sought'.made grown'.sound ready'
    rw [Action.through_of_none rfl, after, after, Action.perform, log, exec_bind, exec_bind, he, he']
    refine ⟨same.logThrough found found' there there' calm calm' severity quiet, ?_⟩
    rw [Action.decision?, Action.decision?, exec_bind, exec_bind, he, he']
    exact congrArg Except.toOption (same.judged calm calm' found found' there there')
  | logThrough u severity args =>
    obtain ⟨found, found'⟩ := handle u rfl
    have there := made grown found
    have there' := made grown' found'
    exact ⟨h.logThrough found found' there there' grown.calm grown'.calm severity quiet,
      congrArg Except.toOption (h.judged grown.calm grown'.calm found found' there there')⟩
  | emit u args =>
    obtain ⟨found, found'⟩ := handle u rfl
    have there := made grown found
    have there' := made grown' found'
    rw [after_emit, Action.through, after_emit, (h.matched found found').throttle]
    exact ⟨h.logThrough found found' there there' grown.calm grown'.calm _ quiet,
      congrArg Except.toOption (h.judged grown.calm grown'.calm found found' there there')⟩
  | attempt u =>
    obtain ⟨found, found'⟩ := handle u rfl
    exact ⟨h.attempt found found' (made grown found) (made grown' found') grown.calm grown'.calm,
      congrArg Except.toOption (h.attempted grown.calm grown'.calm found found')⟩
  | enrol r u =>
    obtain ⟨found, found'⟩ := handle u rfl
    exact ⟨h.enrol found found' (made grown found) (made grown' found') r, rfl⟩
  | _ => cases own

/-- A call on another key leaves the system the same for this one. -/
private theorem after_other (grown : Grown s) (smooth : a.Smooth s) (other : ¬a.Stays p s) :
    SameFor p s (s.after a) := by
  obtain ⟨ready, quiet, roomy⟩ := smooth
  have different {q : Key} (own : a.key? s = some q) : q ≠ p := by
    rintro rfl
    exact other fun q' hq => Option.some.inj (hq.symm.trans own)
  have unlisted {u : ThrottleId} (own : a.key? s = some (s.key u)) : s.listed? p ≠ some u := fun found =>
    different own (grown.sound.key_of_listed found).2
  cases a with
  | lookup l topic =>
    obtain ⟨u, s₁, he, sought⟩ := lookup_roomy (p := (l, topic)) (roomy _ rfl)
    rw [after, Action.perform, he]
    exact (lookup_other grown.sound (grown.sound.held ready).1 (different rfl) sought).1
  | log l severity template args =>
    obtain ⟨u, s₁, he, sought⟩ := lookup_roomy (p := (l, { template })) (roomy _ rfl)
    have held := (grown.sound.held ready).1
    obtain ⟨same, away⟩ := lookup_other grown.sound held (different rfl) sought
    rw [after, Action.perform, log, exec_bind, he]
    exact same.trans
      (logThrough_other away (sought.grows (P := fun _ => True) held trivial grown.calm).1 severity quiet)
  | logThrough u severity args => exact logThrough_other (unlisted rfl) grown.calm severity quiet
  | emit u args =>
    rw [after_emit]
    exact logThrough_other (unlisted rfl) grown.calm _ quiet
  | attempt u => exact attempt_other (unlisted rfl) grown.calm
  | enrol r u => exact enrol_other (unlisted rfl) r
  | _ =>
    refine absurd (fun q own => ?_) other
    cases own

end SameFor

/-- What is left of a run is a run, has the one key only, and is the same for it. -/
private structure Follows (p : Key) (as : List Action) : Prop where
  smooth : System.Along (fun s a => a.Smooth s) {} (alone p {} as)
  only : ∀ t < (System.run {} (alone p {} as)).throttles.size, (System.run {} (alone p {} as)).key t = p
  same : SameFor p (System.run {} as) (System.run {} (alone p {} as))
  decisions : decisions p {} (alone p {} as) = System.decisions p {} as

/-- The only throttle under the only key is the first one. -/
private theorem listed_zero (grown' : Grown s') (only : ∀ t < s'.throttles.size, s'.key t = p)
    (found : s'.listed? p ≠ none) : s'.listed? p = some 0 := by
  obtain ⟨t, found⟩ := Option.ne_none_iff_exists'.mp found
  have there : 0 < s'.throttles.size := Nat.zero_lt_of_lt (grown'.sound.key_of_listed found).1
  exact grown'.listed_iff.mpr ⟨there, only 0 there⟩

/-- A call that is possible in the whole run is possible in what is left of it. -/
private theorem smooth_alone (h : SameFor p s s') (grown' : Grown s') (only : ∀ t < s'.throttles.size, s'.key t = p)
    (smooth : a.Smooth s) (stays : a.Stays p s) (there : a.handle? ≠ none → 0 < s'.throttles.size) :
    (a.through 0).Smooth s' := by
  obtain ⟨ready, quiet, roomy⟩ := smooth
  refine ⟨Action.ready_through h.toBeside ready there, Action.calm_through h.toBeside quiet, fun q sought absent => ?_⟩
  rw [Action.sought?_through] at sought
  obtain rfl : q = p := stays q (by rw [Action.key?, Option.mem_def.mp sought]; rfl)
  refine Nat.le_trans (Catalogue.size_le fun topic found => ?_)
    (h.logger_capacity q.1 ▸ roomy q sought (h.listed_iff.mp absent))
  obtain ⟨t, found⟩ := Option.ne_none_iff_exists'.mp found
  obtain ⟨made, same⟩ := grown'.sound.key_of_listed (p := (q.1, topic)) found
  rw [only t made] at same
  rw [same] at absent
  exact absurd (absent.symm.trans found) (Option.some_ne_none t).symm

private theorem Follows.after {as : List Action} (f : Follows p as)
    (earlier : System.Along (fun s a => a.Smooth s) {} as) (smooth : a.Smooth (System.run {} as)) :
    Follows p (as ++ [a]) := by
  obtain ⟨smooth', only, same, decided⟩ := f
  have grown := grown_run earlier
  have grown' := grown_run smooth'
  have left : alone p {} (as ++ [a]) =
      alone p {} as ++ if a.Stays p (System.run {} as) then [a.through 0] else [] := by
    rw [alone_append, alone, alone, List.append_nil]
  have told (bs : List Action) (b : Action) : System.decisions p {} (bs ++ [b]) = System.decisions p {} bs ++
      if b.Stays p (System.run {} bs) then (b.decision? (System.run {} bs)).toList else [] := by
    rw [decisions_append, System.decisions, System.decisions, List.append_nil]
  by_cases stays : a.Stays p (System.run {} as)
  · rw [if_pos stays] at left
    have handle (t : ThrottleId) (own : a.handle? = some t) : (System.run {} as).listed? p = some t ∧
        (System.run {} (alone p {} as)).listed? p = some 0 := by
      have made : t < (System.run {} as).throttles.size := Action.handle?_lt smooth.1 own
      have key : (System.run {} as).key t = p := stays _ (Action.key?_of_handle own)
      have found := grown.listed_iff.mpr ⟨made, key⟩
      refine ⟨found, listed_zero grown' only fun absent => ?_⟩
      exact absurd (same.listed_iff.mp absent) (by rw [found]; exact Option.some_ne_none t)
    have next : (a.through 0).Smooth (System.run {} (alone p {} as)) := by
      refine smooth_alone same grown' only smooth stays fun some => ?_
      obtain ⟨t, own⟩ := Option.ne_none_iff_exists'.mp some
      exact (grown'.sound.key_of_listed (handle t own).2).1
    have keys : (a.through 0).key? (System.run {} (alone p {} as)) = a.key? (System.run {} as) :=
      Action.key?_through fun t own => (grown'.sound.key_of_listed (handle t own).2).2.trans
        (grown.sound.key_of_listed (handle t own).1).2.symm
    have stays' : (a.through 0).Stays p (System.run {} (alone p {} as)) := fun q own => stays q (keys ▸ own)
    have step : SameFor p ((System.run {} as).after a) ((System.run {} (alone p {} as)).after (a.through 0)) ∧
        (a.through 0).decision? (System.run {} (alone p {} as)) = a.decision? (System.run {} as) := by
      cases own : a.key? (System.run {} as) with
      | none =>
        rw [Action.decision?_of_free own, Action.decision?_of_free (keys.trans own),
          Action.through_of_none (Action.handle?_of_free own)]
        exact ⟨same.after_free grown grown' (punctual_run as) (punctual_run _) own, rfl⟩
      | some q =>
        obtain rfl := stays q own
        exact same.after_call grown grown' smooth next own handle
    refine ⟨?_, ?_, ?_, ?_⟩
    · rw [left]
      exact along_snoc.mpr ⟨smooth', next⟩
    · rw [left, run_snoc]
      obtain ⟨_, gains⟩ := grows_after grown'.sound next grown'.calm
      intro t made
      by_cases old : t < (System.run {} (alone p {} as)).throttles.size
      · rw [gains.key t old]
        exact only t old
      · have sought := (gains.fresh t (Nat.not_lt.mp old) made).1
        rw [Action.sought?_through] at sought
        exact stays _ (by rw [Action.key?, sought]; rfl)
    · rw [left, run_snoc, run_snoc]
      exact step.1
    · rw [left, told, told, decided, if_pos stays, if_pos stays', step.2]
  · rw [if_neg stays, List.append_nil] at left
    refine ⟨left ▸ smooth', left ▸ only, ?_, ?_⟩
    · rw [left, run_snoc]
      exact (SameFor.after_other grown smooth stays).symm.trans same
    · rw [left, told, if_neg stays, List.append_nil]
      exact decided

private theorem follows_run {as : List Action} (smooth : System.Along (fun s a => a.Smooth s) {} as) :
    Follows p as := by
  induction as using List.reverseRecOn with
  | nil => exact ⟨trivial, fun t made => absurd made (Nat.not_lt_zero t), .refl p {}, rfl⟩
  | append_singleton as a ih =>
    obtain ⟨earlier, last⟩ := along_snoc.mp smooth
    exact (ih earlier).after earlier last

/-- Keys do not influence each other. Take any run in which nothing fails and no catalogue overflows, and leave
out every lookup, logging call, attempt and enrolment on other keys than one. The rest is such a run too, and at
every point of it the decisions on the key's events so far, the lines of its events and digests, and its limiter
are the same as in the whole run. -/
theorem alone_alike {as : List Action} (smooth : System.Along (fun s a => a.Smooth s) {} as) (p : Key) (n : Nat) :
    let bs := alone p {} (as.take n)
    bs <+: alone p {} as ∧ System.Along (fun s a => a.Smooth s) {} bs ∧
      decisions p {} bs = decisions p {} (as.take n) ∧
      (System.run {} bs).linesUnder p = (System.run {} (as.take n)).linesUnder p ∧
      (System.run {} bs).limiter? p = (System.run {} (as.take n)).limiter? p := by
  intro bs
  have cut := List.take_append_drop n as
  have early : System.Along (fun s a => a.Smooth s) {} (as.take n) := (along_append.mp (cut ▸ smooth)).1
  obtain ⟨smooth', _, same, decided⟩ := follows_run (p := p) early
  refine ⟨?_, smooth', decided, ?_, ?_⟩
  · have whole := alone_append p {} (as.take n) (as.drop n)
    rw [cut] at whole
    rw [whole]
    exact List.prefix_append ..
  · rw [linesUnder, linesUnder]
    have throttle := same.throttle
    revert throttle
    rcases (System.run {} (as.take n)).listed? p <;> rcases (System.run {} bs).listed? p <;> rintro (m | _)
    · rfl
    · exact m.lines
  · rw [limiter?, limiter?]
    have throttle := same.throttle
    revert throttle
    rcases (System.run {} (as.take n)).listed? p <;> rcases (System.run {} bs).listed? p <;> rintro (m | _)
    · rfl
    · exact congrArg (fun x : Throttle => some x.limiter) m.throttle

/-- Two loggers on one roster log the same template, one of them at two severities. The events that the other
logger and the other severity add take no part in the limit and the digest. -/
theorem alone_alike_two_loggers :
    let as : List Action := [.addSink .filled fun _ _ => none, .addStopwatch .zero fun _ => none,
      .openRoster, .build ⟨0, 0, 0, none, 1, ⟨7, by decide⟩, 5⟩, .build ⟨0, 0, 0, none, 2, ⟨7, by decide⟩, 5⟩,
      .log 1 .info "x" [], .log 0 .warn "x" [], .lookup 0 ⟨"x", some .error⟩, .emit 2 [], .logThrough 1 .info [],
      .log 1 .info "x" [], .attempt 1, .attempt 0, .fire 0 ⟨7, by decide⟩, .log 0 .debug "x" []]
    let bs := alone (0, ⟨"x", none⟩) {} as
    (decisions (0, ⟨"x", none⟩) {} bs = decisions (0, ⟨"x", none⟩) {} as ∧
      (System.run {} bs).linesUnder (0, ⟨"x", none⟩) = (System.run {} as).linesUnder (0, ⟨"x", none⟩) ∧
      (System.run {} bs).limiter? (0, ⟨"x", none⟩) = (System.run {} as).limiter? (0, ⟨"x", none⟩)) ∧
      as.length = 15 ∧ bs.length = 10 ∧
      decisions (0, ⟨"x", none⟩) {} as = [.allow, .suppress, .suppress, .allow] ∧
      (System.run {} as).linesUnder (0, ⟨"x", none⟩) = [(0, ⟨.warn, "x"⟩),
        (0, ⟨.info, "(suppressed 2 logs similar to 'x' in 0ns)"⟩), (0, ⟨.debug, "x"⟩)] := by
  intro as bs
  have ready : System.Feasible {} as := by decide +kernel
  have calm : System.Along (fun s a => a.Calm s) {} as := by
    simp [as, System.Along, Action.Calm, Painless]
  have roomy : System.Along (fun s a => a.Roomy s) {} as := by decide +kernel
  have smooth : System.Along (fun s a => a.Smooth s) {} as := ready.and (calm.and roomy)
  have whole : as.take 15 = as := rfl
  obtain ⟨_, _, alike⟩ := alone_alike smooth (0, ⟨"x", none⟩) 15
  rw [whole] at alike
  exact ⟨alike, by decide +kernel⟩

end System
end LogThrottle
