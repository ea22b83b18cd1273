import LogThrottle.Proofs.Windows.Passing

/-! Which throttles a logger has given for a topic since it last overflowed: one at most, which is in its
catalogue. Its limit is the topic's limit for all that goes through the logger; a throttle from before an
overflow has a limit of its own. -/
namespace LogThrottle

/-- The logger and the topic that a call asks for. -/
def Action.sought? : Action → Option (LoggerId × Topic)
  | .lookup l topic => some (l, topic)
  | .log l _ template _ => some (l, { template })
  | _ => none

namespace System
open Call

/-- A run in which a logger gave a throttle for a topic, to a caller or to its own call, and has not
overflowed since. -/
def Given (as : List Action) (l : LoggerId) (topic : Topic) (t : ThrottleId) : Prop :=
  ∃ earlier a later, as = earlier ++ a :: later ∧ a.sought? = some (l, topic) ∧
    ((lookup l topic).exec (System.run {} earlier)).1 = .ok t ∧
    ∀ k line, .line (.overflow l) k line ∉
      (System.run {} as).journal.toList.drop (System.run {} (earlier ++ [a])).journal.size

section Catalogues
variable {l : LoggerId} {topic : Topic} {t : ThrottleId} {s s' : System}

private theorem find?_introduce (made : l < s.loggers.size)
    (absent : (s.logger l).catalogue.find? topic = none) (he : (introduce l topic).exec s = (.ok t, s')) :
    (s'.logger l).catalogue.find? topic = some t := by
  obtain ⟨s₁, done, wrote⟩ := introduce_exec absent
  obtain ⟨ht, hs⟩ := Prod.mk.inj (done.symm.trans he)
  obtain rfl := Except.ok.inj ht
  have same : s'.logger l = (registered l topic s).logger l := by
    rw [← hs]
    exact congrArg (fun loggers : Array Logger => loggers.getD l default) wrote.loggers
  rw [same, logger_registered, if_pos ⟨rfl, made⟩, Catalogue.find?_insert, absent, if_pos rfl]
  rfl

/-- What a lookup gives is in the catalogue from then on. -/
theorem find?_of_lookup (sound : Sound s) (held : s.loggerHeld l)
    (he : (lookup l topic).exec s = (.ok t, s')) : (s'.logger l).catalogue.find? topic = some t := by
  have made := (sound.held held).1
  cases found : (s.logger l).catalogue.find? topic with
  | some u =>
    cases (lookup_of_some found).symm.trans he
    exact found
  | none =>
    rw [lookup_of_none found] at he
    split at he
    · rw [exec_bind] at he
      revert he
      cases done : (overflow l).exec s with
      | mk answer s₁ =>
        cases answer with
        | error f =>
          intro he
          cases he
        | ok =>
          intro he
          obtain ⟨_, _, clears⟩ := wanes_overflow (D := fun _ => False) l s
          rw [done] at clears
          exact find?_introduce (Nat.lt_of_lt_of_le made clears.loggers) (absent_overflow found done) he
    · exact find?_introduce made found he

/-- Logging through a throttle leaves the catalogues alone. -/
private theorem catalogue_logThrough (t : ThrottleId) (severity : Severity) (args : List Argument)
    (s : System) (l : LoggerId) :
    (((logThrough t severity args).exec s).2.logger l).catalogue = (s.logger l).catalogue := by
  obtain ⟨s₁, he, joined⟩ := join_outcome t s
  rw [(steady_logThrough severity args he).logger_catalogue]
  cases joined with
  | idle => rfl
  | enrolled _ _ wrote =>
    exact congrArg (fun loggers : Array Logger => (loggers.getD l default).catalogue) wrote.loggers

/-- A call that was given a throttle leaves it in the catalogue. -/
theorem find?_after {a : Action} (sound : Sound s) (ready : a.Ready s)
    (sought : a.sought? = some (l, topic)) (given : ((lookup l topic).exec s).1 = .ok t) :
    ((s.after a).logger l).catalogue.find? topic = some t := by
  obtain ⟨s', he⟩ : ∃ s', (lookup l topic).exec s = (.ok t, s') := ⟨_, Prod.ext given rfl⟩
  cases a with
  | lookup =>
    cases sought
    rw [after, Action.perform, he]
    exact find?_of_lookup sound ready he
  | log i severity template args =>
    cases sought
    rw [after, Action.perform, log, exec_bind, he]
    dsimp only
    rw [catalogue_logThrough]
    exact find?_of_lookup sound ready he
  | _ => cases sought

end Catalogues

section Runs
variable {l : LoggerId} {topic : Topic} {t : ThrottleId} {s s' s'' : System}

/-- What there was is still there, and catalogues were emptied with a flush only. -/
def Advances (s s' : System) : Prop :=
  ∃ es, (∀ l k line, .line (.overflow l) k line ∈ es → .notice .flushing ∈ es) ∧ Carries es s s'

theorem Advances.refl (s : System) : Advances s s :=
  ⟨[], fun _ _ _ warned => absurd warned List.not_mem_nil, .refl s⟩

theorem Advances.trans (h : Advances s s') (h' : Advances s' s'') : Advances s s'' := by
  obtain ⟨es, warns, carries⟩ := h
  obtain ⟨fs, warns', carries'⟩ := h'
  refine ⟨es ++ fs, fun l k line warned => ?_, carries.trans carries'⟩
  obtain warned | warned := List.mem_append.mp warned
  · exact List.mem_append_left _ (warns l k line warned)
  · exact List.mem_append_right _ (warns' l k line warned)

theorem Wanes.advances {D : ThrottleId → Prop} (h : Wanes D s s') : Advances s s' := by
  obtain ⟨es, tidy, clears⟩ := h
  exact ⟨es, tidy.overflow, clears.toCarries⟩

theorem Counted.advances {answer : Option Decision} {es : List Entry} (h : Counted t answer es s s') :
    Advances s s' := by
  refine ⟨es, fun l k line warned => ?_, h.toCarries⟩
  obtain ⟨_, _, same⟩ := h.own _ warned
  cases same

theorem advances_after {a : Action} (sound : Sound s) (ready : a.Ready s) : Advances s (s.after a) := by
  cases after_outcome sound ready with
  | quiet _ wanes => exact wanes.advances
  | event _ wanes _ counted _ => exact wanes.advances.trans counted.advances

theorem advances_run {as : List Action} (sound : Sound s) (feasible : s.Feasible as) :
    Advances s (s.run as) :=
  (feasible.keeps (I := fun s' => Sound s' ∧ Advances s s') ⟨sound, .refl s⟩
    fun _ _ h ready => ⟨h.1.after ready, h.2.trans (advances_after h.1 ready)⟩).2

private theorem advances_from {earlier later : List Action} {a : Action}
    (feasible : System.Feasible {} (earlier ++ a :: later)) :
    Advances (System.run {} (earlier ++ [a])) (System.run {} (earlier ++ a :: later)) := by
  have cut : earlier ++ a :: later = (earlier ++ [a]) ++ later := by simp
  rw [cut] at feasible ⊢
  obtain ⟨before, rest⟩ := along_append.mp feasible
  rw [run_append _ (earlier ++ [a]) later]
  exact advances_run (sound_run before) rest

/-- What was given since the last overflow is still in the catalogue. -/
theorem find?_of_given {as : List Action} (feasible : System.Feasible {} as)
    (given : Given as l topic t) :
    ((System.run {} as).logger l).catalogue.find? topic = some t := by
  obtain ⟨earlier, a, later, rfl, sought, found, unwarned⟩ := given
  obtain ⟨before, ready, _⟩ := along_append.mp feasible
  obtain ⟨es, _, carries⟩ := advances_from feasible
  rw [carries.drop_size] at unwarned
  have listed := find?_after (sound_run before) ready sought found
  rw [← run_snoc] at listed
  obtain still | ⟨k, line, warned⟩ := carries.listed l topic t listed
  · exact still
  · exact absurd warned (unwarned k line)

/-- What is given in a window without a flush is given for good. -/
theorem given_of_unflushed {earlier later : List Action} {a : Action} {n : Nat}
    (feasible : System.Feasible {} (earlier ++ a :: later))
    (unflushed : Unflushed n (System.run {} (earlier ++ a :: later)))
    (begun : n ≤ (System.run {} (earlier ++ [a])).journal.size) (sought : a.sought? = some (l, topic))
    (found : ((lookup l topic).exec (System.run {} earlier)).1 = .ok t) :
    Given (earlier ++ a :: later) l topic t := by
  obtain ⟨es, warns, carries⟩ := advances_from feasible
  refine ⟨earlier, a, later, rfl, sought, found, fun k line warned => unflushed ?_⟩
  rw [carries.drop_size] at warned
  rw [carries.drop, Nat.sub_eq_zero_of_le begun, List.drop_zero]
  exact List.mem_append_right _ (warns l k line warned)

/-- A call through a logger counts its event with the throttle that the lookup gave. -/
private theorem given_of_reached {a : Action} (sought : a.sought? = some (l, topic))
    (reached : a.throttle? s = some t ∨ a = .attempt t) : ((lookup l topic).exec s).1 = .ok t := by
  obtain found | rfl := reached
  · cases a with
    | log i severity template args =>
      cases sought
      rw [Action.throttle?] at found
      cases given : ((lookup l { template }).exec s).1 with
      | error f =>
        rw [given] at found
        cases found
      | ok u =>
        rw [given] at found
        exact congrArg Except.ok (Option.some.inj found)
    | lookup => cases found
    | _ => cases sought
  · cases sought

/-- Whatever a call through the logger lets pass, passes through the throttle it was given. -/
theorem passed_of_sought {a : Action} (sound : Sound s) (ready : a.Ready s)
    (sought : a.sought? = some (l, topic)) {e : Entry}
    (written : e ∈ (s.after a).journal.toList.drop s.journal.size) (passed : e.Passed fun _ => True) :
    ∃ t, ((lookup l topic).exec s).1 = .ok t ∧ e.Passed (· = t) := by
  cases after_outcome sound ready with
  | quiet _ wanes =>
    obtain ⟨es, tidy, clears⟩ := wanes
    rw [clears.drop_size] at written
    exact absurd passed (tidy.silent _ e written)
  | @event _ t _ _ _ wanes _ counted reached =>
    obtain ⟨es, tidy, clears⟩ := wanes
    rw [(clears.toCarries.trans counted.toCarries).drop_size] at written
    obtain before | event := List.mem_append.mp written
    · exact absurd passed (tidy.silent _ e before)
    · obtain ⟨k, line, rfl⟩ := counted.own e event
      exact ⟨t, given_of_reached sought reached, rfl⟩

end Runs

open Classical in
/-- From any place in the journal of a run on, if there is no flush after it and no job has reset anything
since, at most the limit passes of each throttle of a logger, and of each topic through all the throttles
that were given for it since the last overflow. Whatever the logger has given since that place is among
them, and so is whatever its own calls, or those of its clones, let pass. -/
theorem passedSince_given_le {as : List Action} (feasible : System.Feasible {} as)
    (few : as.length < 2 ^ 64) {l : LoggerId} {n : Nat} (unfired : System.Along (Unfired l n) {} as)
    (unflushed : Unflushed n (System.run {} as)) :
    let s := System.run {} as
    (∀ t < s.throttles.size, (s.throttle t).logger = l →
      s.passedSince n (· = t) ≤ (s.logger l).quota.limit.toNat) ∧
    ∀ topic, s.passedSince n (Given as l topic) ≤ (s.logger l).quota.limit.toNat ∧
      ∀ earlier a later, as = earlier ++ a :: later → a.sought? = some (l, topic) →
        n ≤ (System.run {} (earlier ++ [a])).journal.size →
        (∀ t, ((lookup l topic).exec (System.run {} earlier)).1 = .ok t → Given as l topic t) ∧
        ∀ e ∈ (System.run {} (earlier ++ [a])).journal.toList.drop (System.run {} earlier).journal.size,
          e.Passed (fun _ => True) → e.Passed (Given as l topic) := by
  intro s
  have each (t : ThrottleId) (made : t < s.throttles.size) (own : (s.throttle t).logger = l) :
      s.passedSince n (· = t) ≤ (s.logger l).quota.limit.toNat := by
    have within := (metered_run feasible few unfired).within unflushed t made own
    exact own ▸ within.le
  refine ⟨each, fun topic => ⟨?_, ?_⟩⟩
  · cases listed : (s.logger l).catalogue.find? topic with
    | none =>
      have none : s.passedSince n (Given as l topic) = 0 := List.countP_eq_zero.mpr fun e _ passed => by
        obtain ⟨t, _, _, _, given⟩ := Entry.passed_iff.mp (of_decide_eq_true passed)
        cases listed.symm.trans (find?_of_given feasible given)
      exact none ▸ Nat.zero_le _
    | some t =>
      obtain ⟨made, own, _⟩ := (sound_run feasible).catalogue l topic t listed
      -- all that was given is the one in the catalogue
      have one (u : ThrottleId) (given : Given as l topic u) : u = t :=
        Option.some.inj ((find?_of_given feasible given).symm.trans listed)
      exact (passedSince_mono one s n).trans (each t made own)
  · rintro earlier a later rfl sought begun
    obtain ⟨before, ready, _⟩ := along_append.mp feasible
    refine ⟨fun t => given_of_unflushed feasible unflushed begun sought, fun e written passed => ?_⟩
    rw [run_snoc] at written
    obtain ⟨t, found, own⟩ := passed_of_sought (sound_run before) ready sought written passed
    obtain ⟨u, k, line, rfl, rfl⟩ := Entry.passed_iff.mp own
    exact given_of_unflushed feasible unflushed begun sought found

open Classical in
/-- A throttle is looked up, used, and reset by the job; an overflow follows, and the topic is given anew.
Each of the two throttles keeps to the limit of one. -/
theorem passedSince_given_after_overflow :
    let as : List Action := [.addSink .filled fun _ _ => none, .addStopwatch .zero fun _ => none,
      .openRoster, .build ⟨0, 0, 0, none, 1, ⟨7, by decide⟩, 1⟩, .lookup 0 ⟨"x", none⟩,
      .logThrough 0 .info [], .fire 0 ⟨7, by decide⟩, .log 0 .info "a" [], .log 0 .info "b" []] ++
      .log 0 .info "x" [] :: [.share 0, .log 0 .info "x" [], .logThrough 0 .info []]
    let s := System.run {} as
    s.passedSince 6 (· = 0) ≤ 1 ∧ Given as 0 ⟨"x", none⟩ 3 ∧
      s.passedSince 6 (Given as 0 ⟨"x", none⟩) ≤ 1 := by
  intro as s
  have early : System.Along (fun s a => (a matches .fire ..) = true → s.journal.size ≤ 6) {} as := by
    decide +kernel
  have feasible : System.Feasible {} as := by decide +kernel
  obtain ⟨each, topics⟩ := passedSince_given_le (l := 0) feasible (by decide)
    (early.mono fun _ _ small _ fires _ => by obtain ⟨_, _, rfl, _⟩ := fires; exact small rfl)
    (by decide +kernel : Unflushed 6 s)
  obtain ⟨bound, given⟩ := topics ⟨"x", none⟩
  have first := each 0 (by decide +kernel) (by decide +kernel)
  have limit : ((System.run {} as).logger 0).quota.limit.toNat = 1 := by decide +kernel
  rw [limit] at first bound
  exact ⟨first, (given _ _ _ rfl rfl (by decide +kernel)).1 3 (by rfl), bound⟩

/-- The two of them together let two events of the topic pass after the overflow. -/
theorem passed_twice_after_overflow :
    let as : List Action := [.addSink .filled fun _ _ => none, .addStopwatch .zero fun _ => none,
      .openRoster, .build ⟨0, 0, 0, none, 1, ⟨7, by decide⟩, 1⟩, .lookup 0 ⟨"x", none⟩,
      .log 0 .info "a" [], .log 0 .info "b" [], .log 0 .info "x" [], .logThrough 0 .info []]
    let s := System.run {} as
    System.Feasible {} as ∧ (∀ a ∈ as, (a matches .fire ..) = false) ∧
      s.journal[4]? = some (.notice .flushing) ∧ Unflushed 5 s ∧ (s.logger 0).quota.limit = 1 ∧
      s.passedSince 5 (fun t => (s.throttle t).logger = 0 ∧ (s.throttle t).topic = ⟨"x", none⟩) = 2 := by
  decide +kernel

end System
end LogThrottle
