import LogThrottle.Proofs.Catalogues.Shelving
import LogThrottle.Proofs.Enrolment.Jobs
import LogThrottle.Proofs.Flushing.Complete
import LogThrottle.Proofs.Reporting.Closing
import LogThrottle.Proofs.Shutdown.Residents

/-! What is done to the throttles of a closed roster while nobody flushes it. They count events and are
enrolled, and nothing else; whatever else is flushed, fired or released does not reach them. -/
namespace LogThrottle

/-- One event more, with the mark as it was if it was set. -/
structure Limiter.Counts (x y : Limiter) : Prop where
  count : y.count = x.count + 1
  mark : x.isLimited = true → y.mark = x.mark

theorem Limiter.Attempted.counts {limit : UInt32} {x y : Limiter} {answer : Option Decision}
    (h : x.Attempted limit answer y) : x.Counts y := by
  cases h with
  | mark unlimited =>
    exact ⟨count_setMark .., fun limited => absurd limited (Bool.eq_false_iff.mp unlimited)⟩
  | _ => exact ⟨rfl, fun _ => rfl⟩

/-- A call flushes a roster: because it is asked to, because it releases a guard on the roster, or because
the catalogue of one of the roster's loggers overflows. -/
def Action.Flushes (r : RosterId) (s : System) : Action → Prop
  | .flush i => i = r
  | .release x => x = ⟨.guard, r⟩
  | a => ∃ p ∈ a.sought?, (s.logger p.1).roster = r ∧ a.Overflows p.1 s

instance (r : RosterId) (s : System) : (a : Action) → Decidable (a.Flushes r s)
  | .flush i => inferInstanceAs (Decidable (i = r))
  | .release x => inferInstanceAs (Decidable (x = ⟨.guard, r⟩))
  | .lookup l topic => inferInstanceAs (Decidable (∃ p ∈ (Action.lookup l topic).sought?,
      (s.logger p.1).roster = r ∧ (Action.lookup l topic).Overflows p.1 s))
  | .log l severity template args => inferInstanceAs (Decidable (∃ p ∈ (Action.log l severity template args).sought?,
      (s.logger p.1).roster = r ∧ (Action.log l severity template args).Overflows p.1 s))
  | .addSink .. | .addStopwatch .. | .addCounter _ | .openRoster | .build _ | .move .. | .logThrough .. | .emit ..
  | .attempt _ | .enrol .. | .shutdown _ | .fire .. | .guard _ | .share _ | .resetTally _ =>
    isFalse fun flushes => nomatch flushes.choose_spec.1

/-- A call counts an event of a throttle, if it gets that far. -/
def Action.Reaches (t : ThrottleId) (s : System) (a : Action) : Prop := a.throttle? s = some t ∨ a = .attempt t

namespace System
open Call

/-- The digests of a throttle that were delivered. -/
def digestsOf (s : System) (t : ThrottleId) : List Entry := s.journal.toList.filter (Entry.isDigestOf t)

/-- A throttle whose roster is closed, and that is a member of no other. -/
structure Apart (r : RosterId) (t : ThrottleId) (s : System) : Prop where
  made : t < s.throttles.size
  home : s.home t = r
  closed : (s.roster r).closed = true
  alone : ∀ i p, t ∈ (s.roster i).membersAt p → i = r

/-- A throttle is not reset. Its limiter differs by one event at most, and only if one may be counted; it has
no new digest, and is still a member where it was one. -/
structure Unreset (r : RosterId) (t : ThrottleId) (counted : Prop) (s s' : System) : Prop where
  limiter : (s'.throttle t).limiter = (s.throttle t).limiter ∨
    counted ∧ (s.throttle t).limiter.Counts (s'.throttle t).limiter
  digests : s'.digestsOf t = s.digestsOf t
  member : ∀ p, t ∈ (s.roster r).membersAt p → t ∈ (s'.roster r).membersAt p

/-- A throttle that is apart stays so, and nothing happens to it but that it may be enrolled. -/
def Shelters (r : RosterId) (t : ThrottleId) (s s' : System) : Prop :=
  Apart r t s → Apart r t s' ∧ Unreset r t False s s'

variable {r i : RosterId} {t u : ThrottleId} {counted : Prop} {s s' s'' : System} {es : List Entry}

theorem digestsOf_append (journal : s'.journal.toList = s.journal.toList ++ es)
    (silent : es.filter (Entry.isDigestOf t) = []) : s'.digestsOf t = s.digestsOf t := by
  rw [digestsOf, journal, List.filter_append, silent, List.append_nil, digestsOf]

namespace Unreset

theorem refl (s : System) : Unreset r t counted s s := ⟨.inl rfl, rfl, fun _ => id⟩

theorem trans (h : Unreset r t False s s') (h' : Unreset r t counted s' s'') : Unreset r t counted s s'' where
  limiter := by
    have same := h.limiter.resolve_right fun never => never.1
    rw [← same]
    exact h'.limiter
  digests := h'.digests.trans h.digests
  member p member := h'.member p (h.member p member)

theorem mono {counted' : Prop} (h : Unreset r t counted s s') (wider : counted → counted') :
    Unreset r t counted' s s' :=
  { h with limiter := h.limiter.imp_right fun one => ⟨wider one.1, one.2⟩ }

theorem limiter_eq (h : Unreset r t counted s s') (uncounted : ¬counted) :
    (s'.throttle t).limiter = (s.throttle t).limiter :=
  h.limiter.resolve_right fun one => uncounted one.1

end Unreset

theorem Apart.alike (h : Apart r t s) (same : Alike s s')
    (closed : (s.roster r).closed = true → (s'.roster r).closed = true) : Apart r t s' where
  made := Nat.lt_of_lt_of_le h.made same.size
  home := (same.home t h.made).trans h.home
  closed := closed h.closed
  alone i p member := h.alone i p (by rwa [same.membersAt] at member)

theorem Apart.steady (h : Apart r t s) (same : Steady s s') : Apart r t s' :=
  h.alike same.alike fun closed => by rwa [same.roster_eq]

theorem Apart.drained (h : Apart r t s) (i : RosterId) : Apart r t (drained i s) where
  made := h.made
  home := h.home
  closed := ((beside_drained s i).closed r).trans h.closed
  alone j p member := by
    rw [roster_drained] at member
    split at member
    · rw [Roster.membersAt_drain] at member
      exact absurd member List.not_mem_nil
    · exact h.alone j p member

/-- Others may be enrolled anywhere. -/
theorem Apart.enrolled (h : Apart r t s) (own : u = t → i = r) : Apart r t (enrolled i u s) where
  made := by
    rw [size_throttles_enrolled]
    exact h.made
  home := by rw [home_enrolled, h.home]
  closed := ((beside_enrolled s i u).closed r).trans h.closed
  alone j p member := by
    rcases (mem_membersAt_enrolled s i j u t p).mp member with old | ⟨⟨rfl, _⟩, _, rfl⟩
    · exact h.alone j p old
    · exact own rfl

theorem unreset_enrolled (s : System) (i : RosterId) (u : ThrottleId) : Unreset r t False s (enrolled i u s) where
  limiter := .inl (by
    rw [throttle_enrolled]
    split <;> rfl)
  digests := rfl
  member p member := (mem_membersAt_enrolled s i r u t p).mpr (.inl member)

namespace Shelters

theorem refl (s : System) : Shelters r t s s := fun apart => ⟨apart, .refl s⟩

theorem trans (h : Shelters r t s s') (h' : Shelters r t s' s'') : Shelters r t s s'' := by
  intro apart
  obtain ⟨apart', first⟩ := h apart
  obtain ⟨apart'', last⟩ := h' apart'
  exact ⟨apart'', first.trans last⟩

theorem chain : Chain (Shelters r t) := ⟨.refl, .trans⟩

/-- Membership reads the same. -/
theorem alike (same : Alike s s') (closed : (s.roster r).closed = true → (s'.roster r).closed = true)
    (limiter : t < s.throttles.size → (s'.throttle t).limiter = (s.throttle t).limiter)
    (digests : s'.digestsOf t = s.digestsOf t) : Shelters r t s s' := by
  refine fun apart => ⟨apart.alike same closed, .inl (limiter apart.made), digests, fun p member => ?_⟩
  rwa [same.membersAt]

theorem steady (same : Steady s s') (limiter : (s'.throttle t).limiter = (s.throttle t).limiter)
    (digests : s'.digestsOf t = s.digestsOf t) : Shelters r t s s' :=
  .alike same.alike (fun closed => by rwa [same.roster_eq]) (fun _ => limiter) digests

theorem wrote (h : Wrote es s s') (quiet : .notice .flushing ∉ es)
    (silent : es.filter (Entry.isDigestOf t) = []) : Shelters r t s s' :=
  .steady (h.steady quiet) (by rw [throttle, h.throttles, throttle]) (digestsOf_append h.journal silent)

/-- Holders, sinks and all else outside may be any. -/
theorem of_same (rosters : s'.rosters = s.rosters) (loggers : s'.loggers = s.loggers)
    (throttles : s'.throttles = s.throttles) (journal : s'.journal = s.journal) : Shelters r t s s' := by
  have throttle (u : ThrottleId) : s'.throttle u = s.throttle u := by
    rw [System.throttle, throttles, System.throttle]
  have roster (j : RosterId) : s'.roster j = s.roster j := by rw [System.roster, rosters, System.roster]
  have logger (l : LoggerId) : s'.logger l = s.logger l := by rw [System.logger, loggers, System.logger]
  refine .alike ⟨?_, ?_, fun u _ => ?_, fun u _ => ?_, fun u _ => ?_, fun j => ?_, fun j p => ?_⟩ ?_ (fun _ => ?_) ?_
  · rw [flushes, journal, flushes]
  · exact Nat.le_of_eq (congrArg Array.size throttles.symm)
  · rw [throttle]
  · rw [System.home, throttle, logger, System.home]
  · rw [System.period, throttle, logger, System.period]
  · rw [roster]
  · rw [roster]
  · rw [roster]
    exact id
  · rw [throttle]
  · rw [digestsOf, journal, digestsOf]

end Shelters

theorem shelters_changeTally (s : System) (l : LoggerId) (f : Tally → Tally) :
    Shelters r t s (changeTally l f s) := .steady (steady_changeTally s l f) rfl rfl

section Flushes

private theorem silent_contributed {cs : List (ThrottleId × Contribution)} (out : t ∉ cs.map Prod.fst) :
    (cs.flatMap fun p => s.contributed p.1 p.2).filter (Entry.isDigestOf t) = [] := by
  refine List.filter_eq_nil_iff.mpr fun e there => ?_
  obtain ⟨⟨v, c⟩, member, written⟩ := List.mem_flatMap.mp there
  have other : v ≠ t := by
    rintro rfl
    exact out (List.mem_map.mpr ⟨(v, c), member, rfl⟩)
  cases c with
  | nothing => cases written
  | digest d =>
    obtain rfl := List.mem_singleton.mp written
    simp [Entry.isDigestOf, other]
  | failure f reported =>
    cases reported <;> obtain rfl := List.mem_singleton.mp written <;> simp [Entry.isDigestOf]

/-- Resets reach the throttles that they reset. -/
theorem shelters_resetAll {ts : List ThrottleId} (out : t ∉ ts) : Keeps (Shelters r t) (resetAll ts) := by
  intro s
  have same := steady_resetAll ts s
  have limiter := limiter_resetAll ts s t
  obtain ⟨cs, s', he, rfl, passes⟩ := resetAll_passes ts s
  rw [he] at same limiter ⊢
  exact .steady same (limiter.trans (if_neg fun both => out both.1))
    (digestsOf_append passes.told.journal (silent_contributed out))

/-- Nobody who is apart is a member of another roster. -/
theorem shelters_flush (other : i ≠ r) : Keeps (Shelters r t) (flush i) := by
  intro s apart
  have out : t ∉ (s.roster i).members := fun member => by
    obtain ⟨p, at_period⟩ := Roster.mem_members.mp member
    exact other (apart.alone i p at_period)
  have begun : Unreset r t False s (drained i s) := by
    refine ⟨.inl rfl, digestsOf_append Array.toList_push rfl, fun p member => ?_⟩
    rwa [roster_drained, if_neg fun own => other own.1]
  rw [flush_exec]
  obtain ⟨apart', reset⟩ := shelters_resetAll (r := r) out (drained i s) (apart.drained i)
  exact ⟨apart', begun.trans reset⟩

/-- A closed roster is not shut down again. -/
theorem shelters_shutdown (i : RosterId) : Keeps (Shelters r t) (shutdown i) := by
  by_cases own : i = r
  · subst own
    intro s apart
    rw [shutdown_of_closed apart.closed]
    exact ⟨apart, .refl s⟩
  · refine Shelters.chain.shutdown (fun s => ?_) (shelters_flush own) fun s => ?_
    · refine .alike (.changeRoster s i (fun _ => rfl) fun _ _ => rfl) (fun closed => ?_) (fun _ => rfl) rfl
      rwa [roster_changeRoster, if_neg fun e => own e.1]
    · refine .alike (.changeRoster s i (fun _ => rfl) Roster.membersAt_cancelJobs) (fun closed => ?_)
        (fun _ => rfl) rfl
      rwa [(beside_changeRoster s i (f := Roster.cancelJobs) fun _ => rfl).closed]

theorem shelters_release {x : Holder} (other : x ≠ ⟨.guard, r⟩) : Keeps (Shelters r t) (release x) := by
  refine Shelters.chain.release (fun guard => shelters_flush fun own => other ?_)
    (fun _ => .of_same rfl rfl rfl rfl) (shelters_shutdown _)
  obtain ⟨kind, roster⟩ := x
  obtain rfl : kind = .guard := guard
  obtain rfl : roster = r := own
  rfl

end Flushes

section Lookups

private theorem silent_announcement (i : RosterId) (u : ThrottleId) (s : System) :
    (announcement i u s).filter (Entry.isDigestOf t) = [] := by
  rw [announcement]
  split <;> rfl

private theorem shelters_announced (h : Wrote (announcement i u s'') s s') : Shelters r t s s' :=
  .wrote h (flushing_not_mem_announcement i u s'') (silent_announcement i u s'')

theorem shelters_joined (joined : Joined u s s') : Shelters r t s s' := by
  cases joined with
  | idle => exact .refl s
  | enrolled _ _ wrote =>
    intro apart
    obtain ⟨apart', announced⟩ := shelters_announced wrote apart
    exact ⟨apart'.enrolled fun own => own ▸ apart.home, announced.trans (unreset_enrolled _ _ u)⟩

/-- A throttle that is made is another one. -/
theorem shelters_introduce {l : LoggerId} {topic : Topic} (absent : (s.logger l).catalogue.find? topic = none) :
    Shelters r t s ((introduce l topic).exec s).2 := by
  obtain ⟨s', he, wrote⟩ := introduce_exec absent
  intro apart
  rw [he]
  have registered : Shelters r t s (registered l topic s) := by
    refine .alike (.registered s l topic) id (fun made => ?_) rfl
    rw [throttle_registered, if_neg (Nat.ne_of_lt made)]
  obtain ⟨apart', announced⟩ := registered.trans (shelters_announced wrote) apart
  refine ⟨apart'.enrolled fun own => ?_, announced.trans (unreset_enrolled _ _ _)⟩
  exact absurd own (Nat.ne_of_gt apart.made)

/-- The warning of an overflow. -/
theorem shelters_warned {l : LoggerId} (h : Wrote (s.overflowEntries l) s s') : Shelters r t s s' :=
  .wrote h (by simp [overflowEntries]) rfl

/-- Lookups reach nobody, unless they flush the roster. -/
theorem shelters_lookup {a : Action} {l : LoggerId} {topic : Topic} (sought : a.sought? = some (l, topic))
    (quiet : ¬a.Flushes r s) : Shelters r t s ((lookup l topic).exec s).2 := by
  cases found : (s.logger l).catalogue.find? topic with
  | some u =>
    rw [lookup_of_some found]
    exact .refl s
  | none =>
    rw [lookup_of_none found]
    split
    · rename_i full
      rw [exec_bind]
      cases answer : s.refusal? l with
      | some f =>
        obtain ⟨s', he, wrote⟩ := overflow_refused answer
        rw [he]
        exact .wrote wrote (by simp) rfl
      | none =>
        have other : (s.logger l).roster ≠ r := fun own => quiet <| by
          have overflows := (overflows_iff sought).mpr ⟨found, full, answer⟩
          cases a with
          | lookup | log => exact ⟨(l, topic), sought, own, overflows⟩
          | _ => cases sought
        obtain ⟨s₁, s₂, warned, flushed, he⟩ := overflow_taken answer
        have emptied := absent_overflow found he
        have first := (shelters_warned (r := r) (t := t) warned).trans
          (by simpa only [flushed] using shelters_flush (t := t) other s₁)
        have vacated : Shelters r t s₂ (setCatalogue l .cleared s₂) :=
          .alike (.setCatalogue s₂ l _) id (fun _ => rfl) rfl
        rw [he]
        exact ((first.trans vacated).trans (shelters_changeTally _ l _)).trans (shelters_introduce emptied)
    · exact shelters_introduce found

end Lookups

/-- An attempt counts one event of its own throttle. -/
theorem Counted.unreset {answer : Option Decision} (h : Counted u answer es s s') (same : Steady s s') :
    Unreset r t (u = t) s s' where
  limiter := by
    by_cases own : u = t
    · subst own
      exact .inr ⟨rfl, h.tried.counts⟩
    · exact .inl (h.others t fun e => own e.symm)
  digests := by
    refine digestsOf_append h.journal (List.filter_eq_nil_iff.mpr fun e there => ?_)
    obtain ⟨k, line, rfl⟩ := h.own e there
    simp [Entry.isDigestOf]
  member p member := by rwa [same.roster_eq]

theorem unreset_logThrough (apart : Apart r t s) (made : u < s.throttles.size) (severity : Severity)
    (args : List Argument) : Unreset r t (u = t) s ((logThrough u severity args).exec s).2 := by
  obtain ⟨s', he, joined⟩ := join_outcome u s
  have there : u < s'.throttles.size := by rwa [joined.throttles]
  obtain ⟨answer, es, counted⟩ := counted_logThrough severity args he there
  exact (shelters_joined joined apart).2.trans (counted.unreset (steady_logThrough severity args he))

/-- Whatever is done without flushing a closed roster, its throttles are not reset. -/
theorem unreset_after {a : Action} (apart : Apart r t s) (reached : Reachable s) (ready : a.Ready s)
    (quiet : ¬a.Flushes r s) : Unreset r t (a.Reaches t s) s (s.after a) := by
  have sound := reached.sound
  have untouched {s' : System} (h : Shelters r t s s') : Unreset r t (a.Reaches t s) s s' :=
    (h apart).2.mono False.elim
  cases a with
  | addSink | addStopwatch | addCounter | guard | share => exact untouched (.of_same rfl rfl rfl rfl)
  | openRoster =>
    refine untouched (.alike (.openRoster s) (fun closed => ?_) (fun _ => rfl) rfl)
    exact closed_after sound trivial closed
  | build p =>
    rw [after_build]
    cases hp : p.logger with
    | error e => exact .refl s
    | ok x =>
      have built : Shelters r t s { s with loggers := s.loggers.push x } :=
        .alike { Alike.build sound x with } id (fun _ => rfl) rfl
      exact untouched (built.trans (.of_same rfl rfl rfl rfl))
  | move w m =>
    rw [after_move]
    exact untouched (.of_same rfl rfl rfl rfl)
  | lookup l topic => exact untouched (shelters_lookup (a := .lookup l topic) rfl quiet)
  | log l severity template args =>
    have looked := shelters_lookup (t := t) (a := .log l severity template args) rfl quiet
    have outcome := lookup_outcome sound ready { template }
    have reaches : (Action.log l severity template args).throttle? s =
        ((lookup l { template }).exec s).1.toOption := rfl
    rw [after, Action.perform, log, exec_bind]
    revert looked outcome reaches
    rcases (lookup l { template }).exec s with ⟨f | u, s'⟩
    · exact fun looked _ _ => untouched looked
    · intro looked outcome reaches
      obtain ⟨apart', first⟩ := looked apart
      have made : u < s'.throttles.size := by
        rcases outcome with ⟨_, _, he, _⟩ | ⟨_, he, made⟩ | ⟨_, he, _, made, _⟩ <;> cases he <;> exact made
      exact first.trans ((unreset_logThrough apart' made severity args).mono fun own => .inl (own ▸ reaches))
  | logThrough u severity args =>
    exact (unreset_logThrough apart ready severity args).mono fun own => .inl (congrArg some own)
  | emit u args =>
    rw [after_emit]
    exact (unreset_logThrough apart ready _ args).mono fun own => .inl (congrArg some own)
  | attempt u =>
    exact ((counted_attempt ready).unreset (steady_attempt u s)).mono fun own => .inr (congrArg Action.attempt own)
  | enrol i u =>
    obtain ⟨s', he, wrote⟩ := enrol_exec i u s
    have after : s.after (.enrol i u) = enrolled i u s' := congrArg Prod.snd he
    rw [after]
    exact ((shelters_announced wrote apart).2.trans (unreset_enrolled s' i u)).mono False.elim
  | flush i => exact untouched (shelters_flush quiet s)
  | shutdown i => exact untouched (shelters_shutdown i s)
  | fire i period =>
    refine untouched (shelters_resetAll (fun due => ?_) s)
    -- the job would be one of the closed roster
    obtain rfl := apart.alone i period (Roster.due_subset _ _ due)
    rw [(reached.punctual i).due_eq, if_pos apart.closed] at due
    exact List.not_mem_nil due
  | release x => exact untouched (shelters_release quiet s)
  | resetTally l => exact untouched (shelters_changeTally s l fun _ => {})

end System
end LogThrottle
