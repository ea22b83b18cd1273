import LogThrottle.Proofs.Catalogues.Capacity
import LogThrottle.Proofs.Interleaving.Locking
import LogThrottle.Proofs.System.Masking
import LogThrottle.Proofs.Teardown.Resets

/-! Overflows that fail. The warning comes first, so a sink that refuses it keeps everything as it was: the sink was
asked once more, and a diagnostic event tells of the attempt. The next call for a new topic tries again. -/
namespace LogThrottle

/-- A call asks a logger for a topic that is not in its catalogue, at a time when the sink refuses the warning. -/
def Action.Rebuffed (l : LoggerId) (s : System) (a : Action) : Prop :=
  ∃ p ∈ a.sought?, p.1 = l ∧ (s.logger l).catalogue.find? p.2 = none ∧ (s.refusal? l).isSome = true

instance (l : LoggerId) (s : System) (a : Action) : Decidable (a.Rebuffed l s) :=
  inferInstanceAs (Decidable (∃ p ∈ a.sought?, p.1 = l ∧ (s.logger l).catalogue.find? p.2 = none ∧
    (s.refusal? l).isSome = true))

namespace System
open Call

/-- What some refused warnings leave behind them. -/
def rebuffed (l : LoggerId) (n : Nat) (s : System) : System :=
  written (List.replicate n (.notice .overflowed)) (asked (s.logger l).sink n s)

/-- What an overflow leaves whose warning was taken. -/
def overflowed (l : LoggerId) (s : System) : System :=
  changeTally l Tally.countOverflow <| setCatalogue l .cleared
    ((flush (s.logger l).roster).exec (written (s.overflowEntries l) (asked (s.logger l).sink 1 s))).2

section Steps
variable {l : LoggerId} {topic : Topic} {a : Action} {f : Fault} {s : System}

theorem exec_overflow (l : LoggerId) (s : System) : (overflow l).exec s =
    match s.refusal? l with
    | none => (.ok (), overflowed l s)
    | some f => (.error f, rebuffed l 1 s) := by
  have noted : asked (s.logger l).sink 1 (written [.notice .overflowed] s) = rebuffed l 1 s := rfl
  have warned : written [.line (.overflow l) (s.logger l).sink ⟨.warn, overflowWarning⟩] (rebuffed l 1 s) =
      written (s.overflowEntries l) (asked (s.logger l).sink 1 s) := (written_append [_] [_] _).symm
  simp only [overflow, exec_bind, exec_get, exec_modify, exec_deliver, write_eq_written, noted, warned]
  have answer : ((written [.notice .overflowed] s).sink (s.logger l).sink).fault
      ((written [.notice .overflowed] s).sink (s.logger l).sink).calls ⟨.warn, overflowWarning⟩ = s.refusal? l := rfl
  rw [answer]
  cases s.refusal? l with
  | some f => rfl
  | none =>
    obtain ⟨s', flushed, _⟩ := flush_outcome (s.logger l).roster
      (written (s.overflowEntries l) (asked (s.logger l).sink 1 s))
    dsimp only
    rw [overflowed, flushed]

theorem rebuffed_rebuffed (l : LoggerId) (m n : Nat) (s : System) :
    rebuffed l m (rebuffed l n s) = rebuffed l (n + m) s := by
  have asks := asked_asked (s.logger l).sink m n s
  have notices : List.replicate (n + m) (Entry.notice .overflowed) = _ := List.replicate_add ..
  rw [rebuffed, rebuffed, rebuffed, notices, written_append, ← asks]
  rfl

theorem exec_lookup_refused (absent : (s.logger l).catalogue.find? topic = none)
    (full : (s.logger l).capacity < (s.logger l).catalogue.size) (refused : s.refusal? l = some f) :
    (lookup l topic).exec s = (.error f, rebuffed l 1 s) := by
  rw [lookup_of_none absent, if_pos full, exec_bind, exec_overflow, refused]

theorem exec_lookup_taken (absent : (s.logger l).catalogue.find? topic = none)
    (full : (s.logger l).capacity < (s.logger l).catalogue.size) (taken : s.refusal? l = none) :
    (lookup l topic).exec s = (introduce l topic).exec (overflowed l s) := by
  rw [lookup_of_none absent, if_pos full, exec_bind, exec_overflow, taken]

/-- A call whose warning is refused raises the fault of the sink. -/
theorem exec_perform_refused (sought : a.sought? = some (l, topic))
    (absent : (s.logger l).catalogue.find? topic = none)
    (full : (s.logger l).capacity < (s.logger l).catalogue.size) (refused : s.refusal? l = some f) :
    a.perform.exec s = (.error f, rebuffed l 1 s) := by
  have looked := exec_lookup_refused absent full refused
  cases a with
  | lookup =>
    cases sought
    exact looked
  | log i severity template args =>
    cases sought
    rw [Action.perform, log, exec_bind, looked]
  | _ => cases sought

/-- A call that is rebuffed ends in the fault of the sink. -/
theorem exec_of_rebuffed (h : a.Rebuffed l s) (full : (s.logger l).capacity < (s.logger l).catalogue.size) :
    ∃ f, s.refusal? l = some f ∧ a.perform.exec s = (.error f, rebuffed l 1 s) := by
  obtain ⟨⟨_, topic⟩, sought, rfl, absent, refused⟩ := h
  obtain ⟨f, refused⟩ := Option.isSome_iff_exists.mp refused
  exact ⟨f, refused, exec_perform_refused sought absent full refused⟩

end Steps

section Runs
variable {l : LoggerId} {calls : List Action} {s : System}

theorem rebuffed_zero (l : LoggerId) (s : System) : rebuffed l 0 s = s := by
  rw [rebuffed, asked_zero]
  exact written_nil s

theorem rebuffed_run (full : (s.logger l).capacity < (s.logger l).catalogue.size)
    (refused : s.Along (fun s a => a.Rebuffed l s) calls) :
    s.Along (fun s a => ∃ f, s.refusal? l = some f ∧ (a.perform.exec s).1 = .error f) calls ∧
      s.run calls = rebuffed l calls.length s := by
  induction calls generalizing s with
  | nil => exact ⟨trivial, (rebuffed_zero l s).symm⟩
  | cons a calls ih =>
    obtain ⟨f, raised, performed⟩ := exec_of_rebuffed refused.1 full
    have first : s.after a = rebuffed l 1 s := congrArg Prod.snd performed
    obtain ⟨answers, rest⟩ := ih (s := s.after a) (by rw [first]; exact full) refused.2
    refine ⟨⟨⟨f, raised, congrArg Prod.fst performed⟩, answers⟩, ?_⟩
    calc
      s.run (a :: calls) = rebuffed l calls.length (rebuffed l 1 s) := by rw [← first]; exact rest
      _ = rebuffed l (calls.length + 1) s := by rw [rebuffed_rebuffed, Nat.add_comm]

/-- Nothing that is held or enrolled or listed is touched. -/
theorem Sound.rebuffed (h : Sound s) (l : LoggerId) (n : Nat) : Sound (rebuffed l n s) :=
  ⟨h.holder, h.client, h.logger, h.throttle, h.catalogue⟩

/-- Whatever is done after refused warnings goes as it would go if the sink had been asked and nothing else. -/
theorem run_rebuffed (l : LoggerId) (n : Nat) (s : System) (later : List Action) :
    ∃ es, ((asked (s.logger l).sink n s).run later).journal = s.journal ++ es ∧
      (rebuffed l n s).run later =
        onJournal ((rebuffed l n s).journal ++ es) ((asked (s.logger l).sink n s).run later) :=
  run_onJournal (asked (s.logger l).sink n s) later (rebuffed l n s).journal

end Runs

/-- An overflow that fails changes nothing. Take a logger whose catalogue is over capacity, and any number of calls for
topics that are not in it, at times when the sink refuses the warning. Each ends in the fault of the sink, and they
leave the system that they found: only the sink was asked, and a diagnostic event tells of each. Topics in the
catalogue are found as before, and all that is done later goes as if the sink had been asked and nothing else, journal
included. Once the sink takes the warning, the next call for a new topic overflows the catalogue to the end. The lock
of the overflow keeps nobody out: with any number of callers, it is free wherever nobody overflows, and a lookup that
begins there goes through. -/
theorem refused_overflow_changes_nothing {s : System} (reached : Reachable s) {l : LoggerId} (held : s.loggerHeld l)
    (full : (s.logger l).capacity < (s.logger l).catalogue.size) {calls : List Action}
    (refused : s.Along (fun s a => a.Rebuffed l s) calls) :
    let u := asked (s.logger l).sink calls.length s
    let s' := s.run calls
    s.Along (fun s a => ∃ f, s.refusal? l = some f ∧ (a.perform.exec s).1 = .error f) calls ∧
    s' = { u with journal := s.journal ++ (List.replicate calls.length (.notice .overflowed)).toArray } ∧
    (∀ topic t, (s.logger l).catalogue.find? topic = some t → (lookup l topic).exec s' = (.ok t, s')) ∧
    (∀ later, (∃ es, (u.run later).journal = s.journal ++ es ∧
        s'.run later = { u.run later with journal := s'.journal ++ es }) ∧
      ∀ a : Action, (a.perform.exec (s'.run later)).1 = (a.perform.exec (u.run later)).1) ∧
    (∀ a topic, a.sought? = some (l, topic) → (s.logger l).catalogue.find? topic = none → s'.refusal? l = none →
      (overflow l).exec s' = (.ok (), overflowed l s') ∧
      (lookup l topic).exec s' = (introduce l topic).exec (overflowed l s') ∧
      ((s'.after a).logger l).tally.overflows = (s.logger l).tally.overflows + 1 ∧
      ∀ other, ((s'.after a).logger l).catalogue.find? other =
        if other = topic then some s.throttles.size else none) ∧
    ∀ x, Interleaving.Overflow.Reachable l x → x.Settled → Interleaving.Overflow.Unhindered l x := by
  intro u s'
  obtain ⟨answers, same⟩ := rebuffed_run full refused
  have same : s' = rebuffed l calls.length s := same
  refine ⟨answers, same, fun topic t found => ?_, fun later => ?_, fun a topic sought absent taken => ?_,
    fun x reached settled => reached.unhindered settled⟩
  · rw [same]
    exact lookup_of_some found
  · rw [same]
    obtain ⟨es, journal, run⟩ := run_rebuffed l calls.length s later
    refine ⟨⟨es, journal, run⟩, fun a => ?_⟩
    rw [run]
    exact answer_onJournal _ _ a
  · rw [same] at taken ⊢
    have sound : Sound (rebuffed l calls.length s) := reached.sound.rebuffed l calls.length
    have ready : a.Ready (rebuffed l calls.length s) := ready_sought (s := rebuffed l calls.length s) held sought
    have overflows : a.Overflows l (rebuffed l calls.length s) := (overflows_iff sought).mpr ⟨absent, full, taken⟩
    obtain ⟨counted, _, listed⟩ := stock_of_overflows sound ready sought overflows
    refine ⟨?_, exec_lookup_taken absent full taken, counted, listed⟩
    rw [exec_overflow, taken]

/-- A sink refuses the warning twice, to a logging call and to a lookup. The two topics that are in the catalogue are
found as before, and the next logging call for a new topic empties it. -/
theorem refused_overflow_changes_nothing_twice :
    let s := System.run {} [.addSink .filled fun n line =>
        if n < 4 ∧ line = ⟨.warn, overflowWarning⟩ then some (.text "full") else none,
      .addStopwatch .zero fun _ => none, .openRoster, .build ⟨0, 0, 0, none, 1, ⟨7, by decide⟩, 1⟩,
      .log 0 .info "a" [], .log 0 .info "b" [], .log 0 .info "a" []]
    let s' := s.run [.log 0 .info "c" [], .lookup 0 ⟨"d", some .warn⟩]
    (s' = { asked (s.logger 0).sink 2 s with journal := s.journal ++ #[.notice .overflowed, .notice .overflowed] } ∧
      (lookup 0 ⟨"a", none⟩).exec s' = (.ok 0, s') ∧
      ((s'.after (.log 0 .info "c" [])).logger 0).tally.overflows = (s.logger 0).tally.overflows + 1) ∧
      (s.logger 0).catalogue.size = 2 ∧ (s.throttle 0).limiter.count = 2 ∧ s.refusal? 0 = some (.text "full") := by
  intro s s'
  have reached : Reachable s := reachable_run _ .empty (by decide +kernel)
  have held : s.loggerHeld 0 := by decide +kernel
  have full : (s.logger 0).capacity < (s.logger 0).catalogue.size := by decide +kernel
  have refused : s.Along (fun s a => a.Rebuffed 0 s) [.log 0 .info "c" [], .lookup 0 ⟨"d", some .warn⟩] := by
    decide +kernel
  obtain ⟨_, same, cached, _, retried, _⟩ := refused_overflow_changes_nothing reached held full refused
  have absent : (s.logger 0).catalogue.find? ⟨"c", none⟩ = none := by decide +kernel
  have taken : s'.refusal? 0 = none := by decide +kernel
  obtain ⟨_, _, counted, _⟩ := retried (.log 0 .info "c" []) ⟨"c", none⟩ rfl absent taken
  refine ⟨⟨same, cached ⟨"a", none⟩ 0 (by decide +kernel), ?_⟩, by decide +kernel⟩
  simpa only [s'] using counted

end System
end LogThrottle
