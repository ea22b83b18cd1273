import LogThrottle.Proofs.System.Masks
import LogThrottle.Proofs.System.Pairing
import LogThrottle.System.Reach

/-! Masked systems. The journal is written and never read, and a fault that does not fire does not show: on another
journal, or with other faults, a computation gives the same answer, leaves the same system behind the mask, and
appends the same entries, up to the first fault that the mask hides. -/
namespace LogThrottle

/-- Resets that failed are reported, and where the report fails too there is a notice. -/
def Entry.failed : Entry → Bool
  | .line (.failure _) _ _ | .notice .resetFailed => true
  | _ => false

namespace System
open Call

/-- Some reset has failed. -/
def Troubled (s : System) : Prop := ∃ e ∈ s.journal.toList, e.failed = true

instance (s : System) : Decidable s.Troubled := inferInstanceAs (Decidable (∃ e ∈ s.journal.toList, e.failed = true))

/-- Entries are never taken out of the journal. -/
def Appends (s s' : System) : Prop := s.journal.toList <+: s'.journal.toList

theorem Appends.of_journal {s s' : System} (same : s'.journal = s.journal) : Appends s s' := by
  rw [Appends, same]

theorem chain_appends : Chain Appends := ⟨fun _ => List.prefix_rfl, List.IsPrefix.trans⟩

theorem Troubled.appends {s s' : System} (h : s.Troubled) (longer : Appends s s') : s'.Troubled := by
  obtain ⟨e, member, failed⟩ := h
  exact ⟨e, longer.subset member, failed⟩

/-- A system with another journal. -/
def onJournal (j : Array Entry) (s : System) : System := { s with journal := j }

/-- The throttles, loggers, rosters and holders of one system, with what surrounds those of another. -/
def amid (o s : System) : System :=
  { s with sinks := o.sinks, stopwatches := o.stopwatches, counters := o.counters, journal := o.journal }

/-- A system with its sinks, stopwatches and counters behind a mask. -/
def masked {hides : Prop} (m : Mask hides) (s : System) : System := { s with
  sinks := s.sinks.map m.sink
  stopwatches := s.stopwatches.map m.stopwatch
  counters := s.counters.map m.counter }

/-- One system is the other behind a mask, and the same was appended to the journals that both had at first. -/
def Behind {hides : Prop} (m : Mask hides) (j₀ j : Array Entry) (s s' : System) : Prop :=
  ∃ es, s.journal = j₀ ++ es ∧ s' = (s.masked m).onJournal (j ++ es)

section Masked
variable {hides : Prop} (m : Mask hides) (s : System)

private theorem getD_map {α : Type} {f : α → α} {d : α} (same : f d = d) (xs : Array α) (i : Nat) :
    (xs.map f).getD i d = f (xs.getD i d) := by
  simp only [Array.getD_eq_getD_getElem?, Array.getElem?_map]
  cases xs[i]? with
  | none => exact same.symm
  | some x => rfl

theorem sink_masked (k : SinkId) : (s.masked m).sink k = m.sink (s.sink k) := getD_map m.sink_default ..

theorem stopwatch_masked (w : StopwatchId) : (s.masked m).stopwatch w = m.stopwatch (s.stopwatch w) :=
  getD_map m.stopwatch_default ..

theorem counter_masked (c : CounterId) : (s.masked m).counter c = m.counter (s.counter c) :=
  getD_map m.counter_default ..

end Masked
end System

end LogThrottle

namespace LogThrottle.Call
open LogThrottle.System
variable {α β : Type} {hides : Prop} {m : Mask hides} {j₀ j : Array Entry}

/-- It ended in a fault, or some reset has failed. -/
def Fails (r : Except Fault α × System) : Prop := r.1.isOk = false ∨ r.2.Troubled

theorem Fails.troubled {a : α} {s : System} (fails : Fails (.ok a, s)) : s.Troubled := by
  obtain raised | troubled := fails
  · cases raised
  · exact troubled

/-- Entries are only appended; and from a system and the same behind a mask, two computations go together, unless the
first fails and the mask may hide that. -/
structure Paired (m : Mask hides) (j₀ j : Array Entry) (c d : Call α) : Prop where
  appends : Keeps Appends c
  together : ∀ s s', Behind m j₀ j s s' → (hides ∧ Fails (c.exec s)) ∨ Together (Behind m j₀ j) c d s s'

theorem paired_pure (a : α) : Paired m j₀ j (pure a) (pure a) :=
  ⟨chain_appends.pure a, fun _ _ behind => .inr ⟨rfl, behind⟩⟩

/-- A mask may take away the fault that a computation would raise. -/
theorem paired_ofExcept {e e' : Except Fault α} (same : (hides ∧ e.isOk = false) ∨ e' = e) :
    Paired m j₀ j (ofExcept e) (ofExcept e') := by
  refine ⟨chain_appends.ofExcept e, fun s s' behind => ?_⟩
  rw [Together, exec_ofExcept, exec_ofExcept]
  exact same.imp (fun fails => ⟨fails.1, .inl fails.2⟩) fun same => ⟨same.symm, behind⟩

/-- Throttles, loggers, rosters and holders change the same in both. -/
theorem paired_modifyGet {f : System → α × System} (answer : ∀ o s, (f (amid o s)).1 = (f s).1)
    (unread : ∀ o s, (f (amid o s)).2 = amid o (f s).2) : Paired m j₀ j (modifyGet f) (modifyGet f) := by
  have own (s : System) : (f s).2 = amid s (f s).2 := unread s s
  have silent (s : System) : (f s).2.journal = s.journal := (congrArg System.journal (own s) :)
  refine ⟨fun s => .of_journal (silent s), fun s s' behind => .inr ?_⟩
  obtain ⟨es, began, rfl⟩ := behind
  refine ⟨congrArg Except.ok (answer (onJournal (j ++ es) (s.masked m)) s).symm, es, (silent s).trans began, ?_⟩
  have changed : (f (onJournal (j ++ es) (s.masked m))).2 = amid (onJournal (j ++ es) (s.masked m)) (f s).2 :=
    unread (onJournal (j ++ es) (s.masked m)) s
  rw [exec_modifyGet, exec_modifyGet, changed, own s]
  rfl

theorem paired_modify {f : System → System} (unread : ∀ o s, f (amid o s) = amid o (f s)) :
    Paired m j₀ j (modify f) (modify f) := paired_modifyGet (fun _ _ => rfl) unread

theorem paired_write (e : Entry) : Paired m j₀ j (modify (write e)) (modify (write e)) := by
  refine ⟨fun s => ⟨[e], Array.toList_push.symm⟩, fun s s' behind => .inr ⟨rfl, ?_⟩⟩
  obtain ⟨es, began, rfl⟩ := behind
  refine ⟨es.push e, ?_, ?_⟩
  · rw [Array.append_push, ← began]
    rfl
  · rw [Array.append_push]
    rfl

theorem paired_get_bind {k l : System → Call α} (paired : ∀ s, Paired m j₀ j (k s) (l s))
    (unread : ∀ s i, l (onJournal i (s.masked m)) = l s) : Paired m j₀ j (get >>= k) (get >>= l) := by
  refine ⟨fun s => (paired s).appends s, fun s s' behind => ?_⟩
  have alike := (paired s).together s s' behind
  obtain ⟨es, began, rfl⟩ := behind
  rw [together_get_bind, unread]
  exact alike

theorem Paired.bind {c d : Call α} {k l : α → Call β} (hc : Paired m j₀ j c d) (hk : ∀ a, Paired m j₀ j (k a) (l a)) :
    Paired m j₀ j (c >>= k) (d >>= l) := by
  refine ⟨chain_appends.bind hc.appends fun a => (hk a).appends, fun s s' behind => ?_⟩
  have first := hc.together s s' behind
  rw [Together, exec_bind, exec_bind]
  revert first
  rw [Together]
  rcases c.exec s with ⟨f | a, s₁⟩ <;> rcases d.exec s' with ⟨g | b, s₁'⟩
  · rintro (⟨hidden, _⟩ | ⟨same, behind⟩)
    · exact .inl ⟨hidden, .inl rfl⟩
    · cases same
      exact .inr ⟨rfl, behind⟩
  · rintro (⟨hidden, _⟩ | ⟨same, _⟩)
    · exact .inl ⟨hidden, .inl rfl⟩
    · cases same
  · rintro (⟨hidden, fails⟩ | ⟨same, _⟩)
    · exact .inl ⟨hidden, .inr (fails.troubled.appends ((hk a).appends s₁))⟩
    · cases same
  · rintro (⟨hidden, fails⟩ | ⟨same, behind⟩)
    · exact .inl ⟨hidden, .inr (fails.troubled.appends ((hk a).appends s₁))⟩
    · cases same
      exact (hk a).together s₁ s₁' behind

theorem Paired.map {c d : Call α} (hc : Paired m j₀ j c d) (f : α → β) : Paired m j₀ j (f <$> c) (f <$> d) := by
  refine ⟨keeps_map f hc.appends, fun s s' behind => ?_⟩
  rw [Together, exec_map, exec_map]
  obtain ⟨hidden, fails⟩ | ⟨same, related⟩ := hc.together s s' behind
  · refine .inl ⟨hidden, fails.imp_left fun fault => ?_⟩
    rw [← fault]
    cases (c.exec s).1 <;> rfl
  · exact .inr ⟨congrArg (Except.map f) same, related⟩

/-- What is caught shows, so a mask that hides the fault hides all that follows. -/
theorem Paired.tryCatch {c d : Call α} {handle handle' : Fault → Call α} (hc : Paired m j₀ j c d)
    (hh : ∀ f, Paired m j₀ j (handle f) (handle' f)) (shows : ∀ f s, ((handle f).exec s).2.Troubled) :
    Paired m j₀ j (tryCatch c handle) (tryCatch d handle') := by
  refine ⟨chain_appends.tryCatch hc.appends fun f => (hh f).appends, fun s s' behind => ?_⟩
  have first := hc.together s s' behind
  rw [Together, exec_tryCatch, exec_tryCatch]
  revert first
  rw [Together]
  rcases c.exec s with ⟨f | a, s₁⟩ <;> rcases d.exec s' with ⟨g | b, s₁'⟩
  · rintro (⟨hidden, _⟩ | ⟨same, behind⟩)
    · exact .inl ⟨hidden, .inr (shows f s₁)⟩
    · cases same
      exact (hh f).together s₁ s₁' behind
  · rintro (⟨hidden, _⟩ | ⟨same, _⟩)
    · exact .inl ⟨hidden, .inr (shows f s₁)⟩
    · cases same
  · rintro (fails | ⟨same, _⟩)
    · exact .inl fails
    · cases same
  · exact id

end LogThrottle.Call

namespace LogThrottle

/-- What a caller does in a system behind a mask. -/
def Action.masked {hides : Prop} (m : Mask hides) : Action → Action
  | addSink style fault => addSink style (m.offers fault)
  | addStopwatch reading fault => addStopwatch reading (m.reads fault)
  | addCounter fault => addCounter (m.counts fault)
  | log l severity template args => log l severity template (args.map m.shows)
  | logThrough t severity args => logThrough t severity (args.map m.shows)
  | emit t args => emit t (args.map m.shows)
  | a => a

/-- The same as a computation with the answer of the action itself. -/
def Action.performMasked {hides : Prop} (m : Mask hides) : (a : Action) → Call a.Answer
  | addSink style fault => System.addSink { style, fault := m.offers fault }
  | addStopwatch reading fault => System.addStopwatch { reading, fault := m.reads fault }
  | addCounter fault => System.addCounter { fault := m.counts fault }
  | log l severity template args => System.log l severity template (args.map m.shows)
  | logThrough t severity args => System.logThrough t severity (args.map m.shows)
  | emit t args => System.emit t (args.map m.shows)
  | a => a.perform

namespace System
open Call
variable {hides : Prop} {m : Mask hides} {j₀ j : Array Entry}

section Outside

/-- A part that is asked answers the same behind the mask, or fails where the mask may hide it. -/
private theorem paired_of_asked {α : Type} {c : Call α} (ask : System → Except Fault α × System)
    (exec : ∀ s, c.exec s = ask s) (silent : ∀ s, (ask s).2.journal = s.journal)
    (same : ∀ s i, (hides ∧ (ask s).1.isOk = false) ∨
      ask (onJournal i (s.masked m)) = ((ask s).1, onJournal i ((ask s).2.masked m))) : Paired m j₀ j c c := by
  refine ⟨fun s => .of_journal (by rw [exec, silent]), fun s s' behind => ?_⟩
  obtain ⟨es, began, rfl⟩ := behind
  rw [Together, exec, exec]
  obtain ⟨hidden, fails⟩ | same := same s (j ++ es)
  · exact .inl ⟨hidden, .inl fails⟩
  · exact .inr (by rw [same]; exact ⟨rfl, es, (silent s).trans began, rfl⟩)

/-- A delivery up to the journal. -/
private def offerTo (k : SinkId) (line : Line) : Call Unit := do
  let s ← get
  modify fun s' => { s' with sinks := s'.sinks.setIfInBounds k ((s.sink k).offer line).2 }
  ofExcept ((s.sink k).offer line).1

private theorem deliver_eq (o : Origin) (k : SinkId) (line : Line) :
    deliver o k line = offerTo k line >>= fun _ => modify (write (.line o k line)) := by
  simp only [deliver, offerTo, bind_assoc]

theorem paired_deliver (o : Origin) (k : SinkId) (line : Line) :
    Paired m j₀ j (deliver o k line) (deliver o k line) := by
  have asked : Paired m j₀ j (offerTo k line) (offerTo k line) := by
    refine paired_of_asked (fun s => (((s.sink k).offer line).1,
      { s with sinks := s.sinks.setIfInBounds k ((s.sink k).offer line).2 })) (fun s => ?_) (fun _ => rfl) fun s i => ?_
    · simp only [offerTo, exec_bind, exec_get, exec_modify, exec_ofExcept]
    · refine (m.offer_eq (s.sink k) line).imp_right fun same => ?_
      have read : (onJournal i (s.masked m)).sink k = m.sink (s.sink k) := sink_masked m s k
      dsimp only
      rw [read, same]
      simp only [onJournal, masked, Array.map_setIfInBounds]
  rw [deliver_eq]
  exact asked.bind fun _ => paired_write _

theorem paired_readClock (w : StopwatchId) : Paired m j₀ j (readClock w) (readClock w) := by
  refine paired_of_asked (fun s => ((s.stopwatch w).read.1.map Duration.clockMillis,
    { s with stopwatches := s.stopwatches.setIfInBounds w (s.stopwatch w).read.2 })) (fun s => ?_) (fun _ => rfl)
    fun s i => ?_
  · simp only [readClock, exec_bind, exec_get, exec_modify, exec_map, exec_ofExcept]
  · refine (m.read_eq (s.stopwatch w)).imp (fun fails => ⟨fails.1, ?_⟩) fun same => ?_
    · rw [← fails.2]
      cases (s.stopwatch w).read.1 <;> rfl
    · have read : (onJournal i (s.masked m)).stopwatch w = m.stopwatch (s.stopwatch w) := stopwatch_masked m s w
      dsimp only
      rw [read, same]
      simp only [onJournal, masked, Array.map_setIfInBounds]

theorem paired_moveClock (w : StopwatchId) (move : Stopwatch.Move) :
    Paired m j₀ j (moveClock w move) (moveClock w move) := by
  refine paired_of_asked (fun s => (((s.stopwatch w).move move).1,
    { s with stopwatches := s.stopwatches.setIfInBounds w ((s.stopwatch w).move move).2 })) (fun s => ?_)
    (fun _ => rfl) fun s i => .inr ?_
  · simp only [moveClock, exec_bind, exec_get, exec_modify, exec_ofExcept]
  · have read : (onJournal i (s.masked m)).stopwatch w = m.stopwatch (s.stopwatch w) := stopwatch_masked m s w
    dsimp only
    rw [read, m.move_eq]
    simp only [onJournal, masked, Array.map_setIfInBounds]

theorem paired_countCall (c : Option CounterId) (name : String) :
    Paired m j₀ j (countCall c name) (countCall c name) := by
  cases c with
  | none => exact paired_pure ()
  | some c =>
    refine paired_of_asked (fun s => (((s.counter c).increment name).1,
      { s with counters := s.counters.setIfInBounds c ((s.counter c).increment name).2 })) (fun s => ?_) (fun _ => rfl)
      fun s i => ?_
    · simp only [countCall, increment, exec_bind, exec_get, exec_modify, exec_ofExcept]
    · refine (m.increment_eq (s.counter c) name).imp_right fun same => ?_
      have read : (onJournal i (s.masked m)).counter c = m.counter (s.counter c) := counter_masked m s c
      dsimp only
      rw [read, same]
      simp only [onJournal, masked, Array.map_setIfInBounds]

theorem paired_deliverTemplate (o : Origin) (k : SinkId) (severity : Severity) (template : String)
    (args : List Argument) : Paired m j₀ j (deliverTemplate o k severity template args)
      (deliverTemplate o k severity template (args.map m.shows)) := by
  refine paired_get_bind (fun s => ?_) fun s i => ?_
  · exact (paired_ofExcept (m.render_eq ..)).bind fun _ => paired_deliver o k _
  · have same : (onJournal i (s.masked m)).sink k = m.sink (s.sink k) := sink_masked m s k
    rw [same]
    rfl

end Outside

section Throttles

theorem paired_attempt (t : ThrottleId) : Paired m j₀ j (attempt t) (attempt t) := by
  refine paired_get_bind (fun s => paired_get_bind (fun s' => ?_) fun _ _ => rfl) fun _ _ => rfl
  refine (paired_modify fun _ _ => rfl).bind fun _ => ?_
  cases Limiter.course (s'.logger (s.throttle t).logger).quota.limit
    (s.throttle t).limiter.ordinal (s.throttle t).limiter.bump with
  | pass => exact paired_pure _
  | hold => exact paired_pure _
  | mark =>
    dsimp only
    split
    · exact paired_pure _
    · exact (paired_readClock _).bind fun _ => (paired_modify fun _ _ => rfl).bind fun _ => paired_pure _

theorem paired_reset (t : ThrottleId) : Paired m j₀ j (reset t) (reset t) := by
  refine paired_get_bind (fun s => paired_get_bind (fun s' => ?_) fun _ _ => rfl) fun _ _ => rfl
  refine (paired_modify fun _ _ => rfl).bind fun _ => ?_
  dsimp only
  split
  · exact paired_pure _
  · exact (paired_readClock _).bind fun _ => (paired_deliver _ _ _).bind fun _ =>
      (paired_modify fun _ _ => rfl).bind fun _ => paired_pure _

/-- A failed reset leaves a report, or the notice that there is none. -/
theorem troubled_reportFailure (t : ThrottleId) (f : Fault) (s : System) :
    ((reportFailure t f).exec s).2.Troubled := by
  simp only [reportFailure, exec_bind, exec_get, exec_tryCatch, exec_deliver, exec_modify]
  cases (s.sink (s.logger (s.throttle t).logger).sink).fault (s.sink (s.logger (s.throttle t).logger).sink).calls
    ⟨.warn, failureMessage (s.throttle t).topic f⟩ with
  | none => exact ⟨_, Array.toList_push ▸ List.mem_concat_self, rfl⟩
  | some g => exact ⟨.notice .resetFailed, Array.toList_push ▸ List.mem_concat_self, rfl⟩

private theorem paired_reportFailure (t : ThrottleId) (f : Fault) :
    Paired m j₀ j (reportFailure t f) (reportFailure t f) := by
  refine paired_get_bind (fun s => paired_get_bind (fun s' => ?_) fun _ _ => rfl) fun _ _ => rfl
  refine (paired_deliver _ _ _).tryCatch (fun _ => paired_write _) fun _ s => ?_
  exact ⟨.notice .resetFailed, Array.toList_push ▸ List.mem_concat_self, rfl⟩

theorem paired_resetOrReport (t : ThrottleId) : Paired m j₀ j (resetOrReport t) (resetOrReport t) :=
  ((paired_reset t).map _).tryCatch (paired_reportFailure t) (troubled_reportFailure t)

theorem paired_resetAll (ts : List ThrottleId) : Paired m j₀ j (resetAll ts) (resetAll ts) := by
  induction ts with
  | nil => exact paired_pure ()
  | cons t ts ih => exact (paired_resetOrReport t).bind fun _ => ih

end Throttles

section Membership

theorem paired_flush (r : RosterId) : Paired m j₀ j (flush r) (flush r) :=
  paired_get_bind (fun _ => (paired_modify fun _ _ => rfl).bind fun _ => (paired_write _).bind fun _ =>
    paired_resetAll _) fun _ _ => rfl

theorem paired_enrol (r : RosterId) (t : ThrottleId) : Paired m j₀ j (enrol r t) (enrol r t) := by
  have enters (period : Duration) (epoch : UInt64) : Paired m j₀ j
      (do modify (changeRoster r (·.enrol period t)); modify (setStamp t epoch))
      (do modify (changeRoster r (·.enrol period t)); modify (setStamp t epoch)) :=
    (paired_modify fun _ _ => rfl).bind fun _ => paired_modify fun _ _ => rfl
  refine paired_get_bind (fun s => paired_get_bind (fun s' => paired_get_bind (fun s'' => ?_) fun _ _ => rfl)
    fun _ _ => rfl) fun _ _ => rfl
  dsimp only
  split
  · exact (paired_write _).bind fun _ => enters _ _
  · exact enters _ _

theorem paired_join (t : ThrottleId) : Paired m j₀ j (join t) (join t) := by
  refine paired_get_bind (fun s => paired_get_bind (fun s' => paired_get_bind (fun s'' => ?_) fun _ _ => rfl)
    fun _ _ => rfl) fun _ _ => rfl
  split
  · refine paired_get_bind (fun s => ?_) fun _ _ => rfl
    split
    · exact paired_enrol _ t
    · exact paired_pure ()
  · exact paired_pure ()

theorem paired_shutdown (r : RosterId) : Paired m j₀ j (shutdown r) (shutdown r) := by
  refine paired_get_bind (fun s => ?_) fun _ _ => rfl
  split
  · exact paired_pure ()
  · exact (paired_modify fun _ _ => rfl).bind fun _ => (paired_flush r).bind fun _ =>
      paired_modify fun _ _ => rfl

theorem paired_release (h : Holder) : Paired m j₀ j (release h) (release h) := by
  have lets : Paired m j₀ j (do
      modify fun s => { s with holders := s.holders.erase h }
      unless (← get).alive h.roster do shutdown h.roster) (do
      modify fun s => { s with holders := s.holders.erase h }
      unless (← get).alive h.roster do shutdown h.roster) := by
    refine (paired_modify fun _ _ => rfl).bind fun _ => paired_get_bind (fun s => ?_) fun _ _ => rfl
    split
    · exact paired_pure ()
    · exact paired_shutdown _
  refine paired_get_bind (fun s => ?_) fun _ _ => rfl
  split
  · split
    · exact (paired_flush _).bind fun _ => lets
    · exact lets
  · exact paired_pure ()

end Membership

section Calls

theorem paired_overflow (l : LoggerId) : Paired m j₀ j (overflow l) (overflow l) :=
  paired_get_bind (fun _ => (paired_write _).bind fun _ => (paired_deliver _ _ _).bind fun _ =>
    (paired_flush _).bind fun _ => (paired_modify fun _ _ => rfl).bind fun _ =>
      paired_modify fun _ _ => rfl) fun _ _ => rfl

theorem paired_introduce (l : LoggerId) (topic : Topic) : Paired m j₀ j (introduce l topic) (introduce l topic) := by
  have enters (r : RosterId) (kept : ThrottleId) (fresh : Bool) : Paired m j₀ j
      (do
        if fresh then enrol r kept
        return kept)
      (do
        if fresh then enrol r kept
        return kept) := by
    cases fresh with
    | true => exact (paired_enrol r kept).bind fun _ => paired_pure kept
    | false => exact paired_pure kept
  exact paired_get_bind (fun _ => paired_get_bind (fun _ => (paired_modify fun _ _ => rfl).bind fun _ =>
    (paired_modify fun _ _ => rfl).bind fun _ => enters _ _ _) fun _ _ => rfl) fun _ _ => rfl

theorem paired_lookup (l : LoggerId) (topic : Topic) : Paired m j₀ j (lookup l topic) (lookup l topic) := by
  refine paired_get_bind (fun s => ?_) fun _ _ => rfl
  dsimp only
  split
  · exact paired_pure _
  · split
    · exact (paired_overflow l).bind fun _ => paired_introduce l topic
    · exact paired_introduce l topic

/-- Arguments are shown the same. -/
theorem paired_logThrough (t : ThrottleId) (severity : Severity) (args : List Argument) :
    Paired m j₀ j (logThrough t severity args) (logThrough t severity (args.map m.shows)) := by
  refine (paired_join t).bind fun _ => paired_get_bind (fun s => paired_get_bind (fun s' => ?_) fun _ _ => rfl)
    fun _ _ => rfl
  refine (paired_attempt t).bind fun d => ?_
  cases d with
  | allow =>
    exact (paired_modify fun _ _ => rfl).bind fun _ => (paired_deliverTemplate _ _ _ _ _).bind fun _ =>
      paired_countCall _ _
  | suppress => exact (paired_modify fun _ _ => rfl).bind fun _ => paired_countCall _ _

theorem paired_hold (h : Holder) : Paired m j₀ j (hold h) (hold h) := paired_modify fun _ _ => rfl

end Calls

/-- A new part is numbered the same, and is behind the mask too. -/
private theorem paired_addSink (x : Sink) : Paired m j₀ j (addSink x) (addSink (m.sink x)) := by
  refine ⟨fun s => .of_journal rfl, fun s s' behind => .inr ?_⟩
  obtain ⟨es, began, rfl⟩ := behind
  refine ⟨congrArg Except.ok Array.size_map.symm, es, began, ?_⟩
  simp only [addSink, exec_modifyGet, onJournal, masked, Array.map_push]

private theorem paired_addStopwatch (x : Stopwatch) :
    Paired m j₀ j (addStopwatch x) (addStopwatch (m.stopwatch x)) := by
  refine ⟨fun s => .of_journal rfl, fun s s' behind => .inr ?_⟩
  obtain ⟨es, began, rfl⟩ := behind
  refine ⟨congrArg Except.ok Array.size_map.symm, es, began, ?_⟩
  simp only [addStopwatch, exec_modifyGet, onJournal, masked, Array.map_push]

private theorem paired_addCounter (x : Counter) : Paired m j₀ j (addCounter x) (addCounter (m.counter x)) := by
  refine ⟨fun s => .of_journal rfl, fun s s' behind => .inr ?_⟩
  obtain ⟨es, began, rfl⟩ := behind
  refine ⟨congrArg Except.ok Array.size_map.symm, es, began, ?_⟩
  simp only [addCounter, exec_modifyGet, onJournal, masked, Array.map_push]

theorem paired_perform (a : Action) : Paired m j₀ j a.perform (a.performMasked m) := by
  cases a with
  | addSink => exact paired_addSink _
  | addStopwatch => exact paired_addStopwatch _
  | addCounter => exact paired_addCounter _
  | openRoster =>
    exact (paired_modifyGet (fun _ _ => rfl) fun _ _ => rfl).bind fun _ => (paired_hold _).bind fun _ =>
      paired_pure _
  | build p =>
    have same : (Action.build p).performMasked m = build p := rfl
    rw [same, Action.perform, build]
    split
    · exact paired_pure _
    · exact (paired_modifyGet (fun _ _ => rfl) fun _ _ => rfl).bind fun _ => (paired_hold _).bind fun _ => paired_pure _
  | move w move => exact paired_moveClock w move
  | lookup l topic => exact paired_lookup l topic
  | log l severity template args => exact (paired_lookup l _).bind fun t => paired_logThrough t severity args
  | logThrough t severity args => exact paired_logThrough t severity args
  | emit t args => exact paired_get_bind (fun _ => paired_logThrough t _ args) fun _ _ => rfl
  | attempt t => exact paired_attempt t
  | enrol r t => exact paired_enrol r t
  | flush r => exact paired_flush r
  | shutdown r => exact paired_shutdown r
  | fire r period => exact paired_get_bind (fun _ => paired_resetAll _) fun _ _ => rfl
  | guard r => exact paired_hold _
  | share l => exact paired_get_bind (fun _ => paired_hold _) fun _ _ => rfl
  | release h => exact paired_release h
  | resetTally l => exact paired_modify fun _ _ => rfl

theorem after_masked (s : System) (a : Action) : s.after (a.masked m) = ((a.performMasked m).exec s).2 := by
  cases a <;> rfl

end System

/-- An action goes well: no fault ends it, and no reset has failed when it is done. -/
def Action.Clean (s : System) (a : Action) : Prop := (a.perform.exec s).1.isOk = true ∧ ¬(s.after a).Troubled

instance (s : System) (a : Action) : Decidable (a.Clean s) := instDecidableAnd

namespace System
open Call
variable {hides : Prop} {m : Mask hides} {j₀ j : Array Entry} {s s' : System}

theorem Behind.after (behind : Behind m j₀ j s s') {a : Action} (clean : hides → a.Clean s) :
    Behind m j₀ j (s.after a) (s'.after (a.masked m)) := by
  rw [after_masked]
  obtain ⟨hidden, fails⟩ | ⟨_, behind⟩ := (paired_perform a).together s s' behind
  · obtain ⟨answered, calm⟩ := clean hidden
    obtain raised | troubled := fails
    · rw [answered] at raised
      cases raised
    · exact absurd troubled calm
  · exact behind

theorem Behind.run (behind : Behind m j₀ j s s') {as : List Action}
    (clean : hides → s.Along (fun s a => a.Clean s) as) :
    Behind m j₀ j (s.run as) (s'.run (as.map (Action.masked m))) := by
  induction as generalizing s s' with
  | nil => exact behind
  | cons a as ih => exact ih (behind.after fun hidden => (clean hidden).1) fun hidden => (clean hidden).2

section Journals
variable (s : System) (as : List Action)

private theorem masked_clear : s.masked .clear = s := by
  have same {α : Type} (xs : Array α) : xs.map (fun x => x) = xs := Array.map_id' xs
  obtain ⟨sinks, stopwatches, counters, rosters, loggers, throttles, holders, journal⟩ := s
  exact congr (congr (congrArg (System.mk · · · rosters loggers throttles holders journal) (same sinks))
    (same stopwatches)) (same counters)

private theorem action_masked_clear (a : Action) : a.masked .clear = a := by
  have same (args : List Argument) : args.map Mask.clear.shows = args := List.map_id' args
  cases a <;> simp only [Action.masked, same] <;> rfl

private theorem performMasked_clear (a : Action) : a.performMasked .clear = a.perform := by
  have same (args : List Argument) : args.map Mask.clear.shows = args := List.map_id' args
  cases a <;> simp only [Action.performMasked, Action.perform, same] <;> rfl

private theorem behind_onJournal (j : Array Entry) : Behind .clear s.journal j s (onJournal j s) :=
  ⟨#[], Array.append_empty.symm, by rw [masked_clear, Array.append_empty]⟩

/-- A run on another journal appends to it what it would have appended to its own. -/
theorem run_onJournal (j : Array Entry) : ∃ es, (s.run as).journal = s.journal ++ es ∧
    (onJournal j s).run as = onJournal (j ++ es) (s.run as) := by
  have unmasked : as.map (Action.masked .clear) = as := by
    simp only [funext action_masked_clear, List.map_id']
  have behind : Behind .clear s.journal j (s.run as) ((onJournal j s).run (as.map (Action.masked .clear))) :=
    (behind_onJournal s j).run False.elim
  obtain ⟨es, began, same⟩ := behind
  rw [unmasked, masked_clear] at same
  exact ⟨es, began, same⟩

/-- An answer does not hang on the journal. -/
theorem answer_onJournal (j : Array Entry) (a : Action) :
    (a.perform.exec (onJournal j s)).1 = (a.perform.exec s).1 := by
  have together := (paired_perform a).together s (onJournal j s) (behind_onJournal s j)
  rw [performMasked_clear] at together
  exact (together.resolve_left fun hidden => hidden.1).1.symm

end Journals
end System
end LogThrottle
