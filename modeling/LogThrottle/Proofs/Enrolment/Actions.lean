import LogThrottle.Proofs.Enrolment.Sound
import LogThrottle.Proofs.System.Runs

/-! Actions as chains of shifts. Only an enrolment with a roster that is not the throttle's own is
none; what it does is said apart. -/
namespace LogThrottle

/-- Throttles are enrolled with their own rosters only. -/
def Action.Domestic (s : System) : Action → Prop
  | .enrol r t => r = s.home t
  | _ => True

instance (s : System) : (a : Action) → Decidable (a.Domestic s)
  | .enrol r t => inferInstanceAs (Decidable (r = s.home t))
  | .addSink .. | .addStopwatch .. | .addCounter _ | .openRoster | .build _ | .move .. | .lookup ..
  | .log .. | .logThrough .. | .emit .. | .attempt _ | .flush _ | .shutdown _ | .fire .. | .guard _
  | .share _ | .release _ | .resetTally _ => isTrue trivial

namespace System
open Call

theorem fresh_of_plan {p : Plan} {x : Logger} (h : p.logger = .ok x) :
    x.roster = p.roster ∧ x.catalogue = {} ∧ x.tally = {} := by
  unfold Plan.logger at h
  split at h
  · cases h
  · split at h
    · obtain rfl := Except.ok.inj h
      exact ⟨rfl, rfl, rfl⟩
    · cases h

/-- Emitting is logging at the topic's own severity. -/
theorem after_emit (s : System) (t : ThrottleId) (args : List Argument) :
    s.after (.emit t args) = s.after (.logThrough t (s.throttle t).topic.voice args) := by
  rw [after, Action.perform, emit, exec_bind, exec_get, after, Action.perform]

/-- A throttle that is introduced is enrolled at once. -/
theorem introduce_outcome {l : LoggerId} {topic : Topic} {s : System} (h : Sound s)
    (made : l < s.loggers.size) (alive : s.alive (s.logger l).roster = true)
    (absent : (s.logger l).catalogue.find? topic = none) :
    ∃ s', (introduce l topic).exec s = (.ok s.throttles.size, s') ∧ Shift s s' ∧
      s.throttles.size < s'.throttles.size ∧ s'.Enrolled s.throttles.size := by
  obtain ⟨s', he, hw⟩ := introduce_exec absent
  have same := hw.steady_announced
  have home : s'.home s.throttles.size = (s.logger l).roster := by
    rw [same.home_eq, home_registered]
  refine ⟨_, he, .introduce made alive absent same, ?_, ?_⟩
  · rw [size_throttles_enrolled, same.throttles, size_throttles_registered]
    exact Nat.lt_succ_self _
  · have there : (s.logger l).roster < s'.rosters.size := by
      rw [same.rosters]
      exact h.alive_lt alive
    rw [Enrolled, home_enrolled, period_enrolled, home, mem_membersAt_enrolled]
    exact .inr ⟨⟨rfl, there⟩, rfl, rfl⟩

/-- A lookup fails before it has done anything to membership, finds a throttle and does nothing, or
makes one and enrols it. -/
theorem lookup_outcome {l : LoggerId} {s : System} (h : Sound s) (held : s.loggerHeld l)
    (topic : Topic) :
    (∃ f s', (lookup l topic).exec s = (.error f, s') ∧ Steady s s') ∨
    (∃ t, (lookup l topic).exec s = (.ok t, s) ∧ t < s.throttles.size) ∨
    ∃ s', (lookup l topic).exec s = (.ok s.throttles.size, s') ∧ Shifts s s' ∧
      s.throttles.size < s'.throttles.size ∧ s'.Enrolled s.throttles.size := by
  obtain ⟨made, alive⟩ := h.held held
  cases found : (s.logger l).catalogue.find? topic with
  | some t => exact .inr (.inl ⟨t, lookup_of_some found, (h.catalogue l topic t found).1⟩)
  | none =>
    rw [lookup_of_none found]
    split
    · rw [exec_bind]
      rcases overflow_outcome l s with ⟨f, s', he, same⟩ | ⟨s₁, s₂, s', he, same₁, same₂, same₃⟩
      · exact .inl ⟨f, s', by rw [he], same⟩
      · have path : Shifts s s' := .head (.steady same₁) (.head (.drain s₁ _)
          (.head (.steady same₂) (.head (.vacate s₂ l) same₃.shifts)))
        have throttles : s'.throttles.size = s.throttles.size :=
          same₃.throttles.trans (same₂.throttles.trans same₁.throttles)
        have loggers : s₂.loggers.size = s.loggers.size := same₂.loggers.trans same₁.loggers
        have holders : s'.holders = s.holders :=
          same₃.holders.trans (same₂.holders.trans same₁.holders)
        have roster : (s'.logger l).roster = (s.logger l).roster := by
          rw [same₃.logger_roster, logger_setCatalogue, if_pos ⟨rfl, loggers ▸ made⟩]
          exact (same₂.logger_roster l).trans (same₁.logger_roster l)
        have vacant : (s'.logger l).catalogue.find? topic = none := by
          rw [same₃.logger_catalogue, logger_setCatalogue, if_pos ⟨rfl, loggers ▸ made⟩]
          exact Catalogue.find?_cleared topic
        obtain ⟨s'', he', last, size, enrolled⟩ := introduce_outcome (h.shifts path)
          (by rw [same₃.loggers, size_loggers_setCatalogue, loggers]; exact made)
          (by rwa [System.alive, holders, roster]) vacant
        rw [throttles] at he' size enrolled
        rw [he]
        exact .inr (.inr ⟨s'', he', path.tail last, size, enrolled⟩)
    · obtain ⟨s', he, last, size, enrolled⟩ := introduce_outcome h made alive found
      exact .inr (.inr ⟨s', he, .single last, size, enrolled⟩)

theorem shifts_release {h : Holder} {s : System} (held : h ∈ s.holders) :
    Shifts s ((release h).exec s).2 := by
  have rest (s : System) : Shifts s ((do
      modify fun s => { s with holders := s.holders.erase h }
      unless (← get).alive h.roster do shutdown h.roster : Call Unit).exec s).2 := by
    simp only [exec_bind, exec_get, exec_modify]
    split
    · exact .single (.letGo s h)
    · exact .head (.letGo s h) (shifts_shutdown h.roster _)
  simp only [release, exec_bind, exec_get, held, if_true]
  split
  · obtain ⟨s', he, same⟩ := flush_outcome h.roster s
    rw [exec_bind, he]
    exact (Relation.ReflTransGen.head (.drain s h.roster) same.shifts).trans (rest s')
  · exact rest s

/-- Enrolling changes the one roster and the one stamp, whosever they are. -/
theorem after_enrol (s : System) (r : RosterId) (t : ThrottleId) :
    ∃ s', Steady s s' ∧ s.after (.enrol r t) = enrolled r t s' := by
  obtain ⟨s', he, hw⟩ := enrol_exec r t s
  refine ⟨s', hw.steady_announced, ?_⟩
  rw [after, Action.perform, he]

private theorem shifts_build {p : Plan} {s : System} (alive : s.alive p.roster = true) :
    Shifts s (s.after (.build p)) := by
  rw [after_build]
  cases hp : p.logger with
  | error e => exact .refl
  | ok x =>
    obtain ⟨hr, hc, _⟩ := fresh_of_plan hp
    have built : Shift s { s with
        loggers := s.loggers.push x
        holders := ⟨.logger s.loggers.size, x.roster⟩ :: s.holders } :=
      .build (by rw [hr]; exact alive) hc
    rw [hr] at built
    exact .single built

/-- What an action does to membership, an enrolment away from home apart. -/
theorem shifts_after {s : System} {a : Action} (h : Sound s) (ready : a.Ready s)
    (domestic : a.Domestic s) : Shifts s (s.after a) := by
  cases a with
  | addSink | addStopwatch | addCounter => exact Steady.shifts { Steady.refl s with }
  | openRoster => exact .single (.openRoster s)
  | build p => exact shifts_build ready.1
  | move w m =>
    rw [after_move]
    exact .single (.steady { Steady.refl s with })
  | lookup l topic =>
    rw [after, Action.perform]
    rcases lookup_outcome h ready topic with ⟨f, s', he, same⟩ | ⟨t, he, _⟩ | ⟨s', he, path, _⟩
    · rw [he]
      exact same.shifts
    · rw [he]
    · rw [he]
      exact path
  | log l severity template args =>
    rw [after, Action.perform, log, exec_bind]
    rcases lookup_outcome h ready { template } with
      ⟨f, s', he, same⟩ | ⟨t, he, made⟩ | ⟨s', he, path, made, _⟩
    · rw [he]
      exact same.shifts
    · rw [he]
      exact shifts_logThrough made severity args
    · rw [he]
      exact path.trans (shifts_logThrough made severity args)
  | logThrough t severity args => exact shifts_logThrough ready severity args
  | emit t args =>
    rw [after_emit]
    exact shifts_logThrough ready _ args
  | attempt t => exact (steady_attempt t s).shifts
  | enrol r t =>
    obtain rfl : r = s.home t := domestic
    obtain ⟨s', same, he⟩ := after_enrol s (s.home t) t
    rw [he]
    exact same.shifts_enrolled ready.2 ready.1
  | flush r => exact shifts_flush r s
  | shutdown r => exact shifts_shutdown r s
  | fire r period => exact (steady_resetAll _ s).shifts
  | guard r =>
    refine .single (.hold ready fun l hk => ?_)
    cases hk
  | share l =>
    obtain ⟨made, alive⟩ := h.held ready
    refine .single (.hold alive fun i hk => ?_)
    cases hk
    exact ⟨made, rfl⟩
  | release x => exact shifts_release ready
  | resetTally l => exact (steady_changeTally s l fun _ => {}).shifts

theorem Sound.after {s : System} {a : Action} (h : Sound s) (ready : a.Ready s) :
    Sound (s.after a) := by
  by_cases domestic : a.Domestic s
  · exact h.shifts (shifts_after h ready domestic)
  · cases a with
    | enrol r t =>
      obtain ⟨s', same, he⟩ := after_enrol s r t
      rw [he]
      exact (h.steady same).enrolled r t
    | _ => exact absurd trivial domestic

theorem Reachable.sound {s : System} (h : Reachable s) : Sound s := by
  induction h with
  | empty => exact .empty
  | after a _ ready ih => exact ih.after ready

theorem sound_run {as : List Action} (h : System.Feasible {} as) : Sound (System.run {} as) :=
  (reachable_run as .empty h).sound

end System
end LogThrottle
