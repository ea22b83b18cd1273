import LogThrottle.Proofs.Enrolment.Steady
import LogThrottle.System.Reach

/-! What can happen to membership. Every action but an enrolment that a caller asks for is a chain of
few kinds of shifts, wherever a fault ends it; what survives each of them survives the action. -/
namespace LogThrottle.System
open Call

/-- One change of membership, of what decides it, or of nothing that does. -/
inductive Shift : System → System → Prop where
  | steady {s s' : System} (same : Steady s s') : Shift s s'
  | drain (s : System) (r : RosterId) : Shift s (drained r s)
  /-- A throttle joins its own roster. -/
  | join {s : System} {t : ThrottleId} (made : t < s.throttles.size)
      (alive : s.alive (s.home t) = true) : Shift s (enrolled (s.home t) t s)
  /-- A throttle is made and enrolled at once. -/
  | introduce {s s' : System} {l : LoggerId} {topic : Topic} (made : l < s.loggers.size)
      (alive : s.alive (s.logger l).roster = true)
      (absent : (s.logger l).catalogue.find? topic = none) (same : Steady (registered l topic s) s') :
      Shift s (enrolled (s.logger l).roster s.throttles.size s')
  | vacate (s : System) (l : LoggerId) : Shift s (setCatalogue l .cleared s)
  | close (s : System) (r : RosterId) : Shift s (changeRoster r Roster.close s)
  | cancelJobs (s : System) (r : RosterId) : Shift s (changeRoster r Roster.cancelJobs s)
  | hold {s : System} {h : Holder} (alive : s.alive h.roster = true)
      (client : ∀ l, h.kind = .logger l → l < s.loggers.size ∧ h.roster = (s.logger l).roster) :
      Shift s { s with holders := h :: s.holders }
  | letGo (s : System) (h : Holder) : Shift s { s with holders := s.holders.erase h }
  | openRoster (s : System) : Shift s { s with
      rosters := s.rosters.push {}, holders := ⟨.owner, s.rosters.size⟩ :: s.holders }
  | build {s : System} {x : Logger} (alive : s.alive x.roster = true) (fresh : x.catalogue = {}) :
      Shift s { s with
        loggers := s.loggers.push x
        holders := ⟨.logger s.loggers.size, x.roster⟩ :: s.holders }

abbrev Shifts : System → System → Prop := Relation.ReflTransGen Shift

theorem Wrote.steady_announced {r : RosterId} {t : ThrottleId} {s s' : System}
    (h : Wrote (announcement r t s) s s') : Steady s s' :=
  h.steady (flushing_not_mem_announcement r t s)

theorem Steady.shifts {s s' : System} (h : Steady s s') : Shifts s s' := .single (.steady h)

/-- A flush never fails. Its resets leave membership as the draining left it. -/
theorem flush_outcome (r : RosterId) (s : System) :
    ∃ s', (flush r).exec s = (.ok (), s') ∧ Steady (drained r s) s' := by
  have same := steady_resetAll (s.roster r).members (drained r s)
  obtain ⟨s', he⟩ := resetAll_ok (s.roster r).members (drained r s)
  rw [he] at same
  exact ⟨s', by rw [flush_exec, he], same⟩

theorem shifts_flush (r : RosterId) (s : System) : Shifts s ((flush r).exec s).2 := by
  obtain ⟨s', he, same⟩ := flush_outcome r s
  rw [he]
  exact .head (.drain s r) same.shifts

theorem shifts_shutdown (r : RosterId) (s : System) : Shifts s ((shutdown r).exec s).2 := by
  simp only [shutdown, exec_bind, exec_get]
  split
  · exact .refl
  · obtain ⟨s', he, same⟩ := flush_outcome r (changeRoster r Roster.close s)
    simp only [exec_bind, exec_modify, he]
    exact .head (.close s r) (.head (.drain _ r) (same.shifts.tail (.cancelJobs s' r)))

theorem Steady.shifts_enrolled {s s' : System} {t : ThrottleId} (same : Steady s s')
    (made : t < s.throttles.size) (alive : s.alive (s.home t) = true) :
    Shifts s (enrolled (s.home t) t s') := by
  have joined : Shift s' (enrolled (s'.home t) t s') :=
    .join (by rwa [same.throttles]) (by rwa [same.home_eq, same.alive_eq])
  rw [same.home_eq] at joined
  exact .head (.steady same) (.single joined)

namespace Joined
variable {t : ThrottleId} {s s' : System}

theorem shifts (h : Joined t s s') (made : t < s.throttles.size) : Shifts s s' := by
  cases h with
  | idle => exact .refl
  | enrolled stale alive wrote => exact wrote.steady_announced.shifts_enrolled made alive

theorem home_eq (h : Joined t s s') (u : ThrottleId) : s'.home u = s.home u := by
  cases h with
  | idle => rfl
  | enrolled stale alive wrote => rw [home_enrolled, wrote.steady_announced.home_eq]

end Joined

theorem shifts_logThrough {t : ThrottleId} {s : System} (made : t < s.throttles.size)
    (severity : Severity) (args : List Argument) :
    Shifts s ((logThrough t severity args).exec s).2 := by
  obtain ⟨s', he, joined⟩ := join_outcome t s
  exact (joined.shifts made).tail (.steady (steady_logThrough severity args he))

/-- An overflow that fails has changed nothing; otherwise the logger's roster is drained and its
catalogue empty. -/
theorem overflow_outcome (l : LoggerId) (s : System) :
    (∃ f s', (overflow l).exec s = (.error f, s') ∧ Steady s s') ∨
    ∃ s₁ s₂ s', (overflow l).exec s = (.ok (), s') ∧ Steady s s₁ ∧
      Steady (drained (s.logger l).roster s₁) s₂ ∧ Steady (setCatalogue l .cleared s₂) s' := by
  cases answer : s.refusal? l with
  | some f =>
    obtain ⟨s', he, wrote⟩ := overflow_refused answer
    exact .inl ⟨f, s', he, wrote.steady (by simp)⟩
  | none =>
    obtain ⟨s₁, s₂, warned, flushed, he⟩ := overflow_taken answer
    obtain ⟨s₃, flushed', same⟩ := flush_outcome (s.logger l).roster s₁
    cases flushed'.symm.trans flushed
    exact .inr ⟨s₁, s₂, _, he, warned.steady (by simp [overflowEntries]), same,
      steady_changeTally _ l Tally.countOverflow⟩

/-- A catalogue without a topic is without it after an overflow too. -/
theorem absent_overflow {l : LoggerId} {topic : Topic} {s s' : System}
    (absent : (s.logger l).catalogue.find? topic = none) (he : (overflow l).exec s = (.ok (), s')) :
    (s'.logger l).catalogue.find? topic = none := by
  rcases overflow_outcome l s with ⟨f, s₀, failed, _⟩ | ⟨s₁, s₂, s₃, done, same₁, same₂, same₃⟩
  · cases failed.symm.trans he
  · cases done.symm.trans he
    rw [same₃.logger_catalogue, logger_setCatalogue]
    split
    · exact Catalogue.find?_cleared topic
    · rw [same₂.logger_catalogue]
      exact (congrArg (Catalogue.find? · topic) (same₁.logger_catalogue l)).trans absent

end LogThrottle.System
