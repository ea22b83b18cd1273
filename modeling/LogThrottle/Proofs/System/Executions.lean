import LogThrottle.Proofs.System.Written
import LogThrottle.System.Logging
import LogThrottle.System.Membership

/-! What the computations on membership leave behind. None but the overflow asks anything of the outside
before its own work is done, so each has one outcome. -/
namespace LogThrottle.System
open Call

/-- Making a slot with a reset job is announced. -/
def announcement (r : RosterId) (t : ThrottleId) (s : System) : List Entry :=
  if (s.roster r).schedules (s.period t) then [.notice .scheduling] else []

theorem eq_of_mem_announcement {r : RosterId} {t : ThrottleId} {s : System} {e : Entry}
    (member : e ∈ announcement r t s) : e = .notice .scheduling := by
  unfold announcement at member
  split at member
  · exact List.mem_singleton.mp member
  · cases member

theorem flushing_not_mem_announcement (r : RosterId) (t : ThrottleId) (s : System) :
    .notice .flushing ∉ announcement r t s := fun member => nomatch eq_of_mem_announcement member

theorem enrol_exec (r : RosterId) (t : ThrottleId) (s : System) :
    ∃ s', (enrol r t).exec s = (.ok (), enrolled r t s') ∧ Wrote (announcement r t s) s s' := by
  unfold announcement
  split
  · rename_i h
    refine ⟨write (.notice .scheduling) s, ?_, wrote_write _ s⟩
    rw [period] at h
    simp only [enrol, exec_bind, exec_get, exec_modify, h, if_true]
    rfl
  · rename_i h
    refine ⟨s, ?_, .refl s⟩
    rw [period] at h
    simp only [enrol, exec_bind, exec_get, h]
    rfl

/-- A throttle joins exactly if its stamp is of another epoch and its roster is alive. -/
theorem join_exec (t : ThrottleId) (s : System) :
    (join t).exec s =
      if (s.throttle t).stamp ≠ (s.roster (s.home t)).epoch ∧ s.alive (s.home t) = true then
        (enrol (s.home t) t).exec s
      else (.ok (), s) := by
  by_cases hs : (s.throttle t).stamp = (s.roster (s.home t)).epoch
  · rw [if_neg fun h => h.1 hs]
    rw [home] at hs
    simp only [join, exec_bind, exec_get, hs, ne_eq, not_true_eq_false, if_false, exec_pure]
  · by_cases ha : s.alive (s.home t) = true
    · rw [if_pos ⟨hs, ha⟩]
      rw [home] at hs ha
      simp only [join, exec_bind, exec_get, hs, ne_eq, not_false_eq_true, if_true, ha, home]
    · rw [if_neg fun h => ha h.2]
      rw [home] at hs ha
      simp only [join, exec_bind, exec_get, hs, ne_eq, not_false_eq_true, if_true, ha]
      rfl

/-- Joining changes nothing, or enrols a throttle whose stamp is of another epoch with its own roster,
which is alive. -/
inductive Joined (t : ThrottleId) (s : System) : System → Prop where
  | idle (current : (s.throttle t).stamp ≠ (s.roster (s.home t)).epoch → s.alive (s.home t) = false) :
      Joined t s s
  | enrolled {s' : System} (stale : (s.throttle t).stamp ≠ (s.roster (s.home t)).epoch)
      (alive : s.alive (s.home t) = true) (wrote : Wrote (announcement (s.home t) t s) s s') :
      Joined t s (enrolled (s.home t) t s')

/-- Joining never fails. -/
theorem join_outcome (t : ThrottleId) (s : System) :
    ∃ s', (join t).exec s = (.ok (), s') ∧ Joined t s s' := by
  rw [join_exec]
  split
  · rename_i h
    obtain ⟨s', he, hw⟩ := enrol_exec (s.home t) t s
    exact ⟨_, he, .enrolled h.1 h.2 hw⟩
  · rename_i h
    exact ⟨s, rfl, .idle fun stale => Bool.eq_false_iff.mpr fun alive => h ⟨stale, alive⟩⟩

namespace Joined
variable {t : ThrottleId} {s s' : System}

theorem holders (h : Joined t s s') : s'.holders = s.holders := by
  cases h with
  | idle => rfl
  | enrolled stale alive wrote => exact wrote.holders

theorem throttles (h : Joined t s s') : s'.throttles.size = s.throttles.size := by
  cases h with
  | idle => rfl
  | enrolled stale alive wrote => rw [size_throttles_enrolled, wrote.throttles]

theorem loggers (h : Joined t s s') : s'.loggers = s.loggers := by
  cases h with
  | idle => rfl
  | enrolled _ _ wrote => exact wrote.loggers

theorem throttle (h : Joined t s s') (u : ThrottleId) :
    { s'.throttle u with stamp := 0 } = { s.throttle u with stamp := 0 } := by
  cases h with
  | idle => rfl
  | enrolled _ _ wrote =>
    rw [throttle_enrolled, System.throttle, wrote.throttles]
    split <;> rfl

end Joined

/-- A reset that fails is reported, and a report that fails is noted. -/
theorem resetOrReport_ok (t : ThrottleId) (s : System) :
    ∃ s', (resetOrReport t).exec s = (.ok (), s') := by
  have reported (f : Fault) (s : System) : ∃ s', (reportFailure t f).exec s = (.ok (), s') := by
    simp only [reportFailure, exec_bind, exec_get, exec_tryCatch, exec_modify]
    rcases (deliver (.failure t) (s.logger (s.throttle t).logger).sink
      ⟨.warn, failureMessage (s.throttle t).topic f⟩).exec s with ⟨_ | _, s'⟩
    · exact ⟨_, rfl⟩
    · exact ⟨_, rfl⟩
  rw [resetOrReport, exec_tryCatch, exec_discard]
  rcases (reset t).exec s with ⟨f | _, s'⟩
  · exact reported f s'
  · exact ⟨s', rfl⟩

theorem resetAll_ok (ts : List ThrottleId) (s : System) :
    ∃ s', (resetAll ts).exec s = (.ok (), s') := by
  induction ts generalizing s with
  | nil => exact ⟨s, rfl⟩
  | cons t ts ih =>
    obtain ⟨s', he⟩ := resetOrReport_ok t s
    rw [resetAll, exec_bind, he]
    exact ih s'

theorem flush_exec (r : RosterId) (s : System) :
    (flush r).exec s = (resetAll (s.roster r).members).exec (drained r s) := by
  simp only [flush, exec_bind, exec_get, exec_modify, drained]

/-- The fault that the sink of a logger would raise on the warning of an overflow now, if any. -/
def refusal? (s : System) (l : LoggerId) : Option Fault :=
  (s.sink (s.logger l).sink).fault (s.sink (s.logger l).sink).calls ⟨.warn, overflowWarning⟩

/-- The warning of an overflow, after the notice of it. -/
def overflowEntries (s : System) (l : LoggerId) : List Entry :=
  [.notice .overflowed, .line (.overflow l) (s.logger l).sink ⟨.warn, overflowWarning⟩]

theorem overflow_refused {l : LoggerId} {s : System} {f : Fault} (refused : s.refusal? l = some f) :
    ∃ s', (overflow l).exec s = (.error f, s') ∧ Wrote [.notice .overflowed] s s' := by
  obtain ⟨s', he, wrote⟩ := deliver_fault (s := write (.notice .overflowed) s) (.overflow l) refused
  refine ⟨s', ?_, (wrote_write (.notice .overflowed) s).trans wrote⟩
  simp only [overflow, exec_bind, exec_get, exec_modify, he]

/-- Nothing fails after the warning. -/
theorem overflow_taken {l : LoggerId} {s : System} (taken : s.refusal? l = none) :
    ∃ s₁ s₂, Wrote (s.overflowEntries l) s s₁ ∧ (flush (s.logger l).roster).exec s₁ = (.ok (), s₂) ∧
      (overflow l).exec s = (.ok (), changeTally l Tally.countOverflow (setCatalogue l .cleared s₂)) := by
  obtain ⟨s₁, he, wrote⟩ := deliver_ok (s := write (.notice .overflowed) s) (.overflow l) taken
  obtain ⟨s₂, flushed⟩ := resetAll_ok (s₁.roster (s.logger l).roster).members (drained (s.logger l).roster s₁)
  rw [← flush_exec] at flushed
  refine ⟨s₁, s₂, (wrote_write (.notice .overflowed) s).trans wrote, flushed, ?_⟩
  simp only [overflow, exec_bind, exec_get, exec_modify, he, flushed]

/-- A topic that is not in the catalogue gets a throttle of its own, which is enrolled at once. -/
theorem introduce_exec {l : LoggerId} {topic : Topic} {s : System}
    (absent : (s.logger l).catalogue.find? topic = none) :
    ∃ s', (introduce l topic).exec s =
        (.ok s.throttles.size, enrolled (s.logger l).roster s.throttles.size s') ∧
      Wrote (announcement (s.logger l).roster s.throttles.size (registered l topic s))
        (registered l topic s) s' := by
  obtain ⟨s', he, hw⟩ :=
    enrol_exec (s.logger l).roster s.throttles.size (registered l topic s)
  refine ⟨s', ?_, hw⟩
  have kept : ((s.logger l).catalogue.insert topic s.throttles.size).2 =
      (s.throttles.size, true) := Catalogue.insert_of_none _ absent
  rw [registered] at he
  simp only [introduce, exec_bind, exec_get, exec_modify, kept, if_true, he, exec_pure]

section Lookup
variable {l : LoggerId} {topic : Topic} {s : System}

theorem lookup_of_some {t : ThrottleId} (found : (s.logger l).catalogue.find? topic = some t) :
    (lookup l topic).exec s = (.ok t, s) := by
  simp only [lookup, exec_bind, exec_get, found, exec_pure]

theorem lookup_of_none (absent : (s.logger l).catalogue.find? topic = none) :
    (lookup l topic).exec s =
      if (s.logger l).capacity < (s.logger l).catalogue.size then
        (overflow l >>= fun _ => introduce l topic).exec s
      else (introduce l topic).exec s := by
  simp only [lookup, exec_bind, exec_get, absent]
  split
  · rw [exec_bind]
  · rfl

end Lookup

end LogThrottle.System
