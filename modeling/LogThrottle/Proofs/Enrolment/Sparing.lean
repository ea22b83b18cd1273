import LogThrottle.Proofs.Enrolment.Alignment
import LogThrottle.Proofs.System.Clearing
import LogThrottle.Proofs.System.Composites

/-! Who keeps events, and where. Only attempts add events; whatever else is done leaves a limiter as it
was or clears it, and who is not cleared stays as enrolled as before, wherever a fault ends it. -/
namespace LogThrottle.System
open Call

/-- Limiters are as they were or cleared, and throttles not cleared are still enrolled if they were; a
roster whose epoch is another has cleared all that were enrolled. No roster comes back to life.
Throttles of `T` may have changed in any way. -/
structure Spares (T : ThrottleId → Prop) (s s' : System) : Prop where
  throttles : s.throttles.size ≤ s'.throttles.size
  rosters : s.rosters.size ≤ s'.rosters.size
  alive : ∀ r < s.rosters.size, s'.alive r = true → s.alive r = true
  home : ∀ t < s.throttles.size, s'.home t = s.home t
  limiter : ∀ t, ¬T t → (s'.throttle t).limiter ≠ .cleared →
    (s'.throttle t).limiter = (s.throttle t).limiter
  enrolled : ∀ t < s.throttles.size, ¬T t → (s'.throttle t).limiter ≠ .cleared →
    s.Enrolled t → s'.Enrolled t
  swept : ∀ t < s.throttles.size, ¬T t → (s'.roster (s.home t)).epoch ≠ (s.roster (s.home t)).epoch →
    s.Enrolled t → (s'.throttle t).limiter = .cleared

/-- What is read alike is spared. -/
theorem Alike.spares {T : ThrottleId → Prop} {s s' : System} (h : Alike s s')
    (rosters : s.rosters.size ≤ s'.rosters.size)
    (alive : ∀ r < s.rosters.size, s'.alive r = true → s.alive r = true)
    (limiter : ∀ t, ¬T t → (s'.throttle t).limiter ≠ .cleared →
      (s'.throttle t).limiter = (s.throttle t).limiter) : Spares T s s' where
  throttles := h.size
  rosters := rosters
  alive := alive
  home := h.home
  limiter := limiter
  enrolled _ ht _ _ := (h.enrolled_iff ht).mpr
  swept _ _ _ moved := absurd (h.epoch _) moved

namespace Spares
variable {T : ThrottleId → Prop} {s s' s'' : System}

theorem refl (T : ThrottleId → Prop) (s : System) : Spares T s s :=
  (Alike.refl s).spares (Nat.le_refl _) (fun _ _ => id) fun _ _ _ => rfl

theorem trans (h : Spares T s s') (h' : Spares T s' s'') : Spares T s s'' where
  throttles := Nat.le_trans h.throttles h'.throttles
  rosters := Nat.le_trans h.rosters h'.rosters
  alive r hr e := h.alive r hr (h'.alive r (Nat.lt_of_lt_of_le hr h.rosters) e)
  home t ht := (h'.home t (Nat.lt_of_lt_of_le ht h.throttles)).trans (h.home t ht)
  limiter t out left := by
    have last := h'.limiter t out left
    exact last.trans (h.limiter t out (last ▸ left))
  enrolled t ht out left e :=
    h'.enrolled t (Nat.lt_of_lt_of_le ht h.throttles) out left
      (h.enrolled t ht out (h'.limiter t out left ▸ left) e)
  swept t ht out moved e := by
    apply Classical.byContradiction
    intro left
    have last := h'.limiter t out left
    by_cases first : (s'.roster (s.home t)).epoch = (s.roster (s.home t)).epoch
    · have still := h.enrolled t ht out (last ▸ left) e
      refine left (h'.swept t (Nat.lt_of_lt_of_le ht h.throttles) out ?_ still)
      rw [h.home t ht, first]
      exact moved
    · exact left (last.trans (h.swept t ht out first e))

/-- What leaves membership and limiters alone. -/
theorem steady (same : Steady s s') (limiter : s'.throttles = s.throttles) : Spares T s s' :=
  same.alike.spares (Nat.le_of_eq (congrArg Array.size same.rosters.symm))
    (fun r _ alive => by rwa [same.alive_eq] at alive) fun t _ _ => by rw [throttle, limiter, throttle]

theorem setLimiter (s : System) (t : ThrottleId) {x : Limiter} (touched : T t ∨ x = .cleared) :
    Spares T s (setLimiter t x s) := by
  refine (steady_setLimiter s t x).alike.spares (Nat.le_refl _) (fun _ _ => id) fun u out left => ?_
  rw [throttle_setLimiter] at left ⊢
  split
  · rename_i hu
    rw [if_pos hu] at left
    rcases touched with touched | rfl
    · exact absurd (hu.1 ▸ touched) out
    · exact absurd rfl left
  · rfl

theorem changeRoster (s : System) (r : RosterId) {f : Roster → Roster}
    (epoch : ∀ x, (f x).epoch = x.epoch) (members : ∀ x p, (f x).membersAt p = x.membersAt p) :
    Spares T s (changeRoster r f s) :=
  (Alike.changeRoster s r epoch members).spares (Nat.le_of_eq (size_rosters_changeRoster ..).symm)
    (fun _ _ => id) fun _ _ _ => rfl

theorem setCatalogue (s : System) (l : LoggerId) (c : Catalogue) : Spares T s (setCatalogue l c s) :=
  (Alike.setCatalogue s l c).spares (Nat.le_refl _) (fun _ _ => id) fun _ _ _ => rfl

theorem pushThrottle (s : System) (topic : Topic) (l : LoggerId) :
    Spares T s { s with throttles := s.throttles.push { topic, logger := l } } := by
  have read (t : ThrottleId) : (s.throttles.push { topic, logger := l }).getD t default =
      if t = s.throttles.size then { topic, logger := l } else s.throttle t := getD_push ..
  have old (t : ThrottleId) (ht : t < s.throttles.size) :
      (s.throttles.push { topic, logger := l }).getD t default = s.throttle t := by
    rw [read, if_neg (Nat.ne_of_lt ht)]
  have alike : Alike s { s with throttles := s.throttles.push { topic, logger := l } } := {
    Alike.refl s with
    size := by rw [Array.size_push]; exact Nat.le_succ _
    stamp := fun t ht => congrArg Throttle.stamp (old t ht)
    home := fun t ht => congrArg (fun x : Throttle => (s.logger x.logger).roster) (old t ht)
    period := fun t ht => congrArg (fun x : Throttle => (s.logger x.logger).quota.period) (old t ht) }
  refine alike.spares (Nat.le_refl _) (fun _ _ => id) fun t _ left => ?_
  rw [throttle, read] at left ⊢
  split
  · rename_i new
    rw [if_pos new] at left
    exact absurd rfl left
  · rfl

/-- Enrolling takes nobody out. -/
theorem enrolled_of (s : System) (r : RosterId) (t : ThrottleId) : Spares T s (System.enrolled r t s) where
  throttles := Nat.le_of_eq (size_throttles_enrolled ..).symm
  rosters := Nat.le_of_eq (size_rosters_enrolled ..).symm
  alive _ _ := id
  home u _ := home_enrolled ..
  limiter u _ _ := by
    rw [throttle_enrolled]
    split <;> rfl
  enrolled u _ _ _ e := by
    rw [Enrolled, home_enrolled, period_enrolled, mem_membersAt_enrolled]
    exact .inl e
  swept u _ _ moved := absurd (epoch_enrolled ..) moved

end Spares

private theorem frame_spares (T : ThrottleId → Prop) : Frame (· ≠ .notice .flushing) (Spares T) where
  refl := .refl T
  trans h h' := h.trans h'
  wrote quiet wrote := .steady (resetting_steady.wrote quiet wrote) wrote.throttles
  asked s _ _ := .steady { Steady.refl s with } rfl

section Computations
variable {T : ThrottleId → Prop}

/-- A flush clears all that were enrolled. -/
theorem spares_flush (r : RosterId) : Keeps (Spares T) (flush r) := by
  intro s
  obtain ⟨s', he, same⟩ := flush_outcome r s
  have limiter (u : ThrottleId) := limiter_flush r s u
  have flushed : s.after (.flush r) = ((flush r).exec s).2 := rfl
  rw [flushed, he] at limiter
  rw [he]
  have stays (t : ThrottleId) (left : (s'.throttle t).limiter ≠ .cleared)
      (ht : t < s.throttles.size) : t ∉ (s.roster r).members := fun member =>
    left ((limiter t).trans (if_pos ⟨member, ht⟩))
  have home (t : ThrottleId) : s'.home t = s.home t := same.home_eq t
  have elsewhere (t : ThrottleId) (other : r ≠ s.home t) : s'.roster (s.home t) = s.roster (s.home t) := by
    rw [same.roster_eq, roster_drained, if_neg fun e => other e.1]
  refine ⟨?_, ?_, ?_, fun t _ => home t, fun t _ left => ?_, fun t ht _ left e => ?_,
    fun t ht _ moved e => ?_⟩
  · exact Nat.le_of_eq same.throttles.symm
  · exact Nat.le_of_eq (by rw [same.rosters, size_rosters_drained])
  · intro i _ alive
    rwa [same.alive_eq] at alive
  · rw [limiter] at left ⊢
    split
    · rename_i member
      rw [if_pos member] at left
      exact absurd rfl left
    · rfl
  · have other : r ≠ s.home t := by
      rintro rfl
      exact stays t left ht (Roster.mem_members.mpr ⟨_, e⟩)
    rw [Enrolled, home, same.period_eq, elsewhere t other]
    exact e
  · have own : r = s.home t := Classical.byContradiction fun other =>
      moved (congrArg Roster.epoch (elsewhere t other))
    rw [limiter, if_pos ⟨own ▸ Roster.mem_members.mpr ⟨_, e⟩, ht⟩]

theorem spares_enrol (r : RosterId) (t : ThrottleId) : Keeps (Spares T) (enrol r t) := by
  intro s
  obtain ⟨s', he, hw⟩ := enrol_exec r t s
  rw [he]
  exact (Spares.steady hw.steady_announced hw.throttles).trans
    (.enrolled_of s' r t)

theorem lasting_spares : Lasting (Spares T) where
  toChain := (frame_spares T).toChain
  overflowed s := .steady ((wrote_write _ s).steady (by simp)) rfl
  warn _ _ _ := (frame_spares T).deliver (by simp)
  flush := spares_flush
  enrol := spares_enrol
  push := .pushThrottle
  setCatalogue := .setCatalogue
  countOverflow s l := .steady (steady_changeTally s l _) rfl
  close s r := .changeRoster s r (fun _ => rfl) fun _ _ => rfl
  cancelJobs s r := .changeRoster s r (fun _ => rfl) Roster.membersAt_cancelJobs
  letGo s h := by
    refine Alike.spares { Alike.refl s with } (Nat.le_refl _) (fun r _ alive => ?_) fun _ _ _ => rfl
    obtain ⟨x, hx, hr⟩ := alive_iff.mp alive
    exact alive_iff.mpr ⟨x, List.mem_of_mem_erase hx, hr⟩

/-- Holding what is alive already. -/
theorem Spares.hold {s : System} {x : Holder} (alive : s.alive x.roster = true) :
    Spares T s { s with holders := x :: s.holders } := by
  refine Alike.spares { Alike.refl s with } (Nat.le_refl _) (fun r _ held => ?_) fun _ _ _ => rfl
  obtain ⟨y, hy, hr⟩ := alive_iff.mp held
  rcases List.mem_cons.mp hy with rfl | hy
  · exact hr ▸ alive
  · exact alive_iff.mpr ⟨y, hy, hr⟩

/-- An attempt touches its own limiter. -/
private theorem judging_spares {t : ThrottleId} (touched : T t) : Judging t (· ≠ .notice .flushing) (Spares T) where
  toFrame := frame_spares T
  touch s _ := .setLimiter s t (.inl touched)
  event _ _ := by simp
  countAllowed s l := .steady (steady_changeTally s l _) rfl
  countSuppressed s l := .steady (steady_changeTally s l _) rfl

theorem spares_logThrough {t : ThrottleId} (touched : T t) (severity : Severity)
    (args : List Argument) : Keeps (Spares T) (logThrough t severity args) :=
  (judging_spares touched).logThrough severity args ((frame_spares T).join fun r => spares_enrol r t)

end Computations
end LogThrottle.System
