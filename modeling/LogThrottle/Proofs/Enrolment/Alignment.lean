import LogThrottle.Proofs.Enrolment.Actions

/-! Stamps beside membership. A flush begins an epoch that no stamp bears yet and empties the slots,
and an enrolment fills a slot and stamps: a throttle bears the epoch of its own roster exactly while it
is a member there, unless another roster stamped it. -/
namespace LogThrottle

/-- Where each member is in the slot for its own period, none is a member twice. In two slots it would have two
periods. -/
theorem Roster.nodup_members_of_filed {r : Roster} {period : ThrottleId → Duration}
    (filed : ∀ p, ∀ t ∈ r.membersAt p, p = period t) : r.members.Nodup := by
  rw [members, List.nodup_flatMap]
  refine ⟨fun slot _ => slot.members.nodup_keys, ?_⟩
  have keys : r.slots.entries.Pairwise fun e f => e.1 ≠ f.1 := List.pairwise_map.mp r.slots.distinct
  refine List.pairwise_map.mpr (keys.imp_of_mem fun {e f} he hf apart => ?_)
  intro t te tf
  have at_key {e : Duration × Slot} (he : e ∈ r.slots.entries) (te : t ∈ e.2.members.keys) : e.1 = period t :=
    filed e.1 t (mem_membersAt.mpr ⟨e.2, Store.mem_entries_iff.mp he, te⟩)
  exact apart ((at_key he te).trans (at_key hf tf).symm)

namespace System

/-- For throttles that were there before, what decides membership reads the same. -/
structure Alike (s s' : System) : Prop where
  flushes : s'.flushes = s.flushes
  size : s.throttles.size ≤ s'.throttles.size
  stamp : ∀ t < s.throttles.size, (s'.throttle t).stamp = (s.throttle t).stamp
  home : ∀ t < s.throttles.size, s'.home t = s.home t
  period : ∀ t < s.throttles.size, s'.period t = s.period t
  epoch : ∀ r, (s'.roster r).epoch = (s.roster r).epoch
  membersAt : ∀ r p, (s'.roster r).membersAt p = (s.roster r).membersAt p

namespace Alike
variable {s s' s'' : System}

theorem refl (s : System) : Alike s s :=
  ⟨rfl, Nat.le_refl _, fun _ _ => rfl, fun _ _ => rfl, fun _ _ => rfl, fun _ => rfl, fun _ _ => rfl⟩

theorem trans (h : Alike s s') (h' : Alike s' s'') : Alike s s'' where
  flushes := h'.flushes.trans h.flushes
  size := Nat.le_trans h.size h'.size
  stamp t ht := (h'.stamp t (Nat.lt_of_lt_of_le ht h.size)).trans (h.stamp t ht)
  home t ht := (h'.home t (Nat.lt_of_lt_of_le ht h.size)).trans (h.home t ht)
  period t ht := (h'.period t (Nat.lt_of_lt_of_le ht h.size)).trans (h.period t ht)
  epoch r := (h'.epoch r).trans (h.epoch r)
  membersAt r p := (h'.membersAt r p).trans (h.membersAt r p)

theorem enrolled_iff (h : Alike s s') {t : ThrottleId} (ht : t < s.throttles.size) :
    s'.Enrolled t ↔ s.Enrolled t := by
  rw [Enrolled, h.home t ht, h.period t ht, h.membersAt, Enrolled]

theorem changeRoster (s : System) (r : RosterId) {f : Roster → Roster}
    (epoch : ∀ x, (f x).epoch = x.epoch) (members : ∀ x p, (f x).membersAt p = x.membersAt p) :
    Alike s (changeRoster r f s) := by
  refine { refl s with epoch := fun i => ?_, membersAt := fun i p => ?_ }
  · rw [roster_changeRoster]
    split
    · exact epoch _
    · rfl
  · rw [roster_changeRoster]
    split
    · exact members _ p
    · rfl

theorem setCatalogue (s : System) (l : LoggerId) (c : Catalogue) : Alike s (setCatalogue l c s) := by
  have kept (i : LoggerId) : ((System.setCatalogue l c s).logger i).roster = (s.logger i).roster ∧
      ((System.setCatalogue l c s).logger i).quota = (s.logger i).quota := by
    rw [logger_setCatalogue]
    split <;> exact ⟨rfl, rfl⟩
  exact { refl s with
    home := fun t _ => (kept (s.throttle t).logger).1
    period := fun t _ => congrArg Quota.period (kept (s.throttle t).logger).2 }

theorem registered (s : System) (l : LoggerId) (topic : Topic) : Alike s (registered l topic s) := by
  have old (t : ThrottleId) (ht : t < s.throttles.size) :
      (System.registered l topic s).throttle t = s.throttle t := by
    rw [throttle_registered, if_neg (Nat.ne_of_lt ht)]
  have kept (i : LoggerId) : ((System.registered l topic s).logger i).roster = (s.logger i).roster ∧
      ((System.registered l topic s).logger i).quota = (s.logger i).quota := by
    rw [logger_registered]
    split <;> exact ⟨rfl, rfl⟩
  refine { refl s with size := ?_, stamp := fun t ht => ?_, home := fun t ht => ?_, period := fun t ht => ?_ }
  · rw [size_throttles_registered]
    exact Nat.le_succ _
  · rw [old t ht]
  · rw [System.home, old t ht, (kept _).1, System.home]
  · rw [System.period, old t ht, (kept _).2, System.period]

theorem openRoster (s : System) : Alike s { s with
    rosters := s.rosters.push {}, holders := ⟨.owner, s.rosters.size⟩ :: s.holders } := by
  have same (i : RosterId) : (s.rosters.push {}).getD i default = s.roster i := by
    rw [getD_push]
    split
    · rename_i hi
      exact (getD_of_size_le (Nat.le_of_eq hi.symm) _).symm
    · rfl
  exact { refl s with
    epoch := fun i => congrArg Roster.epoch (same i)
    membersAt := fun i p => congrArg (Roster.membersAt · p) (same i) }

theorem build {s : System} (sound : Sound s) (x : Logger) : Alike s { s with
    loggers := s.loggers.push x, holders := ⟨.logger s.loggers.size, x.roster⟩ :: s.holders } := by
  have same (t : ThrottleId) (ht : t < s.throttles.size) :
      (s.loggers.push x).getD (s.throttle t).logger default = s.logger (s.throttle t).logger := by
    rw [getD_push, if_neg (Nat.ne_of_lt (sound.throttle t ht))]
    rfl
  exact { refl s with
    home := fun t ht => congrArg Logger.roster (same t ht)
    period := fun t ht => congrArg (fun y => y.quota.period) (same t ht) }

end Alike

theorem Steady.alike {s s' : System} (h : Steady s s') : Alike s s' where
  flushes := h.flushes
  size := Nat.le_of_eq h.throttles.symm
  stamp t _ := h.stamp_eq t
  home t _ := h.home_eq t
  period t _ := h.period_eq t
  epoch r := by rw [h.roster_eq]
  membersAt r p := by rw [h.roster_eq]

theorem flushes_drained (s : System) (r : RosterId) : (drained r s).flushes = s.flushes + 1 := by
  simp [flushes, drained, write, changeRoster]

/-- Flushes are never forgotten. -/
theorem Shift.flushes_le {s s' : System} (moved : Shift s s') : s.flushes ≤ s'.flushes := by
  cases moved with
  | steady same => exact Nat.le_of_eq same.flushes.symm
  | drain r =>
    rw [flushes_drained]
    exact Nat.le_succ _
  | introduce made alive absent same => exact Nat.le_of_eq same.flushes.symm
  | _ => exact Nat.le_refl _

theorem Shifts.flushes_le {s s' : System} (path : Shifts s s') : s.flushes ≤ s'.flushes := by
  induction path with
  | refl => exact Nat.le_refl _
  | tail _ last ih => exact Nat.le_trans ih last.flushes_le

/-- Every member exists and is in the slot for its own period. -/
def Filed (s : System) : Prop :=
  ∀ r p, ∀ t ∈ (s.roster r).membersAt p, t < s.throttles.size ∧ p = s.period t

/-- No throttle is a member twice. -/
theorem Filed.nodup_members {s : System} (h : Filed s) (r : RosterId) : (s.roster r).members.Nodup :=
  Roster.nodup_members_of_filed fun p t member => (h r p t member).2

/-- A stamp from abroad says nothing; any other is of the present epoch exactly for members, and of
a past one otherwise. -/
def InStep (abroad : ThrottleId → UInt64 → Prop) (s : System) (t : ThrottleId) : Prop :=
  abroad t (s.throttle t).stamp ∨
    (s.throttle t).stamp.toNat ≤ (s.roster (s.home t)).epoch.toNat ∧
      ((s.throttle t).stamp = (s.roster (s.home t)).epoch ↔ s.Enrolled t)

/-- Stamps agree with membership. `abroad` holds of the throttles and epochs of enrolments with
rosters that are not the throttle's own. -/
structure Aligned (abroad : ThrottleId → UInt64 → Prop) (s : System) : Prop where
  epoch : ∀ r, (s.roster r).epoch.toNat ≤ s.flushes
  stamp : ∀ t < s.throttles.size, InStep abroad s t
  member : ∀ r p, ∀ t ∈ (s.roster r).membersAt p,
    t < s.throttles.size ∧ p = s.period t ∧ (r = s.home t ∨ ∃ e, abroad t e)

namespace Aligned
variable {abroad abroad' : ThrottleId → UInt64 → Prop} {s s' : System}

theorem empty (abroad : ThrottleId → UInt64 → Prop) : Aligned abroad {} where
  epoch _ := Nat.zero_le _
  stamp t ht := absurd ht (Nat.not_lt_zero t)
  member _ _ _ h := absurd h List.not_mem_nil

/-- A throttle that was not stamped abroad is not stranded. -/
theorem enrolled_of_stamp (h : Aligned abroad s) {t : ThrottleId} (made : t < s.throttles.size)
    (home : ¬abroad t (s.throttle t).stamp) :
    (s.throttle t).stamp = (s.roster (s.home t)).epoch ↔ s.Enrolled t :=
  (h.stamp t made).elim (fun foreign => absurd foreign home) fun agree => agree.2

theorem filed (h : Aligned abroad s) : Filed s := fun r p t ht =>
  ⟨(h.member r p t ht).1, (h.member r p t ht).2.1⟩

theorem nodup_members (h : Aligned abroad s) (r : RosterId) : (s.roster r).members.Nodup :=
  h.filed.nodup_members r

theorem wider (h : Aligned abroad s) (wider : ∀ t e, abroad t e → abroad' t e) :
    Aligned abroad' s where
  epoch := h.epoch
  stamp t ht := (h.stamp t ht).imp (wider t _) id
  member r p t ht := by
    obtain ⟨made, hp, hr⟩ := h.member r p t ht
    exact ⟨made, hp, hr.imp id (Exists.imp (wider t))⟩

theorem inStep_alike (same : Alike s s') {t : ThrottleId} (ht : t < s.throttles.size)
    (h : InStep abroad s t) : InStep abroad s' t := by
  rw [InStep, same.stamp t ht, same.home t ht, same.epoch, same.enrolled_iff ht]
  exact h

theorem alike (h : Aligned abroad s) (same : Alike s s')
    (size : s'.throttles.size = s.throttles.size) : Aligned abroad s' where
  epoch r := by
    rw [same.epoch, same.flushes]
    exact h.epoch r
  stamp t ht := by
    rw [size] at ht
    exact inStep_alike same ht (h.stamp t ht)
  member r p t ht := by
    rw [same.membersAt] at ht
    obtain ⟨made, hp, hr⟩ := h.member r p t ht
    rw [size, same.home t made, same.period t made]
    exact ⟨made, hp, hr⟩

theorem drained (h : Aligned abroad s) (r : RosterId) (few : s.flushes + 1 < 2 ^ 64) :
    Aligned abroad (drained r s) := by
  have flushed := flushes_drained s r
  have next (i : RosterId) : ((s.roster i).epoch + 1).toNat = (s.roster i).epoch.toNat + 1 := by
    rw [UInt64.toNat_add]
    exact Nat.mod_eq_of_lt (Nat.lt_of_le_of_lt (Nat.succ_le_succ (h.epoch i)) few)
  refine ⟨fun i => ?_, fun t ht => ?_, fun i p t ht => ?_⟩
  · rw [flushed, roster_drained]
    split
    · exact Nat.le_trans (Nat.le_of_eq (next i)) (Nat.succ_le_succ (h.epoch i))
    · exact Nat.le_succ_of_le (h.epoch i)
  · have home : (System.drained r s).home t = s.home t := rfl
    have period : (System.drained r s).period t = s.period t := rfl
    have stamp : (System.drained r s).throttle t = s.throttle t := rfl
    rcases h.stamp t ht with foreign | ⟨le, agree⟩
    · exact .inl foreign
    · refine .inr ?_
      rw [Enrolled, home, period, stamp, roster_drained]
      split
      · -- every stamp that was not from abroad is now of the past
        have past : (s.throttle t).stamp.toNat < ((s.roster (s.home t)).drain).epoch.toNat :=
          Nat.lt_of_lt_of_eq (Nat.lt_succ_of_le le) (next _).symm
        refine ⟨Nat.le_of_lt past, fun same => ?_, fun member => ?_⟩
        · exact absurd (congrArg UInt64.toNat same) (Nat.ne_of_lt past)
        · rw [Roster.membersAt_drain] at member
          exact absurd member List.not_mem_nil
      · exact ⟨le, agree⟩
  · rw [roster_drained] at ht
    split at ht
    · rw [Roster.membersAt_drain] at ht
      exact absurd ht List.not_mem_nil
    · exact h.member i p t ht

/-- An enrolment brings the one throttle in step, or is from abroad. -/
theorem enrolled (h : Aligned abroad s) (same : Alike s s') {r : RosterId} {t : ThrottleId}
    (wider : ∀ u e, abroad u e → abroad' u e) (made : t < s'.throttles.size)
    (others : ∀ u < s'.throttles.size, u ≠ t → u < s.throttles.size) (there : r < s'.rosters.size)
    (known : r = s'.home t ∨ abroad' t (s'.roster r).epoch) :
    Aligned abroad' (enrolled r t s') := by
  refine ⟨fun i => ?_, fun u hu => ?_, fun i p u hu => ?_⟩
  · have flushed : (System.enrolled r t s').flushes = s.flushes := same.flushes
    rw [epoch_enrolled, same.epoch, flushed]
    exact h.epoch i
  · rw [size_throttles_enrolled] at hu
    rw [InStep, Enrolled, home_enrolled, period_enrolled, epoch_enrolled, throttle_enrolled,
      mem_membersAt_enrolled]
    by_cases hut : u = t
    · subst hut
      rw [if_pos ⟨rfl, hu⟩]
      rcases known with rfl | foreign
      · exact .inr ⟨Nat.le_refl _, fun _ => .inr ⟨⟨rfl, there⟩, rfl, rfl⟩, fun _ => rfl⟩
      · exact .inl foreign
    · have htu : ¬(t = u ∧ u < s'.throttles.size) := fun e => hut e.1.symm
      rw [if_neg htu]
      rcases inStep_alike same (others u hu hut) (h.stamp u (others u hu hut)) with foreign | ⟨le, agree⟩
      · exact .inl (wider _ _ foreign)
      · exact .inr ⟨le, agree.trans ⟨.inl, fun e => e.elim id fun e => absurd e.2.2 hut⟩⟩
  · rw [size_throttles_enrolled, home_enrolled, period_enrolled]
    rcases (mem_membersAt_enrolled s' r i t u p).mp hu with old | ⟨⟨rfl, _⟩, rfl, rfl⟩
    · rw [same.membersAt] at old
      obtain ⟨hu, hp, hr⟩ := h.member i p u old
      rw [same.home u hu, same.period u hu]
      exact ⟨Nat.lt_of_lt_of_le hu same.size, hp, hr.imp id (Exists.imp (wider u))⟩
    · exact ⟨made, rfl, known.imp id fun foreign => ⟨_, foreign⟩⟩

theorem shift (h : Aligned abroad s) (sound : Sound s) (moved : Shift s s')
    (few : s'.flushes < 2 ^ 64) : Aligned abroad s' := by
  cases moved with
  | steady same => exact h.alike same.alike same.throttles
  | drain r =>
    rw [flushes_drained] at few
    exact h.drained r few
  | @join t made alive =>
    exact h.enrolled (.refl s) (fun _ _ => id) made (fun _ hu _ => hu) (sound.alive_lt alive) (.inl rfl)
  | @introduce s' l topic made alive absent same =>
    have size : s'.throttles.size = s.throttles.size + 1 := by
      rw [same.throttles, size_throttles_registered]
    have home : s'.home s.throttles.size = (s.logger l).roster := by
      rw [same.home_eq, home_registered]
    have there : (s.logger l).roster < s'.rosters.size := by
      rw [same.rosters]
      exact sound.alive_lt alive
    refine h.enrolled ((Alike.registered s l topic).trans same.alike) (fun _ _ => id)
      (size ▸ Nat.lt_succ_self _) (fun u hu new => ?_) there (.inl home.symm)
    rw [size] at hu
    exact Nat.lt_of_le_of_ne (Nat.le_of_lt_succ hu) new
  | vacate l => exact h.alike (.setCatalogue s l _) rfl
  | close r => exact h.alike (.changeRoster s r (fun _ => rfl) fun _ _ => rfl) rfl
  | cancelJobs r => exact h.alike (.changeRoster s r (fun _ => rfl) Roster.membersAt_cancelJobs) rfl
  | hold | letGo => exact h.alike { Alike.refl s with } rfl
  | openRoster => exact h.alike (.openRoster s) rfl
  | @build x alive fresh => exact h.alike (.build sound x) rfl

theorem shifts (h : Aligned abroad s) (sound : Sound s) (path : Shifts s s')
    (few : s'.flushes < 2 ^ 64) : Aligned abroad s' := by
  induction path with
  | refl => exact h
  | @tail s₁ s₂ path last ih =>
    exact (ih (Nat.lt_of_le_of_lt last.flushes_le few)).shift (sound.shifts path) last few

/-- An enrolment with any roster, if those from abroad are told. -/
theorem after_enrol (h : Aligned abroad s) {r : RosterId} {t : ThrottleId} (sound : Sound s)
    (ready : (Action.enrol r t).Ready s) (wider : ∀ u e, abroad u e → abroad' u e)
    (known : r = s.home t ∨ abroad' t (s.roster r).epoch) :
    Aligned abroad' (s.after (.enrol r t)) := by
  obtain ⟨s', same, he⟩ := System.after_enrol s r t
  rw [he]
  refine h.enrolled same.alike wider (by rw [same.throttles]; exact ready.2)
    (fun u hu _ => same.throttles ▸ hu) (by rw [same.rosters]; exact sound.alive_lt ready.1) ?_
  rw [same.home_eq, same.roster_eq]
  exact known

end Aligned
end System
end LogThrottle
