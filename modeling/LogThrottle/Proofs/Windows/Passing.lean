import LogThrottle.Proofs.System.Outcomes

/-! How many events of a throttle pass between two resets. A window is what the journal holds from some
place on; while it has no flush, limiters of a logger stand for what passed in it. -/
namespace LogThrottle

/-- A line that one of some throttles let pass. -/
def Entry.Passed (T : ThrottleId → Prop) : Entry → Prop
  | .line (.event t) _ _ => T t
  | _ => False

instance (T : ThrottleId → Prop) [DecidablePred T] : DecidablePred (Entry.Passed T)
  | .line (.event t) _ _ => inferInstanceAs (Decidable (T t))
  | .line .caller .. | .line (.digest ..) .. | .line (.failure _) .. | .line (.overflow _) ..
  | .notice _ => isFalse id

theorem Entry.passed_iff {T : ThrottleId → Prop} {e : Entry} :
    e.Passed T ↔ ∃ t k x, e = .line (.event t) k x ∧ T t := by
  constructor
  · intro passed
    match e with
    | .line (.event t) k x => exact ⟨t, k, x, rfl, passed⟩
  · rintro ⟨t, k, x, rfl, passed⟩
    exact passed

namespace System

/-- Lines that some throttles let pass, from a place in the journal on. -/
def passedSince (s : System) (n : Nat) (T : ThrottleId → Prop) [DecidablePred T] : Nat :=
  (s.journal.toList.drop n).countP fun e => e.Passed T

/-- No roster was flushed from a place in the journal on. -/
def Unflushed (n : Nat) (s : System) : Prop := .notice .flushing ∉ s.journal.toList.drop n

instance (n : Nat) (s : System) : Decidable (Unflushed n s) :=
  inferInstanceAs (Decidable (.notice .flushing ∉ s.journal.toList.drop n))

/-- No job resets a throttle of a logger once the journal is beyond a place. -/
def Unfired (l : LoggerId) (n : Nat) (s : System) (a : Action) : Prop :=
  ∀ t, a.Fires s t → (s.throttle t).logger = l → s.journal.size ≤ n

/-- After at most `m` events, limiters of a logger bound what passed since a place in the journal. -/
structure Metered (l : LoggerId) (n m : Nat) (s : System) : Prop where
  origin : ∀ t k line, .line (.event t) k line ∈ s.journal.toList → t < s.throttles.size
  count : ∀ t, (s.throttle t).limiter.count.toNat ≤ m
  within : Unflushed n s → ∀ t < s.throttles.size, (s.throttle t).logger = l →
    (s.throttle t).limiter.Within (s.limit t) (s.passedSince n (· = t))

variable {l : LoggerId} {n m : Nat} {s s' : System} {t : ThrottleId} {es : List Entry}

namespace Carries

theorem drop (h : Carries es s s') (n : Nat) :
    s'.journal.toList.drop n = s.journal.toList.drop n ++ es.drop (n - s.journal.size) := by
  rw [h.journal, List.drop_append, Array.length_toList]

theorem drop_size (h : Carries es s s') : s'.journal.toList.drop s.journal.size = es := by
  rw [h.journal, ← Array.length_toList, List.drop_left]

theorem unflushed (h : Carries es s s') (still : Unflushed n s') : Unflushed n s := by
  rw [Unflushed, h.drop] at still
  exact fun flushed => still (List.mem_append_left _ flushed)

theorem passedSince_eq (h : Carries es s s') (n : Nat) (T : ThrottleId → Prop) [DecidablePred T] :
    s'.passedSince n T =
      s.passedSince n T + (es.drop (n - s.journal.size)).countP fun e => e.Passed T := by
  rw [passedSince, h.drop, List.countP_append, passedSince]

theorem passedSince_of_silent (h : Carries es s s') (silent : ∀ e ∈ es, ¬e.Passed (· = t)) :
    s'.passedSince n (· = t) = s.passedSince n (· = t) := by
  have none : (es.drop (n - s.journal.size)).countP (fun e => e.Passed (· = t)) = 0 :=
    List.countP_eq_zero.mpr fun e he => by simpa using silent e (List.mem_of_mem_drop he)
  rw [h.passedSince_eq, none, Nat.add_zero]

end Carries

theorem passedSince_of_size_le (short : s.journal.size ≤ n) (T : ThrottleId → Prop) [DecidablePred T] :
    s.passedSince n T = 0 := by
  rw [passedSince, List.drop_eq_nil_of_le (by simpa using short), List.countP_nil]

theorem passedSince_mono {T U : ThrottleId → Prop} [DecidablePred T] [DecidablePred U]
    (le : ∀ t, T t → U t) (s : System) (n : Nat) : s.passedSince n T ≤ s.passedSince n U := by
  refine List.countP_mono_left fun e _ passed => decide_eq_true ?_
  obtain ⟨t, k, line, rfl, own⟩ := Entry.passed_iff.mp (of_decide_eq_true passed)
  exact le t own

theorem Tidy.silent (tidy : Tidy es) (T : ThrottleId → Prop) : ∀ e ∈ es, ¬e.Passed T := by
  intro e he passed
  obtain ⟨t, k, line, rfl, _⟩ := Entry.passed_iff.mp passed
  exact tidy.event t k line he

namespace Metered

theorem empty (l : LoggerId) (n m : Nat) : Metered l n m {} where
  origin _ _ _ there := absurd there List.not_mem_nil
  count _ := Nat.zero_le m
  within _ t ht := absurd ht (Nat.not_lt_zero t)

/-- A throttle that is not made yet has let nothing pass. -/
theorem passedSince_of_new (h : Metered l n m s) (new : s.throttles.size ≤ t) :
    s.passedSince n (· = t) = 0 := by
  refine List.countP_eq_zero.mpr fun e he passed => ?_
  obtain ⟨u, k, line, rfl, rfl⟩ := Entry.passed_iff.mp (of_decide_eq_true passed)
  exact Nat.not_lt.mpr new (h.origin u k line (List.mem_of_mem_drop he))

/-- The bound of a throttle that neither counted nor was cleared. -/
theorem within_of_same (h : Metered l n m s) (sound : Sound s) (carries : Carries es s s')
    (unflushed : Unflushed n s') (silent : ∀ e ∈ es, ¬e.Passed (· = t))
    (same : (s'.throttle t).limiter = (s.throttle t).limiter) (own : (s'.throttle t).logger = l) :
    (s'.throttle t).limiter.Within (s'.limit t) (s'.passedSince n (· = t)) := by
  rw [carries.passedSince_of_silent silent, same]
  by_cases made : t < s.throttles.size
  · rw [carries.limit_eq sound made]
    exact h.within (carries.unflushed unflushed) t made (carries.owner t made ▸ own)
  · have new := Nat.not_lt.mp made
    rw [h.passedSince_of_new new, throttle_of_size_le new]
    exact .cleared (limit_pos s' t)

/-- Clearing is no loss where the window has not begun. -/
theorem wanes {D : ThrottleId → Prop} (h : Metered l n m s) (sound : Sound s) (wanes : Wanes D s s')
    (due : ∀ t, D t → (s.throttle t).logger = l → s.journal.size ≤ n) : Metered l n m s' := by
  obtain ⟨es, tidy, clears⟩ := wanes
  refine ⟨fun t k line there => ?_, fun t => ?_, fun unflushed t _ own => ?_⟩
  · rw [clears.journal] at there
    obtain old | new := List.mem_append.mp there
    · exact Nat.lt_of_lt_of_le (h.origin t k line old) clears.throttles
    · exact absurd new (tidy.event t k line)
  · obtain same | ⟨cleared, _⟩ := clears.limiter t
    · exact same ▸ h.count t
    · rw [cleared]
      exact Nat.zero_le m
  · have silent := tidy.silent (· = t)
    obtain same | ⟨cleared, why⟩ := clears.limiter t
    · exact h.within_of_same sound clears.toCarries unflushed silent same own
    · have none : s.passedSince n (· = t) = 0 := by
        by_cases made : t < s.throttles.size
        · refine passedSince_of_size_le ?_ _
          rcases why with fired | flushed
          · exact due t fired (clears.owner t made ▸ own)
          · refine Classical.byContradiction fun begun => unflushed ?_
            rw [clears.drop, Nat.sub_eq_zero_of_le (Nat.le_of_not_le begun), List.drop_zero]
            exact List.mem_append_right _ flushed
        · exact h.passedSince_of_new (Nat.not_lt.mp made)
      rw [clears.passedSince_of_silent silent, none, cleared]
      exact .cleared (limit_pos s' t)

theorem counted {u : ThrottleId} {answer : Option Decision} (h : Metered l n m s) (sound : Sound s)
    (made : u < s.throttles.size) (counted : Counted u answer es s s') (few : m + 1 < 2 ^ 64) :
    Metered l n (m + 1) s' := by
  refine ⟨fun t k line there => ?_, fun t => ?_, fun unflushed t _ own => ?_⟩
  · rw [counted.journal] at there
    obtain old | new := List.mem_append.mp there
    · exact Nat.lt_of_lt_of_le (h.origin t k line old) counted.throttles
    · obtain ⟨_, _, same⟩ := counted.own _ new
      cases same
      exact Nat.lt_of_lt_of_le made counted.throttles
  · by_cases same : t = u
    · subst same
      exact Nat.le_trans counted.tried.count_le (Nat.succ_le_succ (h.count t))
    · rw [counted.others t same]
      exact Nat.le_succ_of_le (h.count t)
  · by_cases same : t = u
    · subst same
      have before := h.within (counted.unflushed unflushed) t made (counted.owner t made ▸ own)
      have few' := Nat.lt_of_le_of_lt (Nat.succ_le_succ (h.count t)) few
      rw [counted.limit_eq sound made, counted.passedSince_eq]
      refine (before.attempted counted.tried few').mono (Nat.add_le_add_left ?_ _)
      calc
        _ ≤ (es.drop (n - s.journal.size)).length := List.countP_le_length
        _ ≤ es.length := (List.drop_sublist _ es).length_le
        _ ≤ _ := counted.lines
    · refine h.within_of_same sound counted.toCarries unflushed (fun e he passed => ?_)
        (counted.others t same) own
      obtain ⟨_, _, rfl⟩ := counted.own e he
      exact same passed.symm

end Metered

/-- Only resets between the lines of a window can let more than the limit pass in it. -/
theorem metered_run {as : List Action} (feasible : System.Feasible {} as) (few : as.length < 2 ^ 64)
    (unfired : System.Along (Unfired l n) {} as) : Metered l n as.length (System.run {} as) := by
  induction as using List.reverseRecOn with
  | nil => exact .empty l n 0
  | append_singleton as a ih =>
    obtain ⟨earlier, ready⟩ := along_snoc.mp feasible
    obtain ⟨unfired, due⟩ := along_snoc.mp unfired
    rw [List.length_append, List.length_singleton] at few ⊢
    rw [run_snoc]
    have metered := ih earlier (Nat.lt_of_succ_lt few) unfired
    have sound := sound_run earlier
    cases after_outcome sound ready with
    | quiet _ wanes =>
      have kept := metered.wanes sound wanes due
      exact { kept with count := fun t => Nat.le_succ_of_le (kept.count t) }
    | event sound₁ wanes made counted _ =>
      exact (metered.wanes sound wanes due).counted sound₁ made counted few

end System
end LogThrottle
