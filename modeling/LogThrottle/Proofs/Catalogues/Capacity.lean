import LogThrottle.Proofs.Catalogues.Shelving

/-! The size of catalogues. A catalogue holds at most one topic more than its capacity, because the room is
looked at before the topic enters; so it overflows at every new topic that it meets with one too many. -/
namespace LogThrottle.System
open Call

/-- No catalogue holds more than one topic beyond its logger's capacity. -/
def Uncrowded (s : System) : Prop := ∀ l, (s.logger l).catalogue.size ≤ (s.logger l).capacity + 1

/-- The sink of a logger takes the warning of an overflow at every call. -/
def Warnable (s : System) (l : LoggerId) : Prop :=
  ∀ n, (s.sink (s.logger l).sink).fault n ⟨.warn, overflowWarning⟩ = none

variable {l : LoggerId} {topic : Topic} {a : Action} {s s' : System}

/-- Whoever is asked for a topic exists. -/
theorem made_of_sought {p : LoggerId × Topic} (sound : Sound s) (ready : a.Ready s) (sought : a.sought? = some p) :
    p.1 < s.loggers.size := by
  cases a with
  | lookup | log =>
    cases sought
    exact (sound.held ready).1
  | _ => cases sought

theorem size_cleared_insert (topic : Topic) (t : ThrottleId) :
    (Catalogue.cleared.insert topic t).1.size = 1 := by
  have nothing : Catalogue.cleared.size = 0 := rfl
  rw [Catalogue.size_insert_of_none t (Catalogue.find?_cleared topic), nothing]

/-- A call leaves at most one topic too many, whatever became of it. -/
private theorem Stocked.size_le {answer : Except Fault ThrottleId} (h : Stocked l topic s answer s')
    (within : (s.logger l).catalogue.size ≤ (s.logger l).capacity + 1) :
    (s'.logger l).catalogue.size ≤ (s.logger l).capacity + 1 := by
  cases h with
  | found _ same | refused _ _ _ same =>
    rw [same.catalogue]
    exact within
  | entered absent room catalogue =>
    rw [catalogue, Catalogue.size_insert_of_none _ absent]
    exact Nat.succ_le_succ room
  | emptied _ _ _ catalogue =>
    rw [catalogue, size_cleared_insert]
    exact Nat.succ_le_succ (Nat.zero_le _)

theorem Uncrowded.after (h : Uncrowded s) (sound : Sound s) (ready : a.Ready s) : Uncrowded (s.after a) := by
  intro l
  by_cases made : l < s.loggers.size
  · obtain ⟨es, _, carries⟩ := advances_after sound ready
    have capacity : ((s.after a).logger l).capacity = (s.logger l).capacity :=
      (congrArg Logger.capacity (carries.logger l made) :)
    rw [capacity]
    by_cases asked : ∃ topic, a.sought? = some (l, topic)
    · obtain ⟨topic, sought⟩ := asked
      exact (stocked_after sound ready sought).size_le (h l)
    · rw [catalogue_after fun topic sought => asked ⟨topic, sought⟩]
      exact h l
  · -- a logger that is made by the action has an empty catalogue
    have nothing : (s.logger l).catalogue.size = 0 := by
      rw [logger_of_size_le (Nat.not_lt.mp made)]
      rfl
    rw [catalogue_after fun topic sought => made (made_of_sought sound ready sought), nothing]
    exact Nat.zero_le _

theorem uncrowded_run {as : List Action} (feasible : System.Feasible {} as) : Uncrowded (System.run {} as) := by
  refine (feasible.keeps (I := fun s => Sound s ∧ Uncrowded s) ⟨.empty, fun l => ?_⟩
    fun _ _ h ready => ⟨h.1.after ready, h.2.after h.1 ready⟩).2
  have nothing : (System.logger {} l).catalogue.size = 0 := rfl
  exact nothing ▸ Nat.zero_le _

/-- A call for a topic leaves sinks, holders and the settings of loggers as they were. -/
theorem beside_sought (sought : a.sought? = some (l, topic)) : Beside s (s.after a) := by
  cases a with
  | lookup | log => exact beside_of_inward rfl s
  | _ => cases sought

theorem ready_sought (held : s.loggerHeld l) (sought : a.sought? = some (l, topic)) : a.Ready s := by
  cases a with
  | lookup | log =>
    cases sought
    exact held
  | _ => cases sought

section Overflows

/-- Where the sink takes the warning, a catalogue overflows at a new topic if it has one too many. -/
theorem overflows_iff_full (h : Uncrowded s) (warnable : s.Warnable l) (sought : a.sought? = some (l, topic)) :
    a.Overflows l s ↔ (s.logger l).catalogue.find? topic = none ∧
      (s.logger l).catalogue.size = (s.logger l).capacity + 1 := by
  have bound := h l
  have taken : s.refusal? l = none := warnable _
  rw [overflows_iff sought, and_iff_left taken]
  refine and_congr_right fun _ => ?_
  omega

/-- An overflow is counted once and leaves the topic alone in the catalogue. -/
theorem stock_of_overflows (sound : Sound s) (ready : a.Ready s) (sought : a.sought? = some (l, topic))
    (overflows : a.Overflows l s) :
    ((s.after a).logger l).tally.overflows = (s.logger l).tally.overflows + 1 ∧
      ((s.after a).logger l).catalogue.size = 1 ∧
      ∀ other, ((s.after a).logger l).catalogue.find? other =
        if other = topic then some s.throttles.size else none := by
  obtain ⟨absent, full, taken⟩ := (overflows_iff sought).mp overflows
  have stocked := stocked_after sound ready sought
  revert stocked
  generalize ((lookup l topic).exec s).1 = answer
  intro stocked
  cases stocked with
  | found found => cases found.symm.trans absent
  | refused _ _ refused => cases refused.symm.trans taken
  | entered _ room => exact absurd full (Nat.not_lt.mpr room)
  | emptied _ _ _ catalogue counted =>
    refine ⟨counted, by rw [catalogue, size_cleared_insert], fun other => ?_⟩
    rw [catalogue, Catalogue.find?_insert, Catalogue.find?_cleared, Catalogue.find?_cleared, Option.getD_none]

/-- A new topic enters where there is room. -/
theorem stock_of_room (sound : Sound s) (ready : a.Ready s) (sought : a.sought? = some (l, topic))
    (absent : (s.logger l).catalogue.find? topic = none)
    (room : (s.logger l).catalogue.size ≤ (s.logger l).capacity) :
    ((s.after a).logger l).tally.overflows = (s.logger l).tally.overflows ∧
      ((s.after a).logger l).catalogue.size = (s.logger l).catalogue.size + 1 ∧
      ∀ other, ((s.after a).logger l).catalogue.find? other =
        if other = topic then some s.throttles.size else (s.logger l).catalogue.find? other := by
  have stocked := stocked_after sound ready sought
  revert stocked
  generalize ((lookup l topic).exec s).1 = answer
  intro stocked
  cases stocked with
  | found found => cases found.symm.trans absent
  | refused _ full | emptied _ full => exact absurd full (Nat.not_lt.mpr room)
  | entered _ _ catalogue overflows =>
    refine ⟨overflows, by rw [catalogue, Catalogue.size_insert_of_none _ absent], fun other => ?_⟩
    rw [catalogue, Catalogue.find?_insert, absent, Option.getD_none]

theorem sameStock_of_listed (sound : Sound s) (ready : a.Ready s) (sought : a.sought? = some (l, topic))
    (listed : (s.logger l).catalogue.find? topic ≠ none) : SameStock l s (s.after a) := by
  have stocked := stocked_after sound ready sought
  revert stocked
  generalize ((lookup l topic).exec s).1 = answer
  intro stocked
  cases stocked with
  | found _ same => exact same
  | refused absent | entered absent | emptied absent => exact absurd absent listed

/-- A call that makes nothing overflow counts no overflow and takes nothing out of the catalogue. -/
theorem stock_of_not_overflows (sound : Sound s) (ready : a.Ready s) (sought : a.sought? = some (l, topic))
    (quiet : ¬a.Overflows l s) :
    ((s.after a).logger l).tally.overflows = (s.logger l).tally.overflows ∧
      ∀ other t, (s.logger l).catalogue.find? other = some t →
        ((s.after a).logger l).catalogue.find? other = some t := by
  have stocked := stocked_after sound ready sought
  revert stocked
  generalize ((lookup l topic).exec s).1 = answer
  intro stocked
  cases stocked with
  | found _ same | refused _ _ _ same =>
    refine ⟨same.overflows, fun other t found => ?_⟩
    rwa [same.catalogue]
  | entered absent room =>
    obtain ⟨counted, _, listed⟩ := stock_of_room sound ready sought absent room
    refine ⟨counted, fun other t found => ?_⟩
    have apart : other ≠ topic := by
      rintro rfl
      cases found.symm.trans absent
    rwa [listed, if_neg apart]
  | emptied absent full taken => exact absurd ((overflows_iff sought).mpr ⟨absent, full, taken⟩) quiet

end Overflows

/-- A logger of capacity `c` that was asked for some different topics, one after the other: whole fillings of
its catalogue were counted as overflows, and the rest is in it. -/
structure Filled (l : LoggerId) (c : Nat) (seen : List Topic) (s : System) : Prop where
  sound : Sound s
  held : s.loggerHeld l
  warnable : s.Warnable l
  capacity : (s.logger l).capacity = c
  cached : ∀ topic, (s.logger l).catalogue.find? topic ≠ none → topic ∈ seen
  counts : ∃ q, (s.logger l).tally.overflows = .ofNat q ∧
    seen.length = q * (c + 1) + (s.logger l).catalogue.size
  within : (s.logger l).catalogue.size ≤ c + 1
  begun : seen ≠ [] → 0 < (s.logger l).catalogue.size

namespace Filled
variable {c : Nat} {seen : List Topic}

/-- What the calls do not change. -/
private theorem kept (h : Filled l c seen s) (sought : a.sought? = some (l, topic)) :
    Sound (s.after a) ∧ (s.after a).loggerHeld l ∧ (s.after a).Warnable l ∧
      ((s.after a).logger l).capacity = c := by
  have beside := beside_sought (s := s) sought
  refine ⟨h.sound.after (ready_sought h.held sought), (beside.loggerHeld_iff l).mpr h.held, fun n => ?_,
    (beside.logger_capacity l).trans h.capacity⟩
  rw [beside.logger_sink, beside.sink_fault]
  exact h.warnable n

theorem enter (h : Filled l c seen s) (new : topic ∉ seen) (sought : a.sought? = some (l, topic)) :
    Filled l c (topic :: seen) (s.after a) ∧ ((s.after a).logger l).catalogue.find? topic ≠ none := by
  obtain ⟨sound, held, warnable, capacity⟩ := h.kept sought
  obtain ⟨q, counted, number⟩ := h.counts
  have within := h.within
  have absent : (s.logger l).catalogue.find? topic = none := Classical.byContradiction fun found =>
    new (h.cached topic found)
  have ready := ready_sought h.held sought
  by_cases room : (s.logger l).catalogue.size ≤ (s.logger l).capacity
  · obtain ⟨same, size, listed⟩ := stock_of_room h.sound ready sought absent room
    refine ⟨⟨sound, held, warnable, capacity, fun other found => ?_, ⟨q, same.trans counted, ?_⟩, ?_, fun _ => ?_⟩,
      ?_⟩
    · rw [listed] at found
      split at found
      · rename_i own
        exact own ▸ List.mem_cons_self
      · exact List.mem_cons_of_mem _ (h.cached other found)
    · rw [List.length_cons, size, number, Nat.add_assoc]
    · rw [size]
      exact Nat.succ_le_succ (h.capacity ▸ room)
    · rw [size]
      exact Nat.succ_pos _
    · rw [listed, if_pos rfl]
      exact Option.some_ne_none _
  · have full : (s.logger l).capacity < (s.logger l).catalogue.size := Nat.not_le.mp room
    obtain ⟨more, size, listed⟩ := stock_of_overflows h.sound ready sought
      ((overflows_iff sought).mpr ⟨absent, full, h.warnable _⟩)
    refine ⟨⟨sound, held, warnable, capacity, fun other found => ?_, ⟨q + 1, ?_, ?_⟩, ?_, fun _ => ?_⟩, ?_⟩
    · rw [listed] at found
      split at found
      · rename_i own
        exact own ▸ List.mem_cons_self
      · exact absurd rfl found
    · rw [more, counted, UInt64.ofNat_add]
      rfl
    · have fill : (s.logger l).catalogue.size = c + 1 := Nat.le_antisymm within (h.capacity ▸ full)
      rw [List.length_cons, size, number, fill, Nat.add_mul, Nat.one_mul]
    · rw [size]
      exact Nat.succ_le_succ (Nat.zero_le _)
    · rw [size]
      exact Nat.one_pos
    · rw [listed, if_pos rfl]
      exact Option.some_ne_none _

theorem again (h : Filled l c seen s) (listed : (s.logger l).catalogue.find? topic ≠ none)
    (sought : a.sought? = some (l, topic)) :
    Filled l c seen (s.after a) ∧ ((s.after a).logger l).catalogue.find? topic ≠ none := by
  obtain ⟨sound, held, warnable, capacity⟩ := h.kept sought
  obtain ⟨catalogue, overflows⟩ := sameStock_of_listed h.sound (ready_sought h.held sought) sought listed
  refine ⟨⟨sound, held, warnable, capacity, ?_, ?_, ?_, ?_⟩, ?_⟩ <;> rw [catalogue]
  · exact h.cached
  · rw [overflows]
    exact h.counts
  · exact h.within
  · exact h.begun
  · exact listed

/-- Repetitions of the topic that was asked for last. -/
private theorem repeats (h : Filled l c seen s) (listed : (s.logger l).catalogue.find? topic ≠ none) {n : Nat}
    {calls : List Action} (asked : calls.map Action.sought? = List.replicate n (some (l, topic))) :
    Filled l c seen (s.run calls) := by
  induction calls generalizing s n with
  | nil => exact h
  | cons a calls ih =>
    cases n with
    | zero => cases asked
    | succ n =>
      rw [List.map_cons, List.replicate_succ, List.cons.injEq] at asked
      obtain ⟨filled, still⟩ := h.again listed asked.1
      exact ih filled still asked.2

/-- Different topics, each asked for any number of times in a row. -/
theorem run (h : Filled l c seen s) {keys : List (Topic × Nat)} (distinct : (keys.map Prod.fst).Nodup)
    (new : ∀ k ∈ keys, k.1 ∉ seen) {calls : List Action}
    (asked : calls.map Action.sought? = keys.flatMap fun k => List.replicate (k.2 + 1) (some (l, k.1))) :
    ∃ seen', seen'.length = seen.length + keys.length ∧ Filled l c seen' (s.run calls) := by
  induction keys generalizing s seen calls with
  | nil =>
    obtain rfl := List.map_eq_nil_iff.mp asked
    exact ⟨seen, rfl, h⟩
  | cons k keys ih =>
    rw [List.map_cons, List.nodup_cons] at distinct
    rw [List.flatMap_cons, List.replicate_succ, List.cons_append] at asked
    obtain ⟨a, rest, rfl, first, asked⟩ := List.map_eq_cons_iff.mp asked
    obtain ⟨block, later, rfl, repeated, asked⟩ := List.map_eq_append_iff.mp asked
    obtain ⟨entered, listed⟩ := h.enter (new k List.mem_cons_self) first
    have filled := entered.repeats listed repeated
    have unseen : ∀ j ∈ keys, j.1 ∉ k.1 :: seen := fun j there again => by
      obtain same | before := List.mem_cons.mp again
      · exact distinct.1 (List.mem_map.mpr ⟨j, there, same⟩)
      · exact new j (List.mem_cons_of_mem k there) before
    obtain ⟨seen', length, done⟩ := ih filled distinct.2 unseen asked
    refine ⟨seen', ?_, ?_⟩
    · rw [length, List.length_cons, List.length_cons]
      omega
    · have cut : s.run (a :: (block ++ later)) = ((s.after a).run block).run later :=
        run_append (s.after a) block later
      rwa [cut]

/-- Every filling is one topic more than the capacity. -/
theorem numbers (h : Filled l c seen s) (begun : seen ≠ []) :
    (s.logger l).tally.overflows = .ofNat ((seen.length - 1) / (c + 1)) ∧
      (s.logger l).catalogue.size = (seen.length - 1) % (c + 1) + 1 := by
  obtain ⟨q, counted, number⟩ := h.counts
  have within := h.within
  have some := h.begun begun
  have rest : seen.length - 1 = ((s.logger l).catalogue.size - 1) + (c + 1) * q := by
    rw [number, Nat.mul_comm]
    omega
  have small : (s.logger l).catalogue.size - 1 < c + 1 := by omega
  rw [counted, rest, Nat.add_mul_div_left _ _ (Nat.succ_pos _), Nat.div_eq_of_lt small, Nat.zero_add,
    Nat.add_mul_mod_self_left, Nat.mod_eq_of_lt small]
  exact ⟨rfl, (Nat.sub_add_cancel some).symm⟩

end Filled

/-- In every system that a run reaches, the catalogue of a logger holds at most one topic more than its
capacity. Where the logger's sink takes the warning, a call for a topic makes the catalogue overflow exactly if
the topic is new and the catalogue holds one too many; that is counted once, and leaves the topic alone in the
catalogue. No other call counts an overflow or takes a topic out. Different topics that a new logger is asked
for, each any number of times in a row, fill the catalogue over and over: all fillings but the last were
overflows, and the last is in the catalogue. -/
theorem catalogue_overflows_when_full {as : List Action} (feasible : System.Feasible {} as) {l : LoggerId}
    (warnable : (System.run {} as).Warnable l) :
    let s := System.run {} as
    let x := s.logger l
    x.catalogue.size ≤ x.capacity + 1 ∧
    (∀ a topic, a.Ready s → a.sought? = some (l, topic) →
      let y := (s.after a).logger l
      (a.Overflows l s ↔ x.catalogue.find? topic = none ∧ x.catalogue.size = x.capacity + 1) ∧
      (a.Overflows l s → y.tally.overflows = x.tally.overflows + 1 ∧ y.catalogue.size = 1 ∧
        ∀ other, (y.catalogue.find? other).isSome ↔ other = topic) ∧
      (¬a.Overflows l s → y.tally.overflows = x.tally.overflows ∧
        ∀ other t, x.catalogue.find? other = some t → y.catalogue.find? other = some t)) ∧
    (s.loggerHeld l → x.catalogue = {} → x.tally.overflows = 0 → ∀ (keys : List (Topic × Nat)) (calls : List Action),
      keys ≠ [] → (keys.map Prod.fst).Nodup →
      calls.map Action.sought? = (keys.flatMap fun k => List.replicate (k.2 + 1) (some (l, k.1))) →
      let y := (s.run calls).logger l
      y.tally.overflows = .ofNat ((keys.length - 1) / (x.capacity + 1)) ∧
        y.catalogue.size = (keys.length - 1) % (x.capacity + 1) + 1) := by
  intro s x
  have sound : Sound s := sound_run feasible
  have uncrowded : Uncrowded s := uncrowded_run feasible
  refine ⟨uncrowded l, fun a topic ready sought => ?_, fun held empty fresh keys calls some distinct asked => ?_⟩
  · refine ⟨overflows_iff_full uncrowded warnable sought, fun overflows => ?_,
      stock_of_not_overflows sound ready sought⟩
    obtain ⟨counted, size, listed⟩ := stock_of_overflows sound ready sought overflows
    refine ⟨counted, size, fun other => ?_⟩
    rw [listed]
    split <;> simp [*]
  · have size : x.catalogue.size = 0 := by
      rw [empty]
      rfl
    have filled : Filled l x.capacity [] s := {
      sound, held, warnable
      capacity := rfl
      cached := fun topic found => absurd (empty ▸ Catalogue.find?_cleared topic) found
      counts := ⟨0, fresh, by rw [size, Nat.zero_mul]; rfl⟩
      within := size ▸ Nat.zero_le _
      begun := fun some => absurd rfl some }
    obtain ⟨seen, length, done⟩ := filled.run distinct (fun _ _ => List.not_mem_nil) asked
    rw [List.length_nil, Nat.zero_add] at length
    have numbers := done.numbers fun none => some (List.length_eq_zero_iff.mp (length ▸ none ▸ rfl))
    rwa [length] at numbers

/-- With room for one topic, three different ones overflow once, a repetition in between or not. -/
theorem catalogue_overflows_at_third :
    let as : List Action := [.addSink .filled fun _ _ => none, .addStopwatch .zero fun _ => none,
      .openRoster, .build ⟨0, 0, 0, none, 1, ⟨7, by decide⟩, 1⟩]
    let calls : List Action := [.lookup 0 ⟨"a", none⟩, .log 0 .info "b" [], .lookup 0 ⟨"b", none⟩,
      .lookup 0 ⟨"a", some .warn⟩]
    (((System.run {} as).run calls).logger 0).tally.overflows = 1 ∧
      (((System.run {} as).run calls).logger 0).catalogue.size = 1 := by
  intro as calls
  have feasible : System.Feasible {} as := by decide +kernel
  have warnable : (System.run {} as).Warnable 0 := fun _ => rfl
  have empty : ((System.run {} as).logger 0).catalogue = {} := rfl
  have capacity : ((System.run {} as).logger 0).capacity = 1 := by decide +kernel
  obtain ⟨_, _, numbers⟩ := catalogue_overflows_when_full feasible warnable
  obtain ⟨overflows, size⟩ := numbers (by decide +kernel) empty (by decide +kernel)
    [(⟨"a", none⟩, 0), (⟨"b", none⟩, 1), (⟨"a", some .warn⟩, 0)] calls (by decide) (by decide) rfl
  rw [overflows, size, capacity]
  exact ⟨rfl, rfl⟩

end LogThrottle.System
