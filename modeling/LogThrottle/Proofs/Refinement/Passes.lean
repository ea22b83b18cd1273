import LogThrottle.Proofs.Refinement.Mirror

/-! Reset passes beside plain counting. A pass over all throttles that have events delivers the digests of
the ledger in some order, and every list of events is empty after it. -/
namespace LogThrottle

namespace Reference
open LogThrottle.System
variable {x : Setting} {g : Ledger} {n : Nat} {s s' : System}

private theorem flatMap_range {α β : Type} {l : List α} {f : α → List β} {lines : Nat → List β}
    (h : ∀ t a, l[t]? = some a → lines t = f a) : (List.range l.length).flatMap lines = l.flatMap f := by
  induction l using List.reverseRecOn with
  | nil => rfl
  | append_singleton l a ih =>
    have earlier : ∀ t b, l[t]? = some b → lines t = f b := fun t b ht =>
      h t b (by rw [List.getElem?_append_left (List.getElem?_eq_some_iff.mp ht).1, ht])
    have last : lines l.length = f a := h _ a List.getElem?_concat_length
    rw [List.length_append, List.length_singleton, List.range_succ, List.flatMap_append,
      List.flatMap_append, ih earlier, List.flatMap_singleton, List.flatMap_singleton, last]

theorem flatMap_filter {α β : Type} {l : List α} {p : α → Bool} {f : α → List β}
    (h : ∀ a ∈ l, p a = false → f a = []) : (l.filter p).flatMap f = l.flatMap f := by
  induction l with
  | nil => rfl
  | cons a l ih =>
    have rest := ih fun b hb => h b (List.mem_cons_of_mem a hb)
    cases hp : p a with
    | false => rw [List.filter_cons_of_neg (by simp [hp]), List.flatMap_cons, rest,
        h a List.mem_cons_self hp, List.nil_append]
    | true => rw [List.filter_cons_of_pos hp, List.flatMap_cons, List.flatMap_cons, rest]

/-- A throttle's digest is its instance's. -/
theorem lines_digestEntries (m : Mirrors x g n s) {t : ThrottleId} {i : Instance}
    (h : Stands x n i (s.throttle t)) :
    (s.digestEntries t).filterMap (Entry.line? 0) = (i.digest? g.limit g.reading).toList := by
  have tracks : Limiter.Tracks (s.limit t) i.events (s.throttle t).limiter := m.limit_eq h ▸ h.tracks
  rw [digestEntries, digest?_of_tracks tracks, m.limit_eq h, m.limit, m.now_eq h, m.sink_eq h, h.topic,
    Instance.digest?]
  by_cases beyond : g.limit < i.events.length
  · have inside : g.limit - 1 < i.events.length := Nat.lt_of_le_of_lt (Nat.sub_le _ _) beyond
    have reached := List.getElem?_eq_getElem inside
    have mark := h.tracks.mark_of_reached (by rw [m.limit]; exact reached)
    rw [reached]
    simp only [beyond, if_true, Option.toList_some, List.map_cons, List.map_nil, Limiter.sinceMark, mark]
    rfl
  · cases i.events[g.limit - 1]? <;> simp [beyond]

private theorem lines_of_cleared {t : ThrottleId} (h : (s.throttle t).limiter = .cleared) :
    (s.digestEntries t).filterMap (Entry.line? 0) = [] := by
  rw [digestEntries, digest?_of_cleared h]
  rfl

/-- Passes differ in their order only. -/
theorem digests_perm (m : Mirrors x g n s) {ts : List ThrottleId} (distinct : ts.Nodup)
    (within : ∀ t ∈ ts, t < s.throttles.size)
    (complete : ∀ t < s.throttles.size, (s.throttle t).limiter ≠ .cleared → t ∈ ts) :
    g.digests.Perm ((ts.flatMap s.digestEntries).filterMap (Entry.line? 0)) := by
  let lines (t : ThrottleId) := (s.digestEntries t).filterMap (Entry.line? 0)
  have all : g.digests = (List.range s.throttles.size).flatMap lines := by
    rw [Ledger.digests, List.filterMap_eq_flatMap_toList, m.size]
    exact (flatMap_range fun t i hi => lines_digestEntries m (m.stands t i hi)).symm
  have some : (List.range s.throttles.size).flatMap lines =
      ((List.range s.throttles.size).filter (· ∈ ts)).flatMap lines := by
    refine (flatMap_filter fun t ht out => lines_of_cleared ?_).symm
    apply Classical.byContradiction
    intro left
    exact absurd (complete t (List.mem_range.mp ht) left) (by simpa using out)
  have same : ((List.range s.throttles.size).filter (· ∈ ts)).Perm ts := by
    refine (List.perm_ext_iff_of_nodup (List.nodup_range.filter _) distinct).mpr fun t => ?_
    simp only [List.mem_filter, List.mem_range, decide_eq_true_eq]
    exact ⟨fun h => h.2, fun h => ⟨within t h, h⟩⟩
  rw [all, some, List.filterMap_flatMap]
  exact same.flatMap_right lines

/-- A reset pass over all that have events. -/
theorem pass_outcome (m : Mirrors x g n s) {ts : List ThrottleId} (distinct : ts.Nodup)
    (complete : ∀ t < s.throttles.size, (s.throttle t).limiter ≠ .cleared → t ∈ ts) :
    ∃ s', (resetAll ts).exec s = (.ok (), s') ∧ Told (ts.flatMap s.digestEntries) s s' ∧
      Mirrors x g.settled n s' := by
  obtain ⟨s', he, told⟩ := resetAll_serene m.calm.serene distinct
  have limiter (t : ThrottleId) (made : t < s.throttles.size) : (s'.throttle t).limiter = .cleared := by
    have read := limiter_resetAll ts s t
    rw [he] at read
    rw [read]
    split
    · rfl
    · rename_i out
      exact Classical.byContradiction fun left => out ⟨complete t made left, made⟩
  refine ⟨s', he, told, { m.toSurrounds.unmoved (.told told) with size := ?_, stands := ?_ }⟩
  · rw [told.throttles, m.size]
    exact (List.length_map ..).symm
  · intro t i hi
    obtain ⟨j, hj, rfl⟩ : ∃ j, g.instances[t]? = some j ∧ { j with events := [] } = i := by
      rw [Ledger.settled, List.getElem?_map] at hi
      exact Option.map_eq_some_iff.mp hi
    have same := m.stands t j hj
    have made : t < s.throttles.size := m.size ▸ (List.getElem?_eq_some_iff.mp hj).1
    refine ⟨(told.logger_eq t).trans same.logger, (told.topic_eq t).trans same.topic, ?_, Nat.zero_le _⟩
    rw [limiter t made]
    exact .cleared _

end Reference
end LogThrottle
