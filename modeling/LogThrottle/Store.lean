/-! A finite map in which the first write of a key wins. Keys are distinct by type, so that each
kept value is listed once. What an operation does is said through `find?` and `keys`. -/
namespace LogThrottle

structure Store (κ α : Type) where
  entries : List (κ × α)
  distinct : (entries.map Prod.fst).Nodup

namespace Store
variable {κ α β : Type}

def empty : Store κ α := ⟨[], List.nodup_nil⟩

instance : Inhabited (Store κ α) := ⟨empty⟩

def size (s : Store κ α) : Nat := s.entries.length
def isEmpty (s : Store κ α) : Bool := s.entries.isEmpty
def keys (s : Store κ α) : List κ := s.entries.map Prod.fst
def values (s : Store κ α) : List α := s.entries.map Prod.snd

/-- Changes values where they stand; keys stay. -/
def map (f : κ → α → β) (s : Store κ α) : Store κ β :=
  ⟨s.entries.map fun e => (e.1, f e.1 e.2), by
    rw [List.map_map]
    exact s.distinct⟩

theorem nodup_keys (s : Store κ α) : s.keys.Nodup := s.distinct

@[simp] theorem keys_empty : (empty : Store κ α).keys = [] := rfl

@[simp] theorem length_keys (s : Store κ α) : s.keys.length = s.size := by simp [keys, size]

@[simp] theorem keys_map (f : κ → α → β) (s : Store κ α) : (s.map f).keys = s.keys := by
  simp [keys, map]

variable [DecidableEq κ]

def find? (s : Store κ α) (k : κ) : Option α := (s.entries.find? (·.1 = k)).map Prod.snd

theorem find?_eq_none_iff {s : Store κ α} {k : κ} : s.find? k = none ↔ k ∉ s.keys := by
  simp only [find?, keys, Option.map_eq_none_iff, List.find?_eq_none, decide_eq_true_eq,
    List.mem_map, not_exists, not_and]

/-- Keeps a value that is there already. Gives the value kept and whether it is the new one. -/
def insert (s : Store κ α) (k : κ) (v : α) : Store κ α × α × Bool :=
  match h : s.find? k with
  | some kept => (s, kept, false)
  | none => (⟨(k, v) :: s.entries, by
      rw [List.map_cons, List.nodup_cons]
      exact ⟨find?_eq_none_iff.mp h, s.distinct⟩⟩, v, true)

@[simp] theorem find?_empty (k : κ) : (empty : Store κ α).find? k = none := rfl

theorem insert_of_some {s : Store κ α} {k : κ} {kept : α} (v : α) (h : s.find? k = some kept) :
    s.insert k v = (s, kept, false) := by
  unfold insert
  split
  · rename_i x hx
    rw [h] at hx
    cases hx
    rfl
  · rename_i hx
    rw [h] at hx
    cases hx

theorem insert_of_none {s : Store κ α} {k : κ} (v : α) (h : s.find? k = none) :
    (s.insert k v).1.entries = (k, v) :: s.entries ∧ (s.insert k v).2 = (v, true) := by
  unfold insert
  split
  · rename_i x hx
    rw [h] at hx
    cases hx
  · exact ⟨rfl, rfl⟩

theorem find?_insert (s : Store κ α) (k : κ) (v : α) (j : κ) :
    (s.insert k v).1.find? j = if j = k then some ((s.find? k).getD v) else s.find? j := by
  cases h : s.find? k with
  | some kept =>
    rw [insert_of_some v h]
    by_cases hj : j = k
    · simp [hj, h]
    · simp [hj]
  | none =>
    rw [find?, (insert_of_none v h).1]
    by_cases hj : j = k
    · simp [hj]
    · have : k ≠ j := fun e => hj e.symm
      simp [hj, this, find?]

theorem keys_insert (s : Store κ α) (k : κ) (v : α) :
    (s.insert k v).1.keys = if k ∈ s.keys then s.keys else k :: s.keys := by
  cases h : s.find? k with
  | some kept =>
    have : k ∈ s.keys := by
      by_cases hk : k ∈ s.keys
      · exact hk
      · rw [find?_eq_none_iff.mpr hk] at h
        cases h
    rw [insert_of_some v h, if_pos this]
  | none => rw [keys, (insert_of_none v h).1, if_neg (find?_eq_none_iff.mp h), List.map_cons, keys]

theorem find?_map (f : κ → α → β) (s : Store κ α) (k : κ) :
    (s.map f).find? k = (s.find? k).map (f k) := by
  have same : ((fun e : κ × β => decide (e.1 = k)) ∘ fun e : κ × α => (e.1, f e.1 e.2))
      = fun e => decide (e.1 = k) := rfl
  simp only [find?, map, List.find?_map, Option.map_map, same]
  cases h : s.entries.find? (fun e => decide (e.1 = k)) with
  | none => rfl
  | some e =>
    have he : e.1 = k := by simpa using List.find?_some h
    simp [he]

theorem mem_entries_iff {s : Store κ α} {k : κ} {v : α} :
    (k, v) ∈ s.entries ↔ s.find? k = some v := by
  obtain ⟨es, hd⟩ := s
  simp only [find?]
  induction es with
  | nil => simp
  | cons e es ih =>
    rw [List.map_cons, List.nodup_cons] at hd
    by_cases he : e.1 = k
    · subst he
      have : (e.1, v) ∉ es := fun h => hd.1 (List.mem_map.mpr ⟨_, h, rfl⟩)
      simp [this, Prod.ext_iff, eq_comm]
    · have : (k, v) ≠ e := fun h => he (h ▸ rfl)
      simp [this, he, ih hd.2]

theorem mem_values {s : Store κ α} {v : α} : v ∈ s.values ↔ ∃ k, s.find? k = some v := by
  simp only [values, List.mem_map, ← mem_entries_iff]
  exact ⟨fun ⟨e, he, hv⟩ => ⟨e.1, hv ▸ he⟩, fun ⟨k, hk⟩ => ⟨(k, v), hk, rfl⟩⟩

end Store
end LogThrottle
