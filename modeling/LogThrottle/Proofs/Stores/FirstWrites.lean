import Mathlib
import LogThrottle.Store.Command

/-! What a store holds after a history of commands: of each key the value that was inserted first since the contents
were last forgotten, and nothing else. So every answer is settled by the history, and what is listed in bulk is what
looking up the keys one by one would find. -/
namespace LogThrottle.Store
variable {κ α : Type}

namespace Command

/-- Leaves nothing in the store. -/
def forgets : Command κ α → Bool
  | .clear | .drain => true
  | .insert .. | .get _ | .values => false

def insertion? : Command κ α → Option (κ × α)
  | .insert k v => some (k, v)
  | .get _ | .clear | .values | .drain => none

end Command

/-- What was inserted since the contents were last forgotten, the earliest first. -/
def insertions (cs : List (Command κ α)) : List (κ × α) :=
  (cs.rtakeWhile fun c => !c.forgets).filterMap Command.insertion?

theorem insertions_snoc (cs : List (Command κ α)) (c : Command κ α) :
    insertions (cs ++ [c]) = if c.forgets then [] else insertions cs ++ c.insertion?.toList := by
  rw [insertions, List.rtakeWhile_concat]
  cases c with
  | clear | drain => rfl
  | insert | get | values => exact List.filterMap_append

theorem isEmpty_iff_size (s : Store κ α) : s.isEmpty = true ↔ s.size = 0 := by
  rw [isEmpty, size, List.isEmpty_iff, List.length_eq_zero_iff]

variable [DecidableEq κ]

/-- The value that was inserted first under a key. -/
def first? (cs : List (Command κ α)) (k : κ) : Option α := (insertions cs).lookup k

/-- The keys something was inserted under, each once. -/
def inserted (cs : List (Command κ α)) : List κ := ((insertions cs).map Prod.fst).dedup

/-- The first values of these keys. -/
def firsts (cs : List (Command κ α)) : List α := (inserted cs).filterMap (first? cs)

theorem mem_inserted_iff {cs : List (Command κ α)} {k : κ} : k ∈ inserted cs ↔ (first? cs k).isSome = true := by
  simp only [inserted, first?, List.mem_dedup, List.mem_map, List.lookup_isSome_iff, beq_iff_eq]
  exact exists_congr fun e => and_congr_right fun _ => eq_comm

theorem first?_insert (cs : List (Command κ α)) (k : κ) (v : α) (j : κ) :
    first? (cs ++ [.insert k v]) j = (first? cs j).or (if j = k then some v else none) := by
  have last : List.lookup j [(k, v)] = if j = k then some v else none := by
    by_cases same : j = k
    · simp [same]
    · simp [List.lookup_cons, beq_false_of_ne same, same]
  rw [first?, insertions_snoc]
  exact List.lookup_append.trans (congrArg _ last)

/-- The store after a history of commands. -/
def after (s : Store κ α) (cs : List (Command κ α)) : Store κ α := cs.foldl (fun s c => (s.answer c).2) s

theorem after_snoc (s : Store κ α) (cs : List (Command κ α)) (c : Command κ α) :
    s.after (cs ++ [c]) = ((s.after cs).answer c).2 :=
  List.foldl_append

/-- A command is answered by the store that the commands before it left. -/
theorem answers_getElem? (s : Store κ α) (cs : List (Command κ α)) (c : Command κ α) (rest : List (Command κ α)) :
    (s.answers (cs ++ c :: rest))[cs.length]? = some ((s.after cs).answer c) := by
  induction cs generalizing s with
  | nil => rfl
  | cons d cs ih => exact ih (s.answer d).2

/-- The keys of a store and what is found under them tell its values. -/
theorem values_eq_filterMap (s : Store κ α) : s.values = s.keys.filterMap s.find? := by
  rw [keys, List.filterMap_map, values, ← List.filterMap_eq_map]
  refine List.filterMap_congr fun e member => ?_
  exact (mem_entries_iff.mp member).symm

/-- Each command keeps the store in step with its history. -/
theorem find?_after (cs : List (Command κ α)) (k : κ) : ((empty : Store κ α).after cs).find? k = first? cs k := by
  induction cs using List.reverseRecOn with
  | nil => rfl
  | append_singleton cs c ih =>
    rw [after_snoc]
    cases c with
    | insert j v =>
      rw [answer, find?_insert, first?_insert, ← ih]
      by_cases same : k = j
      · subst same
        cases ((empty : Store κ α).after cs).find? k <;> simp
      · simp [same]
    | get j | values => rw [answer, ih, first?, first?, insertions_snoc]; simp [Command.forgets, Command.insertion?]
    | clear | drain => rw [answer, find?_empty, first?, insertions_snoc]; rfl

theorem keys_after (cs : List (Command κ α)) : ((empty : Store κ α).after cs).keys.Perm (inserted cs) := by
  refine (List.perm_ext_iff_of_nodup (nodup_keys _) (List.nodup_dedup _)).mpr fun k => ?_
  refine Iff.trans ?_ mem_inserted_iff.symm
  rw [← find?_after, Option.isSome_iff_ne_none, Ne, find?_eq_none_iff, not_not]

theorem values_after (cs : List (Command κ α)) : ((empty : Store κ α).after cs).values.Perm (firsts cs) := by
  rw [values_eq_filterMap, funext (find?_after cs)]
  exact (keys_after cs).filterMap _

/-- A store is a map in which the first write wins. Whatever commands were given to an empty one, of each key it gives
the value first inserted since the contents were last forgotten; an insertion answers with that value, and says that
it is new exactly if there was none. As many entries are counted as keys were inserted since then. Listing gives the
first values, each once, and leaves them; draining gives them too and leaves nothing. -/
theorem answers_first_writes (cs : List (Command κ α)) :
    let s := (empty : Store κ α).after cs
    (∀ c rest, ((empty : Store κ α).answers (cs ++ c :: rest))[cs.length]? = some (s.answer c)) ∧
    (∀ k, s.answer (.get k) = (.found (first? cs k), s)) ∧
    (∀ k v, (s.answer (.insert k v)).1 = .stored ((first? cs k).getD v) (first? cs k).isNone) ∧
    (∃ vs, vs.Perm (firsts cs) ∧ s.answer .values = (.listed vs, s) ∧ s.answer .drain = (.listed vs, empty)) ∧
    s.answer .clear = (.done, empty) ∧
    s.size = (inserted cs).length ∧ (s.isEmpty = true ↔ s.size = 0) := by
  intro s
  refine ⟨answers_getElem? empty cs, fun k => ?_, fun k v => ?_, ?_, rfl, ?_, isEmpty_iff_size s⟩
  · rw [answer, find?_after]
  · rw [answer, ← find?_after]
    cases found : s.find? k with
    | some kept => rw [insert_of_some v found]; rfl
    | none => exact congrArg (fun kept : α × Bool => Answer.stored kept.1 kept.2) (insert_of_none v found).2
  · exact ⟨s.values, values_after cs, rfl, rfl⟩
  · rw [← length_keys]
    exact (keys_after cs).length_eq

example :
    let cs : List (Command String Nat) := [.insert "a" 1, .drain, .insert "a" 2, .insert "b" 3, .insert "a" 4]
    first? cs "a" = some 2 ∧ inserted cs = ["b", "a"] ∧ (firsts cs).length = 2 := by decide

end LogThrottle.Store
