import Mathlib
import LogThrottle.Template.Fill

/-! What filling makes of a template. The template is cut at its placeholders, each of them the leftmost one of what
is left, and the texts of the arguments are put between the pieces. -/
namespace LogThrottle.Template

/-- What stands for an argument. -/
def placeholder : List Char := ['\x7b', '\x7d']

/-- A template cut at its leftmost placeholder, and what follows cut in the same way. -/
inductive Cut : List Char → List (List Char) → Prop where
  | whole {t : List Char} (nowhere : ¬placeholder <:+: t) : Cut t [t]
  | leftmost {p rest : List Char} {ps : List (List Char)}
      (first : ∀ q r, p ++ placeholder ++ rest = q ++ placeholder ++ r → p.length ≤ q.length)
      (later : Cut rest ps) : Cut (p ++ placeholder ++ rest) (p :: ps)

/-- The pieces of a template between its placeholders. -/
def pieces : List Char → List (List Char)
  | '\x7b' :: '\x7d' :: rest => [] :: pieces rest
  | c :: rest => (pieces rest).modifyHead (c :: ·)
  | [] => [[]]

/-- Pieces with texts between them, and with placeholders where the texts have run out. -/
def woven : List (List Char) → List String → List Char
  | p :: q :: ps, text :: texts => p ++ text.toList ++ woven (q :: ps) texts
  | p :: q :: ps, [] => p ++ placeholder ++ woven (q :: ps) []
  | [p], _ => p
  | [], _ => []

section Cuts
variable {t : List Char} {ps qs : List (List Char)}

theorem Cut.ne_nil (h : Cut t ps) : ps ≠ [] := by
  cases h <;> exact List.cons_ne_nil _ _

/-- There is one way to cut a template. -/
theorem Cut.unique (h : Cut t ps) (h' : Cut t qs) : ps = qs := by
  induction h generalizing qs with
  | whole nowhere =>
    cases h' with
    | whole => rfl
    | leftmost => exact absurd ⟨_, _, rfl⟩ nowhere
  | leftmost first later ih =>
    generalize written : _ ++ placeholder ++ _ = t at h'
    cases h' with
    | whole nowhere => exact absurd ⟨_, _, written⟩ nowhere
    | leftmost first' later' =>
      have le := first _ _ written
      have ge := first' _ _ written.symm
      rw [List.append_assoc, List.append_assoc] at written
      obtain ⟨rfl, same⟩ := List.append_inj written (Nat.le_antisymm le ge)
      cases List.append_cancel_left same
      rw [ih later']

/-- A character in front that begins no placeholder belongs to the first piece. -/
theorem Cut.cons {c : Char} (h : Cut t ps) (apart : ¬placeholder <+: c :: t) :
    Cut (c :: t) (ps.modifyHead (c :: ·)) := by
  cases h with
  | whole nowhere =>
    refine .whole fun found => ?_
    exact (List.infix_cons_iff.mp found).elim apart nowhere
  | @leftmost p rest ps first later =>
    refine .leftmost (p := c :: p) (fun q r written => ?_) later
    cases q with
    | nil => exact absurd ⟨r, written.symm⟩ apart
    | cons d q => exact Nat.succ_le_succ (first q r (List.cons.inj written).2)

theorem cut_pieces (t : List Char) : Cut t (pieces t) := by
  fun_induction pieces t with
  | case1 rest ih => exact .leftmost (p := []) (fun _ _ _ => Nat.zero_le _) ih
  | case2 c rest apart ih =>
    refine ih.cons fun ⟨r, written⟩ => ?_
    obtain ⟨rfl, rfl⟩ := List.cons.inj written
    exact apart r rfl rfl
  | case3 => exact .whole (by decide)

theorem cut_iff : Cut t ps ↔ ps = pieces t :=
  ⟨fun h => h.unique (cut_pieces t), fun h => h ▸ cut_pieces t⟩

end Cuts

section Fillings
variable {t : List Char} {args shown : List Argument} {texts : List String} {fault : Fault}

theorem exists_pieces (t : List Char) : ∃ q qs, pieces t = q :: qs :=
  List.exists_cons_of_ne_nil (cut_pieces t).ne_nil

theorem hasPlaceholder_iff (t : List Char) : hasPlaceholder t = false ↔ (pieces t).length = 1 := by
  fun_induction hasPlaceholder t with
  | case1 rest =>
    obtain ⟨q, qs, cut⟩ := exists_pieces rest
    simp [pieces, cut]
  | case2 c rest apart ih =>
    rw [ih, pieces.eq_2 c rest apart, List.length_modifyHead]
  | case3 => simp [pieces]

/-- A character in front of the first piece is a character in front of the whole. -/
theorem woven_modifyHead (c : Char) (ps : List (List Char)) (h : ps ≠ []) (texts : List String) :
    woven (ps.modifyHead (c :: ·)) texts = c :: woven ps texts := by
  match ps, texts with
  | [p], _ => rfl
  | p :: q :: ps, [] => rfl
  | p :: q :: ps, text :: texts => rfl

/-- Filling shows as many arguments as there are placeholders, and puts what they write between the pieces. -/
theorem fillChars_eq (t : List Char) (args : List Argument) :
    fillChars t args = woven (pieces t) <$> (args.take ((pieces t).length - 1)).mapM Argument.written := by
  fun_induction fillChars t args with
  | case1 rest arg args ih =>
    obtain ⟨q, qs, cut⟩ := exists_pieces rest
    rw [pieces, ih, cut]
    simp only [List.length_cons, Nat.add_sub_cancel, List.take_succ_cons, List.mapM_cons]
    cases arg.written with
    | error fault => rfl
    | ok text => cases (args.take qs.length).mapM Argument.written <;> rfl
  | case2 rest ih =>
    obtain ⟨q, qs, cut⟩ := exists_pieces rest
    rw [pieces, ih, cut, List.take_nil, List.take_nil]
    rfl
  | case3 c rest args early late ih =>
    have apart : ∀ r, c = '\x7b' → rest = '\x7d' :: r → False := by
      intro r opening closing
      cases args with
      | nil => exact late r rfl opening closing
      | cons arg args => exact early r arg args rfl opening closing
    rw [pieces.eq_2 c rest apart, ih, List.length_modifyHead]
    cases (args.take ((pieces rest).length - 1)).mapM Argument.written with
    | error fault => rfl
    | ok texts => exact congrArg Except.ok (woven_modifyHead c _ (cut_pieces rest).ne_nil texts).symm
  | case4 args => rfl

/-- Arguments that are all shown are shown one by one. -/
theorem mapM_written_ok : shown.mapM Argument.written = .ok texts ↔
    List.Forall₂ (fun arg text => arg.written = .ok text) shown texts := by
  induction shown generalizing texts with
  | nil => cases texts <;> simp [pure, Except.pure]
  | cons arg shown ih =>
    rw [List.mapM_cons]
    cases written : arg.written with
    | error fault => cases texts <;> simp [bind, Except.bind, written]
    | ok text =>
      cases rest : shown.mapM Argument.written with
      | error fault => cases texts <;> simp [bind, Except.bind, ← ih, rest, written]
      | ok others => cases texts <;> simp [bind, Except.bind, pure, Except.pure, ← ih, rest, written]

/-- The fault that is raised is that of the first argument that has one. -/
theorem mapM_written_error : shown.mapM Argument.written = .error fault ↔
    ∃ before arg after, shown = before ++ arg :: after ∧
      (∀ calm ∈ before, ∃ text, calm.written = .ok text) ∧ arg.written = .error fault := by
  induction shown with
  | nil => simp [pure, Except.pure]
  | cons first shown ih =>
    rw [List.mapM_cons]
    constructor
    · intro raised
      cases written : first.written with
      | error other =>
        rw [written] at raised
        cases raised
        exact ⟨[], first, shown, rfl, fun _ member => (List.not_mem_nil member).elim, written⟩
      | ok text =>
        have later : shown.mapM Argument.written = .error fault := by
          cases rest : shown.mapM Argument.written with
          | error other => simpa [written, rest, bind, Except.bind] using raised
          | ok texts => simp [written, rest, bind, Except.bind, pure, Except.pure] at raised
        obtain ⟨before, arg, after, rfl, calm, faulty⟩ := ih.mp later
        exact ⟨first :: before, arg, after, rfl, List.forall_mem_cons.mpr ⟨⟨text, written⟩, calm⟩, faulty⟩
    · rintro ⟨before, arg, after, split, calm, faulty⟩
      cases before with
      | nil =>
        obtain ⟨rfl, rfl⟩ := List.cons.inj split
        rw [faulty]
        rfl
      | cons b before =>
        obtain ⟨rfl, rfl⟩ := List.cons.inj split
        obtain ⟨⟨text, written⟩, calm⟩ := List.forall_mem_cons.mp calm
        rw [written, ih.mpr ⟨before, arg, after, rfl, calm, faulty⟩]
        rfl

end Fillings

/-- With no texts the pieces make the template again. -/
theorem woven_pieces (t : List Char) : woven (pieces t) [] = t := by
  fun_induction pieces t with
  | case1 rest ih =>
    obtain ⟨q, qs, cut⟩ := exists_pieces rest
    rw [cut] at ih ⊢
    exact congrArg (placeholder ++ ·) ih
  | case2 c rest apart ih => rw [woven_modifyHead c _ (cut_pieces rest).ne_nil, ih]
  | case3 => rfl

/-- How many arguments a template has a place for. -/
def places (template : String) : Nat := (pieces template.toList).length - 1

section Whole
variable (template : String) (args : List Argument)

theorem places_eq_zero : places template = 0 ↔ hasPlaceholder template.toList = false := by
  obtain ⟨q, qs, cut⟩ := exists_pieces template.toList
  rw [hasPlaceholder_iff, places, cut, List.length_cons, Nat.add_sub_cancel, Nat.add_eq_right]

theorem take_places (h : args = [] ∨ places template = 0) : args.take (places template) = [] := by
  rcases h with rfl | none
  · exact List.take_nil
  · rw [none, List.take_zero]

theorem fillChars_places : fillChars template.toList args =
    woven (pieces template.toList) <$> (args.take (places template)).mapM Argument.written :=
  fillChars_eq template.toList args

/-- The loop makes the template itself where the template is given back. -/
theorem fillChars_unchanged (h : args = [] ∨ places template = 0) :
    fillChars template.toList args = .ok template.toList := by
  rw [fillChars_places, take_places template args h]
  exact congrArg Except.ok (woven_pieces template.toList)

/-- The shortcut is seen only in whether the template was copied. -/
theorem fill_eq : fill template args =
    (fun text => ⟨String.ofList text, decide (args = [] ∨ places template = 0)⟩) <$>
      fillChars template.toList args := by
  have short : (args.isEmpty || !hasPlaceholder template.toList) = decide (args = [] ∨ places template = 0) := by
    rw [Bool.eq_iff_iff]
    simp [places_eq_zero]
  rw [fill, short]
  by_cases h : args = [] ∨ places template = 0
  · rw [if_pos (decide_eq_true h), fillChars_unchanged template args h, decide_eq_true h]
    exact congrArg (fun text => Except.ok (Filled.mk text true)) String.ofList_toList.symm
  · rw [decide_eq_false h]
    cases fillChars template.toList args <;> rfl

/-- A template has one cut into pieces at its successive leftmost placeholders. Filling it shows, in order, as many of
the arguments as there are places, and ends in the fault of the first of them that has one. Without a fault the texts
stand between the pieces, and a placeholder stands where the arguments ran out. The template is given back without a
copy exactly when there are no arguments or no places, and the loop makes the same text then too. -/
theorem fill_pieces :
    (∀ ps, Cut template.toList ps ↔ ps = pieces template.toList) ∧
    (∀ fault, fill template args = .error fault ↔
      ∃ before arg after, args.take (places template) = before ++ arg :: after ∧
        (∀ calm ∈ before, ∃ text, calm.written = .ok text) ∧ arg.written = .error fault) ∧
    (∀ filled, fill template args = .ok filled ↔
      ∃ texts, List.Forall₂ (fun arg text => arg.written = .ok text) (args.take (places template)) texts ∧
        filled.text = String.ofList (woven (pieces template.toList) texts) ∧
        (filled.unchanged = true ↔ args = [] ∨ places template = 0)) ∧
    Filled.text <$> fill template args = String.ofList <$> fillChars template.toList args := by
  refine ⟨fun ps => cut_iff, fun fault => ?faults, fun filled => ?texts, ?loop⟩
  case faults =>
    rw [← mapM_written_error, fill_eq, fillChars_places]
    cases (args.take (places template)).mapM Argument.written <;> simp [Functor.map, Except.map]
  case texts =>
    simp only [← mapM_written_ok]
    rw [fill_eq, fillChars_places]
    cases (args.take (places template)).mapM Argument.written with
    | error fault => simp [Functor.map, Except.map]
    | ok texts =>
      constructor
      · rintro ⟨⟩
        exact ⟨texts, rfl, rfl, decide_eq_true_iff⟩
      · obtain ⟨text, unchanged⟩ := filled
        rintro ⟨_, ⟨⟩, woven, copied⟩
        have flag : decide (args = [] ∨ places template = 0) = unchanged :=
          Bool.eq_iff_iff.mpr (decide_eq_true_iff.trans copied.symm)
        exact congrArg Except.ok (congrArg₂ Filled.mk woven.symm flag)
  case loop =>
    rw [fill_eq]
    cases fillChars template.toList args <;> rfl

end Whole

/-- A brace in front of a placeholder stays, a placeholder that an argument writes is text, and the last placeholder
finds no argument. -/
example : fill "\x7b\x7b\x7d\x7d \x7b\x7d\x7b\x7d" [.text "\x7b\x7d", .integer 3] =
    .ok ⟨"\x7b\x7b\x7d\x7d 3\x7b\x7d", false⟩ := by decide

end LogThrottle.Template
