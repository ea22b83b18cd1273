import Mathlib
import LogThrottle.Digest

/-! What can be read back from the line of a digest. The count ends before the first space that follows it, and the
duration, in which no space is written, begins after the last one of the line, so the template between them may be
anything. A duration is read back from its digits and from the name of its unit. -/
namespace LogThrottle

section Cutting
variable {p : Char → Bool} {front front' rest rest' : List Char}

theorem takeWhile_front (within : ∀ c ∈ front, p c) (beyond : ∀ c ∈ rest.head?, p c = false) :
    (front ++ rest).takeWhile p = front := by
  rw [List.takeWhile_append_of_pos within]
  cases rest with
  | nil => exact List.append_nil front
  | cons c rest => simp [beyond c rfl]

/-- A text is cut in one way into a front of characters of one kind and a rest that begins with none. -/
theorem front_unique (within : ∀ c ∈ front, p c) (within' : ∀ c ∈ front', p c)
    (beyond : ∀ c ∈ rest.head?, p c = false) (beyond' : ∀ c ∈ rest'.head?, p c = false)
    (same : front ++ rest = front' ++ rest') : front = front' ∧ rest = rest' := by
  have fronts : front = front' := calc
    front = (front ++ rest).takeWhile p := (takeWhile_front within beyond).symm
    _ = (front' ++ rest').takeWhile p := by rw [same]
    _ = front' := takeWhile_front within' beyond'
  subst fronts
  exact ⟨rfl, List.append_cancel_left same⟩

/-- The last space of a text is where a back without spaces begins. -/
theorem back_unique {back back' : List Char} (within : ' ' ∉ back) (within' : ' ' ∉ back')
    (same : front ++ ' ' :: back = front' ++ ' ' :: back') : front = front' ∧ back = back' := by
  have mirrored : back.reverse ++ ' ' :: front.reverse = back'.reverse ++ ' ' :: front'.reverse := by
    simpa using congrArg List.reverse same
  have spaceless : ∀ {cs : List Char}, ' ' ∉ cs → ∀ c ∈ cs.reverse, (c != ' ') = true :=
    fun none c member => bne_iff_ne.mpr (ne_of_mem_of_not_mem (List.mem_reverse.mp member) none)
  obtain ⟨backs, fronts⟩ := front_unique (spaceless within) (spaceless within') (by simp) (by simp) mirrored
  exact ⟨List.reverse_injective (List.cons.inj fronts).2, List.reverse_injective backs⟩

end Cutting

theorem isDigit_of_mem_decimal {n : Nat} {c : Char} (h : c ∈ Nat.toDigits 10 n) : c.isDigit :=
  Nat.isDigit_of_mem_toDigits (by decide) (by decide) h

theorem decimal_injective {m n : Nat} (h : Nat.toDigits 10 m = Nat.toDigits 10 n) : m = n := by
  rw [← Nat.ofDigitChars_ten_toDigits (n := m), h, Nat.ofDigitChars_ten_toDigits]

namespace Duration

section Fractions
variable {places m n : Nat} {c : Char}

theorem length_digits (places n : Nat) : (digits places n).length = places := by
  induction places generalizing n with
  | zero => rfl
  | succ places ih => rw [digits, List.length_append, ih, List.length_singleton]

theorem isDigit_of_mem_digits (h : c ∈ digits places n) : c.isDigit := by
  induction places generalizing n with
  | zero => exact absurd h List.not_mem_nil
  | succ places ih =>
    rcases List.mem_append.mp h with front | last
    · exact ih front
    · rw [List.mem_singleton.mp last, Nat.isDigit_digitChar]
      exact decide_eq_true (Nat.mod_lt n (by decide))

/-- The digits lose nothing of a fraction. -/
theorem ofDigitChars_digits (places n : Nat) : Nat.ofDigitChars 10 (digits places n) 0 = n % 10 ^ places := by
  induction places generalizing n with
  | zero => exact (Nat.mod_one n).symm
  | succ places ih =>
    rw [digits, Nat.ofDigitChars_append, ih,
      Nat.ofDigitChars_cons_digitChar_of_lt_ten (Nat.mod_lt n (by decide)), Nat.ofDigitChars_nil,
      Nat.pow_succ', Nat.mod_mul, Nat.add_comm]

/-- The digits without the zeros at their end. -/
def stripped (places n : Nat) : List Char := (digits places n).rdropWhile (· = '0')

theorem tail_fraction (places n : Nat) : (fraction places n).tail = stripped places n := by
  rw [fraction]
  split
  · next none => exact none.symm
  · next some => rfl

/-- What was stripped is known from how many digits are left. -/
theorem digits_eq_padded (places n : Nat) :
    digits places n = stripped places n ++ List.replicate (places - (stripped places n).length) '0' := by
  set zeros := (digits places n).rtakeWhile (· = '0')
  have split : stripped places n ++ zeros = digits places n := List.rdropWhile_append_rtakeWhile
  have zero : zeros = List.replicate zeros.length '0' :=
    List.eq_replicate_of_mem fun c member => of_decide_eq_true (List.mem_rtakeWhile_imp (p := (· = '0')) member)
  have lengths : (stripped places n).length + zeros.length = places := by
    rw [← List.length_append, split, length_digits]
  have count : places - (stripped places n).length = zeros.length := Nat.sub_eq_of_eq_add' lengths.symm
  rw [count, ← zero, split]

theorem fraction_injective (h : fraction places m = fraction places n) : m % 10 ^ places = n % 10 ^ places := by
  have same : stripped places m = stripped places n := by rw [← tail_fraction, h, tail_fraction]
  rw [← ofDigitChars_digits, digits_eq_padded, same, ← digits_eq_padded, ofDigitChars_digits]

/-- What a fraction begins with is no digit of the whole part. -/
theorem head_fraction (places n : Nat) : ∀ c ∈ (fraction places n).head?, c.isDigit = false := by
  rw [fraction]
  split
  · simp
  · rintro c ⟨⟩
    rfl

theorem mem_fraction (h : c ∈ fraction places n) : c.isDigit ∨ c = '.' := by
  rw [fraction] at h
  split at h
  · exact absurd h List.not_mem_nil
  · rcases List.mem_cons.mp h with point | digit
    · exact .inr point
    · exact .inl (isDigit_of_mem_digits ((List.rdropWhile_prefix (· = '0') _).subset digit))

end Fractions

/-- Units with the number of their decimal places above a nanosecond. -/
def units : List (Nat × String) := [(9, "s"), (6, "ms"), (3, "µs"), (0, "ns")]

/-- The number of a duration in a unit. -/
def numeral (places n : Nat) : List Char :=
  Nat.toDigits 10 (n / 10 ^ places) ++ fraction places (n % 10 ^ places)

section Texts
variable {places m n : Nat} {c : Char} {d d' : Duration}

theorem exists_unit (d : Duration) : ∃ u ∈ units, d.chars = numeral u.1 d.nanos ++ u.2.toList := by
  unfold chars
  split
  · exact ⟨(9, "s"), by decide, rfl⟩
  split
  · exact ⟨(6, "ms"), by decide, rfl⟩
  split
  · exact ⟨(3, "µs"), by decide, rfl⟩
  · exact ⟨(0, "ns"), by decide, rfl⟩

theorem mem_numeral (h : c ∈ numeral places n) : c.isDigit ∨ c = '.' :=
  (List.mem_append.mp h).elim (fun digit => .inl (isDigit_of_mem_decimal digit)) mem_fraction

theorem numeral_injective (h : numeral places m = numeral places n) : m = n := by
  obtain ⟨wholes, fractions⟩ := front_unique (fun _ => isDigit_of_mem_decimal) (fun _ => isDigit_of_mem_decimal)
    (head_fraction _ _) (head_fraction _ _) h
  have parts := fraction_injective fractions
  rw [Nat.mod_mod, Nat.mod_mod] at parts
  calc
    m = 10 ^ places * (m / 10 ^ places) + m % 10 ^ places := (Nat.div_add_mod m _).symm
    _ = 10 ^ places * (n / 10 ^ places) + n % 10 ^ places := by rw [decimal_injective wholes, parts]
    _ = n := Nat.div_add_mod n _

/-- No unit has a digit or a point for its first letter. -/
theorem units_head : ∀ u ∈ units, ∀ c ∈ u.2.toList.head?, (c.isDigit || c = '.') = false := by
  simp [units]

theorem units_spaceless : ∀ u ∈ units, ' ' ∉ u.2.toList := by
  simp [units]

theorem units_named_apart : (units.map fun u => u.2.toList).Nodup := by
  simp [units]

/-- No two durations are written alike: the number ends where the name of the unit begins, and the unit says how many
places the number has. -/
theorem chars_injective (h : d.chars = d'.chars) : d = d' := by
  obtain ⟨u, listed, written⟩ := exists_unit d
  obtain ⟨v, listed', written'⟩ := exists_unit d'
  rw [written, written'] at h
  obtain ⟨numerals, names⟩ := front_unique (p := fun c => c.isDigit || c = '.')
    (fun c member => by simpa using mem_numeral member) (fun c member => by simpa using mem_numeral member)
    (units_head u listed) (units_head v listed') h
  obtain rfl : u = v := List.inj_on_of_nodup_map units_named_apart listed listed' names
  have nanos := numeral_injective numerals
  cases d
  cases d'
  subst nanos
  rfl

theorem space_not_mem_chars (d : Duration) : ' ' ∉ d.chars := by
  obtain ⟨u, listed, written⟩ := exists_unit d
  rw [written, List.mem_append]
  rintro (number | name)
  · exact absurd (mem_numeral number) (by decide)
  · exact units_spaceless u listed name

end Texts

end Duration

namespace Digest

/-- The characters of a line, cut behind the count and at the last space. -/
theorem toList_text (d : Digest) : d.text.toList =
    opening.toList ++ (Nat.toDigits 10 d.suppressed.toNat ++ ' ' :: ("logs similar to '".toList ++
      (d.topic.template.toList ++ "' in".toList ++ ' ' :: (d.elapsed.chars ++ [')'])))) := by
  have count : toString d.suppressed = String.ofList (Nat.toDigits 10 d.suppressed.toNat) :=
    Nat.toString_eq_ofList_toDigits
  simp only [text, count, Duration.text, String.toList_append, String.toList_ofList, List.append_assoc]
  rfl

/-- Digests are written alike exactly when their templates, their counts and their durations are the same. -/
theorem text_eq_iff (d d' : Digest) : d.text = d'.text ↔
    d.topic.template = d'.topic.template ∧ d.suppressed = d'.suppressed ∧ d.elapsed = d'.elapsed := by
  constructor
  · intro same
    have lines := congrArg String.toList same
    rw [toList_text, toList_text] at lines
    obtain ⟨counts, rest⟩ := front_unique (p := Char.isDigit) (fun _ => isDigit_of_mem_decimal)
      (fun _ => isDigit_of_mem_decimal) (by simp) (by simp) (List.append_cancel_left lines)
    obtain ⟨templates, durations⟩ := back_unique (by simp [d.elapsed.space_not_mem_chars])
      (by simp [d'.elapsed.space_not_mem_chars]) (List.append_cancel_left (List.cons.inj rest).2)
    exact ⟨String.toList_inj.mp (List.append_cancel_right templates), UInt64.toNat_inj.mp (decimal_injective counts),
      Duration.chars_injective (List.append_cancel_right durations)⟩
  · rintro ⟨template, suppressed, elapsed⟩
    rw [text, text, template, suppressed, elapsed]

end Digest

end LogThrottle
