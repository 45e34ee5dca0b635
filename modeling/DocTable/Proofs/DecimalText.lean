/-
**Numbers as texts write them.**

A text writes a number in decimal digits, any number of zeros in front of them included. A plus sign may
come before the digits, and blanks around it all. Where such a text is read, the number is found that it
writes, and no other text is read.

* `Text.Spells`, `Text.Writes`: what is written, without the readers;
* `exists_blanks_of_trim`, `toList_trim`: what trimming takes and what it leaves;
* `writes_iff`: reading what is left finds what is written.
-/

import DocTable.Number.Decimal
import DocTable.Proofs.Placeholder
import Mathlib.Data.List.DropRight

namespace DocTable.Text

/-- Characters that spell a number: its digits, with an optional plus sign in front. -/
def Spells (chars : List Char) (n : Nat) : Prop :=
  ∃ digits, (chars = digits ∨ chars = '+' :: digits) ∧ digits ≠ [] ∧
    (∀ c ∈ digits, c.isDigit = true) ∧ Nat.ofDigitChars 10 digits 0 = n

/-- A text writes a number that it spells with blanks around. -/
def Writes (text : String) (n : Nat) : Prop :=
  ∃ front chars back, text.toList = front ++ (chars ++ back) ∧ (∀ c ∈ front, isBlank c = true) ∧
    Spells chars n ∧ ∀ c ∈ back, isBlank c = true

/-! ### Blanks -/

/-- Trimming takes blanks from both ends. -/
theorem exists_blanks_of_trim (text : String) :
    ∃ front back, text.toList = front ++ ((trim text).toList ++ back) ∧
      (∀ c ∈ front, isBlank c = true) ∧ ∀ c ∈ back, isBlank c = true := by
  have left : (trim text).toList = (text.toList.dropWhile isBlank).rdropWhile isBlank :=
    String.toList_ofList
  refine ⟨text.toList.takeWhile isBlank, (text.toList.dropWhile isBlank).rtakeWhile isBlank, ?_,
    fun c => List.mem_takeWhile_imp, fun c => List.mem_rtakeWhile_imp⟩
  rw [left, List.rdropWhile_append_rtakeWhile, List.takeWhile_append_dropWhile]

/-- Trimming leaves what is written between blanks. -/
theorem toList_trim {text : String} {front chars back : List Char}
    (parts : text.toList = front ++ (chars ++ back)) (blankFront : ∀ c ∈ front, isBlank c = true)
    (blankBack : ∀ c ∈ back, isBlank c = true) (some_char : chars ≠ [])
    (written : ∀ c ∈ chars, isBlank c = false) : (trim text).toList = chars := by
  have first : ∀ c ∈ (chars ++ back).head?, isBlank c = false := by
    rw [List.head?_append_of_ne_nil _ some_char]
    exact fun c head => written c (List.mem_of_mem_head? head)
  have last : ∀ c ∈ chars.reverse.head?, isBlank c = false :=
    fun c head => written c (List.mem_reverse.mp (List.mem_of_mem_head? head))
  have blanks : ∀ c ∈ back.reverse, isBlank c = true :=
    fun c member => blankBack c (List.mem_reverse.mp member)
  unfold trim
  rw [String.toList_ofList, parts, dropWhile_append_of_head blankFront first, List.reverse_append,
    dropWhile_append_of_head blanks last, List.reverse_reverse]

/-! ### Readers -/

theorem readNat?_eq_some_iff {chars : List Char} {n : Nat} :
    readNat? chars = some n ↔
      chars ≠ [] ∧ (∀ c ∈ chars, c.isDigit = true) ∧ Nat.ofDigitChars 10 chars 0 = n := by
  unfold readNat? digitsValue
  rw [Option.ite_none_right_eq_some, List.all_eq_true, and_assoc, Option.some.injEq,
    Nat.ofDigitChars_eq_foldl]

/-- Characters are read as the number that they spell. -/
theorem readUnsigned?_eq_some_iff {chars : List Char} {n : Nat} :
    readUnsigned? chars = some n ↔ Spells chars n := by
  unfold readUnsigned?
  split
  · next digits =>
    rw [readNat?_eq_some_iff]
    constructor
    · exact fun spelled => ⟨digits, Or.inr rfl, spelled⟩
    · rintro ⟨_, rfl | same, nonempty, digit, value⟩
      · exact absurd (digit '+' List.mem_cons_self) (by decide)
      · cases same
        exact ⟨nonempty, digit, value⟩
  · next unsigned =>
    rw [readNat?_eq_some_iff]
    constructor
    · exact fun spelled => ⟨chars, Or.inl rfl, spelled⟩
    · rintro ⟨digits, rfl | signed, spelled⟩
      · exact spelled
      · exact absurd signed (unsigned digits)

/-- No character of a number is a blank. -/
theorem Spells.not_isBlank {chars : List Char} {n : Nat} (spelled : Spells chars n) :
    ∀ c ∈ chars, isBlank c = false := by
  obtain ⟨digits, sign, _, digit, _⟩ := spelled
  have plain : ∀ c ∈ digits, isBlank c = false := by
    intro c member
    refine Segment.not_isBlank_of_isPathChar ?_
    simp [Segment.isPathChar, Char.isAlphanum, digit c member]
  rcases sign with rfl | rfl
  · exact plain
  · exact List.forall_mem_cons.mpr ⟨rfl, plain⟩

theorem Spells.ne_nil {chars : List Char} {n : Nat} (spelled : Spells chars n) : chars ≠ [] := by
  obtain ⟨digits, rfl | rfl, nonempty, _⟩ := spelled
  · exact nonempty
  · exact List.cons_ne_nil _ _

/-- **What a text writes** is read from it, and nothing else is. -/
theorem writes_iff {text : String} {n : Nat} :
    Writes text n ↔ readUnsigned? (trim text).toList = some n := by
  rw [readUnsigned?_eq_some_iff]
  constructor
  · rintro ⟨front, chars, back, parts, blankFront, spelled, blankBack⟩
    rw [toList_trim parts blankFront blankBack spelled.ne_nil spelled.not_isBlank]
    exact spelled
  · intro spelled
    obtain ⟨front, back, parts, blankFront, blankBack⟩ := exists_blanks_of_trim text
    exact ⟨front, _, back, parts, blankFront, spelled, blankBack⟩

end DocTable.Text
