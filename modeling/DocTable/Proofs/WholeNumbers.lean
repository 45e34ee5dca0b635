/-
**Whole numbers in decimal digits.**

The text of a whole number is a minus sign for a number below zero, and its digits, of which the first is
zero for zero alone. Readers of digits have the number back, those of JSON as far as 64 bits hold it.

* `toList_toString_int`: the characters of a whole number;
* `eq_nil_of_toDigits`: no digits behind a zero in front;
* `readInt?_toString`, `toString_int_injective`: a whole number is told by its text;
* `toInt?_ofLiteral?_toString`: the literal of a whole number of 64 bits.
-/

import DocTable.Json.Number

namespace DocTable

/-! ### Characters -/

theorem toList_toString_nat (n : Nat) : (toString n).toList = Nat.toDigits 10 n := by
  rw [Nat.toString_eq_repr, Nat.toList_repr]

/-- The characters of a whole number: its sign and its digits. -/
theorem toList_toString_int (n : Int) :
    (toString n).toList = (if n < 0 then ['-'] else []) ++ Nat.toDigits 10 n.natAbs := by
  cases n with
  | ofNat n => exact toList_toString_nat n
  | negSucc n =>
    show ("-" ++ Nat.repr (n + 1)).toList = _
    rw [String.toList_append, Nat.toList_repr, if_pos (Int.negSucc_lt_zero n)]
    rfl

theorem isDigit_of_mem_toDigits {n : Nat} {c : Char} (member : c ∈ Nat.toDigits 10 n) :
    c.isDigit = true :=
  Nat.isDigit_of_mem_toDigits (by decide) (by decide) member

/-- A number has a first digit. -/
theorem exists_first_digit (n : Nat) :
    ∃ c rest, Nat.toDigits 10 n = c :: rest ∧ c.isDigit = true := by
  obtain ⟨c, rest, digits⟩ := List.exists_cons_of_ne_nil (Nat.toDigits_ne_nil (n := n) (b := 10))
  exact ⟨c, rest, digits, isDigit_of_mem_toDigits (digits ▸ List.mem_cons_self)⟩

theorem toDigits_injective : Function.Injective (Nat.toDigits 10) := by
  intro n m same
  rw [← Nat.ofDigitChars_ten_toDigits (n := n), same, Nat.ofDigitChars_ten_toDigits]

/-- **Behind a zero** in front there are no digits: a larger number begins as its tenth part does. -/
theorem eq_nil_of_toDigits {n : Nat} {rest : List Char} (digits : Nat.toDigits 10 n = '0' :: rest) :
    rest = [] := by
  induction n using Nat.strongRecOn generalizing rest with
  | ind n ih =>
    by_cases small : n < 10
    · rw [Nat.toDigits_of_lt_base small] at digits
      exact (List.cons.inj digits).2.symm
    · rw [Nat.toDigits_of_base_le (by decide) (by omega)] at digits
      obtain ⟨c, front, tens, _⟩ := exists_first_digit (n / 10)
      rw [tens, List.cons_append] at digits
      obtain ⟨rfl, _⟩ := List.cons.inj digits
      rw [ih (n / 10) (by omega) tens, ← Nat.toDigits_zero 10] at tens
      have zero := toDigits_injective tens
      omega

/-! ### Readers -/

theorem digitsValue_toDigits (n : Nat) : digitsValue (Nat.toDigits 10 n) = n :=
  (Nat.ofDigitChars_eq_foldl).symm.trans Nat.ofDigitChars_ten_toDigits

theorem readNat?_toDigits (n : Nat) : readNat? (Nat.toDigits 10 n) = some n := by
  have digits : (Nat.toDigits 10 n).all Char.isDigit = true :=
    List.all_eq_true.mpr fun c member => isDigit_of_mem_toDigits member
  unfold readNat?
  rw [if_pos ⟨Nat.toDigits_ne_nil, digits⟩, digitsValue_toDigits]

/-- **A whole number** is read back from its text. -/
theorem readInt?_toString (n : Int) : readInt? (toString n).toList = some n := by
  rw [toList_toString_int]
  by_cases negative : n < 0
  · have value : -(n.natAbs : Int) = n := by omega
    rw [if_pos negative, List.singleton_append, readInt?, readNat?_toDigits]
    exact congrArg some value
  · have value : (n.natAbs : Int) = n := by omega
    have digit {c : Char} {rest : List Char} (first : Nat.toDigits 10 n.natAbs = c :: rest) :
        c.isDigit = true := isDigit_of_mem_toDigits (first ▸ List.mem_cons_self)
    rw [if_neg negative, List.nil_append]
    unfold readInt?
    split
    · next first => exact absurd (digit first) (by decide)
    · next first => exact absurd (digit first) (by decide)
    · rw [readNat?_toDigits]
      exact congrArg some value

theorem toString_int_injective : Function.Injective (toString : Int → String) := by
  intro n m same
  have read := readInt?_toString n
  rw [same, readInt?_toString] at read
  exact (Option.some.inj read).symm

/-! ### Literals of JSON -/

namespace Numeral

theorem le_ofDigitChars (chars : List Char) (coefficient : Nat) :
    coefficient ≤ Nat.ofDigitChars 10 chars coefficient := by
  induction chars generalizing coefficient with
  | nil => exact Nat.le_refl _
  | cons c chars ih =>
    rw [Nat.ofDigitChars_cons]
    exact Nat.le_trans (by omega) (ih _)

/-- Digits that 64 bits hold are all taken. -/
theorem absorb_eq {chars : List Char} {coefficient : Nat}
    (fits : Nat.ofDigitChars 10 chars coefficient < 2 ^ 64) :
    absorb coefficient chars = (Nat.ofDigitChars 10 chars coefficient, 0) := by
  induction chars generalizing coefficient with
  | nil => rfl
  | cons c chars ih =>
    rw [Nat.ofDigitChars_cons] at fits ⊢
    unfold absorb
    rw [if_pos (Nat.lt_of_le_of_lt (le_ofDigitChars chars _) fits)]
    exact ih fits

/-- **The literal** of a whole number of 64 bits means that number. -/
theorem toInt?_ofLiteral?_toString {n : Int} (low : -2 ^ 63 ≤ n) (high : n < 2 ^ 64) :
    (ofLiteral? (toString n)).bind toInt? = some n := by
  have digits : ∀ c ∈ Nat.toDigits 10 n.natAbs, c.isDigit = true :=
    fun c member => isDigit_of_mem_toDigits member
  have whole : (Nat.toDigits 10 n.natAbs).takeWhile Char.isDigit = Nat.toDigits 10 n.natAbs := by
    rw [← List.append_nil (Nat.toDigits 10 _), List.takeWhile_append_of_pos digits]
    rfl
  have tail : (Nat.toDigits 10 n.natAbs).dropWhile Char.isDigit = [] := by
    rw [← List.append_nil (Nat.toDigits 10 _), List.dropWhile_append_of_pos digits]
    rfl
  have value : absorb 0 (Nat.toDigits 10 n.natAbs) = (n.natAbs, 0) := by
    rw [absorb_eq (by rw [Nat.ofDigitChars_ten_toDigits]; omega), Nat.ofDigitChars_ten_toDigits]
  unfold ofLiteral?
  rw [toList_toString_int]
  by_cases negative : n < 0
  · have large : 1 ≤ n.natAbs ∧ n.natAbs ≤ 2 ^ 63 := by omega
    have back : -(n.natAbs : Int) = n := by omega
    simp only [if_pos negative, List.singleton_append, whole, tail, value, large, and_self, if_true,
      not_true_eq_false, if_false, Option.bind_some, toInt?, back]
  · have back : (n.natAbs : Int) = n := by omega
    simp only [if_neg negative, List.nil_append]
    split
    · next same => exact absurd (digits '-' (same ▸ List.mem_cons_self)) (by decide)
    · simp [whole, tail, value, toInt?, back]

end Numeral

end DocTable
