/-
**Integers as doubles.**

Rounding an integer to the nearest double never turns the order of integers around: a larger one has
a magnitude word that is at least as large. Between two powers of two the words count units of one size,
so the rounded quotient decides; from one power to the next the words go on where they stopped.

* `roundHalfEven_mono`: larger numbers have larger quotients;
* `nearest_integer`: the magnitude word of a positive integer, by its power of two;
* `rank_ofInt_mono`: larger integers are larger doubles;
* `isNaN_ofInt`: and none is a NaN.
-/

import DocTable.Number.Double
import Mathlib.Order.MinMax
import Mathlib.Tactic.SplitIfs

namespace DocTable.Double

/-! ### Rounded quotients -/

theorem div_le_roundHalfEven (num den : Nat) : num / den ≤ roundHalfEven num den := by
  unfold roundHalfEven
  dsimp only
  split
  · exact Nat.le_refl _
  · split
    · exact Nat.le_succ _
    · exact Nat.le_add_right _ _

theorem roundHalfEven_le_div (num den : Nat) : roundHalfEven num den ≤ num / den + 1 := by
  unfold roundHalfEven
  dsimp only
  split
  · exact Nat.le_succ _
  · split
    · exact Nat.le_refl _
    · exact Nat.add_le_add_left (Nat.le_of_lt_succ (Nat.mod_lt _ Nat.two_pos)) _

/-- **Larger numbers** have larger quotients. -/
theorem roundHalfEven_mono {m n : Nat} (le : m ≤ n) (den : Nat) :
    roundHalfEven m den ≤ roundHalfEven n den := by
  rcases Nat.lt_or_eq_of_le (Nat.div_le_div_right le : m / den ≤ n / den) with below | same
  · calc roundHalfEven m den ≤ m / den + 1 := roundHalfEven_le_div m den
      _ ≤ n / den := below
      _ ≤ roundHalfEven n den := div_le_roundHalfEven n den
  · have rests : m % den ≤ n % den := by
      have left := Nat.div_add_mod m den
      have right := Nat.div_add_mod n den
      rw [same] at left
      omega
    unfold roundHalfEven
    dsimp only
    rw [same]
    split_ifs <;> omega

theorem roundHalfEven_one (num : Nat) : roundHalfEven num 1 = num := by
  simp [roundHalfEven, Nat.mod_one]

/-! ### The word of a positive integer -/

/-- How many units of its power of two a positive integer holds. -/
def integerUnits (n : Nat) : Nat :=
  if 52 ≤ n.log2 then roundHalfEven n (2 ^ (n.log2 - 52)) else n * 2 ^ (52 - n.log2)

theorem scaleOf_integer {n : Nat} (positive : n ≠ 0) : scaleOf n 1 = (n.log2 : Int) - 52 := by
  have reached : ¬n < 2 ^ n.log2 := Nat.not_lt.mpr (Nat.log2_self_le positive)
  have whole : (n.log2 : Int) - (Nat.log2 1 : Nat) = n.log2 := Int.sub_zero _
  unfold scaleOf
  simp only [whole, Int.natCast_nonneg, if_true, Int.toNat_natCast, Nat.one_mul, reached, decide_false,
    Bool.false_eq_true, if_false]
  omega

/-- **The magnitude word of a positive integer**: its power of two, then its units. -/
theorem nearest_integer {n : Nat} (positive : n ≠ 0) :
    nearest n 1 = min infinityMagnitude ((n.log2 + 1022) * 2 ^ 52 + integerUnits n) := by
  have power : ((n.log2 : Int) - 52 + 1074).toNat = n.log2 + 1022 := by omega
  unfold nearest integerUnits
  rw [if_neg positive, scaleOf_integer positive]
  dsimp only
  rw [power]
  by_cases large : 52 ≤ n.log2
  · rw [if_pos (show (0 : Int) ≤ n.log2 - 52 by omega), if_pos large, Nat.one_mul,
      show ((n.log2 : Int) - 52).toNat = n.log2 - 52 by omega]
  · rw [if_neg (show ¬(0 : Int) ≤ n.log2 - 52 by omega), if_neg large, roundHalfEven_one,
      show (-((n.log2 : Int) - 52)).toNat = 52 - n.log2 by omega]

/-- There are from `2 ^ 52` to `2 ^ 53` units. -/
theorem integerUnits_bounds {n : Nat} (positive : n ≠ 0) :
    2 ^ 52 ≤ integerUnits n ∧ integerUnits n ≤ 2 ^ 53 := by
  have least := Nat.log2_self_le positive
  have most : n < 2 ^ (n.log2 + 1) := Nat.lt_log2_self
  unfold integerUnits
  by_cases large : 52 ≤ n.log2
  · rw [if_pos large]
    have unit : 0 < 2 ^ (n.log2 - 52) := Nat.two_pow_pos _
    have low : 2 ^ 52 ≤ n / 2 ^ (n.log2 - 52) := by
      rw [Nat.le_div_iff_mul_le unit, ← Nat.pow_add]
      rwa [Nat.add_sub_cancel' large]
    have high : n / 2 ^ (n.log2 - 52) < 2 ^ 53 := by
      rw [Nat.div_lt_iff_lt_mul unit, ← Nat.pow_add]
      rwa [show 53 + (n.log2 - 52) = n.log2 + 1 by omega]
    exact ⟨low.trans (div_le_roundHalfEven _ _), (roundHalfEven_le_div _ _).trans high⟩
  · rw [if_neg large]
    have small : n.log2 ≤ 52 := by omega
    constructor
    · calc 2 ^ 52 = 2 ^ n.log2 * 2 ^ (52 - n.log2) := by rw [← Nat.pow_add, Nat.add_sub_cancel' small]
        _ ≤ n * 2 ^ (52 - n.log2) := Nat.mul_le_mul_right _ least
    · calc n * 2 ^ (52 - n.log2) ≤ 2 ^ (n.log2 + 1) * 2 ^ (52 - n.log2) :=
            Nat.mul_le_mul_right _ most.le
        _ = 2 ^ 53 := by rw [← Nat.pow_add, show n.log2 + 1 + (52 - n.log2) = 53 by omega]

/-- Larger integers have larger words. -/
theorem nearest_integer_mono {m n : Nat} (le : m ≤ n) : nearest m 1 ≤ nearest n 1 := by
  by_cases zero : m = 0
  · rw [zero]
    exact Nat.zero_le _
  · have positive : n ≠ 0 := by omega
    rw [nearest_integer zero, nearest_integer positive]
    refine min_le_min_left _ ?_
    have powers : m.log2 ≤ n.log2 :=
      (Nat.le_log2 positive).mpr ((Nat.log2_self_le zero).trans le)
    rcases Nat.lt_or_eq_of_le powers with below | same
    · have most := (integerUnits_bounds zero).2
      have least := (integerUnits_bounds positive).1
      omega
    · have units : integerUnits m ≤ integerUnits n := by
        unfold integerUnits
        rw [same]
        split
        · exact roundHalfEven_mono le _
        · exact Nat.mul_le_mul_right _ le
      rw [same]
      exact Nat.add_le_add_left units _

theorem nearest_le_infinity (num den : Nat) : nearest num den ≤ infinityMagnitude := by
  unfold nearest
  split
  · exact Nat.zero_le _
  · exact min_le_left _ _

/-! ### Signed integers -/

section Word

variable {word : Nat} (fits : word ≤ infinityMagnitude)

include fits

theorem magnitude_ofMagnitude (negative : Bool) : (ofMagnitude negative word).magnitude = word := by
  unfold infinityMagnitude at fits
  unfold magnitude ofMagnitude
  cases negative <;> simp [UInt64.toNat_ofNat'] <;> omega

theorem isNegative_ofMagnitude (negative : Bool) :
    (ofMagnitude negative word).isNegative = negative := by
  unfold infinityMagnitude at fits
  unfold isNegative ofMagnitude
  cases negative <;> simp [UInt64.toNat_ofNat'] <;> omega

end Word

/-- The rank of an integer is its word, with its sign. -/
theorem rank_ofInt (n : Int) :
    (ofInt n).rank = if n < 0 then -(nearest n.natAbs 1 : Int) else nearest n.natAbs 1 := by
  have fits := nearest_le_infinity n.natAbs 1
  unfold rank ofInt
  rw [magnitude_ofMagnitude fits, isNegative_ofMagnitude fits]
  simp only [decide_eq_true_eq]

/-- **Larger integers** are larger doubles. -/
theorem rank_ofInt_mono {m n : Int} (le : m ≤ n) : (ofInt m).rank ≤ (ofInt n).rank := by
  rw [rank_ofInt, rank_ofInt]
  by_cases left : m < 0
  · rw [if_pos left]
    by_cases right : n < 0
    · rw [if_pos right]
      have words := nearest_integer_mono (show n.natAbs ≤ m.natAbs by omega)
      omega
    · rw [if_neg right]
      omega
  · rw [if_neg left, if_neg (show ¬n < 0 by omega)]
    have words := nearest_integer_mono (show m.natAbs ≤ n.natAbs by omega)
    omega

/-- **No integer** is a NaN. -/
theorem isNaN_ofInt (n : Int) : (ofInt n).isNaN = false := by
  have fits := nearest_le_infinity n.natAbs 1
  unfold isNaN ofInt
  rw [magnitude_ofMagnitude fits]
  exact decide_eq_false (Nat.not_lt.mpr fits)

end DocTable.Double
