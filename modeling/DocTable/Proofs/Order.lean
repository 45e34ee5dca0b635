/-
**The order of values.**

Sorting compares any two values, a missing one included: first by kind, then numbers with numbers, texts
with texts, truth values with truth values and instants with instants; values of any other kind tie.
Integers are compared as they are, and a number is compared with a double after rounding. So a double
can tie with two integers that differ, and a NaN ties with every number; nothing else is in the way of a
total preorder.

* `sortCompare_self`, `sortCompare_swap`: a value ties with itself, and the sides can be changed;
* `Double.Hides`: a double that ties with two numbers although these differ;
* `exists_hiding`: only such a double breaks a chain of comparisons;
* `sortCompare_laws`: the laws of the order, with the exact limit of transitivity.
-/

import DocTable.Proofs.Rounding
import DocTable.Value.Order

namespace DocTable

open Std (OrientedCmp ReflCmp TransCmp)

/-- The place of a value's kind, or that of a missing value. -/
def rankOf (a : Option Value) : Nat := (a.map Value.sortRank).getD 0

theorem sortCompare_of_rank_ne {a b : Option Value} (apart : rankOf a ≠ rankOf b) :
    sortCompare a b = compare (rankOf a) (rankOf b) := by
  cases a with
  | none => rfl
  | some u =>
    cases b with
    | none => rfl
    | some v => exact if_neg apart

theorem sortCompare_of_rank_eq {u v : Value} (same : u.sortRank = v.sortRank) :
    sortCompare (some u) (some v) = (u.compare? v).getD .eq := if_pos same

/-- What is not behind has a kind that is not behind. -/
theorem rankOf_le {a b : Option Value} (before : sortCompare a b ≠ .gt) : rankOf a ≤ rankOf b := by
  by_cases same : rankOf a = rankOf b
  · exact same.le
  · rw [sortCompare_of_rank_ne same] at before
    exact Nat.compare_ne_gt.mp before

/-! ### Values that are no numbers -/

/-- What tells apart two values of one kind that are no numbers. -/
def placeOf : Option Value → Int × String
  | some (.bool b) => (if b then 1 else 0, "")
  | some (.dateTime millis) => (millis.toInt, "")
  | some (.string s) => (0, s)
  | _ => (0, "")

/-- The order of values by their places. -/
def comparePlaces : Option Value → Option Value → Ordering :=
  compareLex (compareOn fun a => (placeOf a).1) (compareOn fun a => (placeOf a).2)

instance transCmp_comparePlaces : TransCmp comparePlaces :=
  inferInstanceAs (TransCmp (compareLex _ _))

/-- Values of the kinds without an order are not compared. -/
theorem compare?_eq_none {u : Value} (number : u.sortRank ≠ 1) (text : u.sortRank ≠ 2)
    (truth : u.sortRank ≠ 6) (instant : u.sortRank ≠ 7) (v : Value) : u.compare? v = none := by
  cases u
  case int32 | int64 | double => exact absurd rfl number
  case string => exact absurd rfl text
  case bool => exact absurd rfl truth
  case dateTime => exact absurd rfl instant
  all_goals rfl

/-- Nor do their places differ. -/
theorem placeOf_eq {a : Option Value} (text : rankOf a ≠ 2) (truth : rankOf a ≠ 6)
    (instant : rankOf a ≠ 7) : placeOf a = (0, "") := by
  cases a with
  | none => rfl
  | some u =>
    cases u
    case string => exact absurd rfl text
    case bool => exact absurd rfl truth
    case dateTime => exact absurd rfl instant
    all_goals rfl

theorem exists_string : ∀ {a : Option Value}, rankOf a = 2 → ∃ s, a = some (.string s)
  | some (.string s), _ => ⟨s, rfl⟩

theorem exists_bool : ∀ {a : Option Value}, rankOf a = 6 → ∃ b, a = some (.bool b)
  | some (.bool b), _ => ⟨b, rfl⟩

theorem exists_dateTime : ∀ {a : Option Value}, rankOf a = 7 → ∃ millis, a = some (.dateTime millis)
  | some (.dateTime millis), _ => ⟨millis, rfl⟩

/-- **Values of one kind that are no numbers** are sorted by their places. -/
theorem sortCompare_eq_comparePlaces {a b : Option Value} (same : rankOf a = rankOf b)
    (number : rankOf a ≠ 1) : sortCompare a b = comparePlaces a b := by
  by_cases text : rankOf a = 2
  · obtain ⟨s, rfl⟩ := exists_string text
    obtain ⟨t, rfl⟩ := exists_string (same.symm.trans text)
    rfl
  by_cases truth : rankOf a = 6
  · obtain ⟨p, rfl⟩ := exists_bool truth
    obtain ⟨q, rfl⟩ := exists_bool (same.symm.trans truth)
    cases p <;> cases q <;> rfl
  by_cases instant : rankOf a = 7
  · obtain ⟨m, rfl⟩ := exists_dateTime instant
    obtain ⟨n, rfl⟩ := exists_dateTime (same.symm.trans instant)
    exact Ordering.then_eq.symm
  · have places : comparePlaces a b = .eq := by
      show (compare (placeOf a).1 (placeOf b).1).then (compare (placeOf a).2 (placeOf b).2) = .eq
      rw [placeOf_eq text truth instant, placeOf_eq (same ▸ text) (same ▸ truth) (same ▸ instant)]
      rfl
    rw [places]
    cases a with
    | none => rw [← Nat.compare_eq_eq.mpr same]; rfl
    | some u =>
      cases b with
      | none => rw [← Nat.compare_eq_eq.mpr same]; rfl
      | some v =>
        rw [sortCompare_of_rank_eq same, compare?_eq_none number text truth instant]
        rfl

/-! ### Numbers -/

namespace Double

/-- A double is behind another one if neither is a NaN and its rank is the larger one. -/
theorem compare?_eq_gt_iff {x y : Double} :
    (x.compare? y).getD .eq = .gt ↔ x.isNaN = false ∧ y.isNaN = false ∧ y.rank < x.rank := by
  unfold compare?
  cases x.isNaN <;> cases y.isNaN <;> simp [Int.compare_eq_gt]

theorem compare?_swap (x y : Double) :
    (y.compare? x).getD .eq = ((x.compare? y).getD .eq).swap := by
  unfold compare?
  rw [Bool.or_comm]
  split
  · rfl
  · show compare y.rank x.rank = (compare x.rank y.rank).swap
    exact OrientedCmp.eq_swap

/-- The double of an integer equals the numbers of its rank. -/
theorem equal_ofInt_iff {n : Int} {x : Double} :
    (ofInt n).equal x = true ↔ x.isNaN = false ∧ (ofInt n).rank = x.rank := by
  simp [equal, isNaN_ofInt]

/-- A double hides what is between two numbers if it is a NaN, or if they are integers that both
round to it. -/
def Hides (x : Double) (u v : Value) : Prop :=
  x.isNaN = true ∨ ∃ m n, u.toInt? = some m ∧ v.toInt? = some n ∧
    (ofInt m).equal x = true ∧ (ofInt n).equal x = true

end Double

namespace Value

/-- The double of an integer is the one nearest to it. -/
theorem toDouble?_of_toInt? : ∀ {u : Value} {n : Int}, u.toInt? = some n →
    u.toDouble? = some (.ofInt n)
  | .int32 _, _, rfl => rfl
  | .int64 _, _, rfl => rfl

theorem sortRank_of_toDouble? : ∀ {u : Value} {x : Double}, u.toDouble? = some x → u.sortRank = 1
  | .int32 _, _, _ => rfl
  | .int64 _, _, _ => rfl
  | .double _, _, _ => rfl

theorem exists_toDouble? : ∀ {u : Value}, u.sortRank = 1 → ∃ x, u.toDouble? = some x
  | .int32 _, _ => ⟨_, rfl⟩
  | .int64 _, _ => ⟨_, rfl⟩
  | .double x, _ => ⟨x, rfl⟩

/-- A number that is no integer is a double. -/
theorem eq_double : ∀ {u : Value} {x : Double}, u.toDouble? = some x → u.toInt? = none →
    u = .double x
  | .double _, _, rfl, _ => rfl

/-- Two values are both integers or they are not. -/
theorem integers_or_mixed (u v : Value) :
    (∃ m n, u.toInt? = some m ∧ v.toInt? = some n) ∨ (u.toInt? = none ∨ v.toInt? = none) := by
  cases u.toInt? <;> cases v.toInt? <;> simp

section Numbers

variable {u v : Value}

/-- Integers are compared as integers. -/
theorem compare?_of_toInt? {m n : Int} (left : u.toInt? = some m) (right : v.toInt? = some n) :
    u.compare? v = some (compare m n) := by
  simp [compare?, left, right]

/-- Other numbers are compared as doubles. -/
theorem compare?_of_toDouble? {x y : Double} (left : u.toDouble? = some x) (right : v.toDouble? = some y)
    (mixed : u.toInt? = none ∨ v.toInt? = none) : u.compare? v = some ((x.compare? y).getD .eq) := by
  unfold compare?
  rcases mixed with none | none
  · simp [none, left, right]
  · cases u.toInt? <;> simp [none, left, right]

end Numbers

end Value

/-- What stands at the place of the numbers is one. -/
theorem exists_number {a : Option Value} (number : rankOf a = 1) :
    ∃ u x, a = some u ∧ u.toDouble? = some x := by
  cases a with
  | none => cases number
  | some u =>
    obtain ⟨x, double⟩ := Value.exists_toDouble? number
    exact ⟨u, x, rfl, double⟩

section Numbers

variable {u v : Value}

/-- Integers are sorted as integers. -/
theorem sortCompare_of_toInt? {m n : Int} (left : u.toInt? = some m) (right : v.toInt? = some n) :
    sortCompare (some u) (some v) = compare m n := by
  have same : u.sortRank = v.sortRank :=
    (Value.sortRank_of_toDouble? (Value.toDouble?_of_toInt? left)).trans
      (Value.sortRank_of_toDouble? (Value.toDouble?_of_toInt? right)).symm
  rw [sortCompare_of_rank_eq same, Value.compare?_of_toInt? left right]
  rfl

variable {x y : Double} (left : u.toDouble? = some x) (right : v.toDouble? = some y)

include left right

/-- Other numbers are sorted as doubles. -/
theorem sortCompare_of_toDouble? (mixed : u.toInt? = none ∨ v.toInt? = none) :
    sortCompare (some u) (some v) = (x.compare? y).getD .eq := by
  have same : u.sortRank = v.sortRank :=
    (Value.sortRank_of_toDouble? left).trans (Value.sortRank_of_toDouble? right).symm
  rw [sortCompare_of_rank_eq same, Value.compare?_of_toDouble? left right mixed]
  rfl

/-- Numbers in their order have doubles in their order. -/
theorem rank_le_rank (numberX : x.isNaN = false) (numberY : y.isNaN = false)
    (before : sortCompare (some u) (some v) ≠ .gt) : x.rank ≤ y.rank := by
  rcases Value.integers_or_mixed u v with ⟨m, n, whole, other⟩ | mixed
  · rw [sortCompare_of_toInt? whole other] at before
    cases (Value.toDouble?_of_toInt? whole).symm.trans left
    cases (Value.toDouble?_of_toInt? other).symm.trans right
    exact Double.rank_ofInt_mono (Int.compare_ne_gt.mp before)
  · rw [sortCompare_of_toDouble? left right mixed, ne_eq, Double.compare?_eq_gt_iff] at before
    exact Int.not_lt.mp fun behind => before ⟨numberX, numberY, behind⟩

end Numbers

/-! ### The laws of the order -/

/-- **A value** ties with itself. -/
theorem sortCompare_self (a : Option Value) : sortCompare a a = .eq := by
  by_cases number : rankOf a = 1
  · obtain ⟨u, x, rfl, double⟩ := exists_number number
    rcases Value.integers_or_mixed u u with ⟨m, n, whole, other⟩ | mixed
    · cases whole.symm.trans other
      rw [sortCompare_of_toInt? whole whole]
      exact ReflCmp.compare_self
    · rw [sortCompare_of_toDouble? double double mixed]
      unfold Double.compare?
      split
      · rfl
      · show compare x.rank x.rank = .eq
        exact ReflCmp.compare_self
  · rw [sortCompare_eq_comparePlaces rfl number]
    exact ReflCmp.compare_self

/-- **The sides** of a comparison can be changed. -/
theorem sortCompare_swap (a b : Option Value) : sortCompare b a = (sortCompare a b).swap := by
  by_cases same : rankOf a = rankOf b
  · by_cases number : rankOf a = 1
    · obtain ⟨u, x, rfl, left⟩ := exists_number number
      obtain ⟨v, y, rfl, right⟩ := exists_number (same.symm.trans number)
      rcases Value.integers_or_mixed u v with ⟨m, n, whole, other⟩ | mixed
      · rw [sortCompare_of_toInt? whole other, sortCompare_of_toInt? other whole]
        exact OrientedCmp.eq_swap
      · rw [sortCompare_of_toDouble? left right mixed, sortCompare_of_toDouble? right left mixed.symm]
        exact Double.compare?_swap x y
    · rw [sortCompare_eq_comparePlaces same number,
        sortCompare_eq_comparePlaces same.symm (same ▸ number)]
      exact OrientedCmp.eq_swap
  · rw [sortCompare_of_rank_ne same, sortCompare_of_rank_ne (Ne.symm same)]
    exact OrientedCmp.eq_swap

/-- A double ties with the numbers between which it hides what there is. -/
theorem sortCompare_of_hides {u v : Value} {x : Double} (left : u.sortRank = 1) (right : v.sortRank = 1)
    (hides : x.Hides u v) :
    sortCompare (some u) (some (.double x)) = .eq ∧ sortCompare (some (.double x)) (some v) = .eq := by
  obtain ⟨y, double⟩ := Value.exists_toDouble? left
  obtain ⟨z, other⟩ := Value.exists_toDouble? right
  rw [sortCompare_of_toDouble? double rfl (Or.inr rfl), sortCompare_of_toDouble? rfl other (Or.inl rfl)]
  unfold Double.compare?
  rcases hides with nan | ⟨m, n, whole, next, first, second⟩
  · rw [nan, Bool.or_true, Bool.true_or]
    exact ⟨rfl, rfl⟩
  · cases (Value.toDouble?_of_toInt? whole).symm.trans double
    cases (Value.toDouble?_of_toInt? next).symm.trans other
    obtain ⟨number, first⟩ := Double.equal_ofInt_iff.mp first
    obtain ⟨_, second⟩ := Double.equal_ofInt_iff.mp second
    simp [Double.isNaN_ofInt, number, first, second]

/-- Integers that are turned around have no integer between them, and a number between them equals the
doubles of both. -/
theorem hides_of_integers {u w v : Value} {m n : Int} {y : Double} (whole : u.toInt? = some m)
    (other : v.toInt? = some n) (down : n < m) (middle : w.toDouble? = some y)
    (number : y.isNaN = false) (before : sortCompare (some u) (some w) ≠ .gt)
    (behind : sortCompare (some w) (some v) ≠ .gt) : w = .double y ∧ y.Hides u v := by
  have left := Value.toDouble?_of_toInt? whole
  have right := Value.toDouble?_of_toInt? other
  have back := Double.rank_ofInt_mono down.le
  have first := rank_le_rank left middle (Double.isNaN_ofInt m) number before
  have second := rank_le_rank middle right number (Double.isNaN_ofInt n) behind
  have equal : (Double.ofInt m).rank = y.rank ∧ (Double.ofInt n).rank = y.rank := by omega
  have double : w.toInt? = none := by
    refine Option.eq_none_iff_forall_not_mem.mpr fun k between => ?_
    rw [sortCompare_of_toInt? whole between] at before
    rw [sortCompare_of_toInt? between other] at behind
    have low : m ≤ k := Int.compare_ne_gt.mp before
    have high : k ≤ n := Int.compare_ne_gt.mp behind
    omega
  exact ⟨Value.eq_double middle double, Or.inr ⟨m, n, whole, other,
    Double.equal_ofInt_iff.mpr ⟨number, equal.1⟩, Double.equal_ofInt_iff.mpr ⟨number, equal.2⟩⟩⟩

/-- Numbers whose order is broken have a double between them that hides it. -/
theorem hides_of_turned {u w v : Value} {x y z : Double} (left : u.toDouble? = some x)
    (middle : w.toDouble? = some y) (right : v.toDouble? = some z)
    (before : sortCompare (some u) (some w) ≠ .gt) (behind : sortCompare (some w) (some v) ≠ .gt)
    (turned : sortCompare (some u) (some v) = .gt) : w = .double y ∧ y.Hides u v := by
  cases nan : y.isNaN with
  | true =>
    have double : w.toInt? = none := by
      refine Option.eq_none_iff_forall_not_mem.mpr fun n whole => ?_
      cases (Value.toDouble?_of_toInt? whole).symm.trans middle
      cases (Double.isNaN_ofInt n).symm.trans nan
    exact ⟨Value.eq_double middle double, Or.inl nan⟩
  | false =>
    rcases Value.integers_or_mixed u v with ⟨m, n, whole, other⟩ | mixed
    · rw [sortCompare_of_toInt? whole other, Int.compare_eq_gt] at turned
      exact hides_of_integers whole other turned middle nan before behind
    · rw [sortCompare_of_toDouble? left right mixed, Double.compare?_eq_gt_iff] at turned
      obtain ⟨numberX, numberZ, down⟩ := turned
      have first := rank_le_rank left middle numberX nan before
      have second := rank_le_rank middle right nan numberZ behind
      omega

/-- **Only a double** that hides what is between two numbers breaks a chain of comparisons. -/
theorem exists_hiding {a b c : Option Value} (before : sortCompare a b ≠ .gt)
    (behind : sortCompare b c ≠ .gt) (turned : sortCompare a c = .gt) :
    ∃ u x v, a = some u ∧ b = some (.double x) ∧ c = some v ∧ u.sortRank = 1 ∧ v.sortRank = 1 ∧
      x.Hides u v := by
  have low := rankOf_le before
  have high := rankOf_le behind
  have back : rankOf c ≤ rankOf a := by
    refine rankOf_le ?_
    rw [sortCompare_swap, turned]
    decide
  by_cases number : rankOf b = 1
  · obtain ⟨u, x, rfl, left⟩ := exists_number (show rankOf a = 1 by omega)
    obtain ⟨w, y, rfl, middle⟩ := exists_number number
    obtain ⟨v, z, rfl, right⟩ := exists_number (show rankOf c = 1 by omega)
    obtain ⟨rfl, hides⟩ := hides_of_turned left middle right before behind turned
    exact ⟨u, y, v, rfl, rfl, rfl, Value.sortRank_of_toDouble? left,
      Value.sortRank_of_toDouble? right, hides⟩
  · rw [sortCompare_eq_comparePlaces (by omega) (by omega)] at before behind turned
    have chain := TransCmp.isLE_trans (Ordering.ne_gt_iff_isLE.mp before)
      (Ordering.ne_gt_iff_isLE.mp behind)
    exact absurd turned (Ordering.ne_gt_iff_isLE.mpr chain)

/-- A chain through anything but a double holds. -/
theorem sortCompare_trans {a b c : Option Value} (plain : ∀ x, b ≠ some (.double x))
    (before : sortCompare a b ≠ .gt) (behind : sortCompare b c ≠ .gt) : sortCompare a c ≠ .gt := by
  intro turned
  obtain ⟨_, x, _, _, double, _⟩ := exists_hiding before behind turned
  exact plain x double

/-- **The order for sorting** is a total preorder up to doubles that hide something. Every value ties
with itself, the sides of a comparison can be changed, and three values break a chain exactly if the one
in the middle is a double that hides that the first number is behind the last one. -/
theorem sortCompare_laws (a b c : Option Value) :
    sortCompare a a = .eq ∧ sortCompare b a = (sortCompare a b).swap ∧
      ((sortCompare a b ≠ .gt → sortCompare b c ≠ .gt → sortCompare a c ≠ .gt) ↔
        ¬∃ u x v, a = some u ∧ b = some (.double x) ∧ c = some v ∧ u.sortRank = 1 ∧
          v.sortRank = 1 ∧ x.Hides u v ∧ sortCompare a c = .gt) := by
  refine ⟨sortCompare_self a, sortCompare_swap a b, fun chain => ?_, fun shown before behind turned => ?_⟩
  · rintro ⟨u, x, v, rfl, rfl, rfl, left, right, hides, turned⟩
    obtain ⟨first, second⟩ := sortCompare_of_hides left right hides
    exact chain (by rw [first]; decide) (by rw [second]; decide) turned
  · obtain ⟨u, x, v, one, two, three, left, right, hides⟩ := exists_hiding before behind turned
    exact shown ⟨u, x, v, one, two, three, left, right, hides, turned⟩

/-- The integers `2 ^ 53 + 1` and `2 ^ 53` are one behind the other, and tie with the double to which
both round; and any two numbers tie with a NaN. -/
theorem sortCompare_not_transitive :
    ¬(∀ a b c : Option Value,
        sortCompare a b ≠ .gt → sortCompare b c ≠ .gt → sortCompare a c ≠ .gt) ∧
      sortCompare (some (.int32 2)) (some (.double .nan)) = .eq ∧
      sortCompare (some (.double .nan)) (some (.int32 1)) = .eq ∧
      sortCompare (some (.int32 2)) (some (.int32 1)) = .gt := by
  refine ⟨fun transitive => ?_, by decide, by decide, by decide⟩
  refine transitive (some (.int64 9007199254740993)) (some (.double ⟨0x4340000000000000⟩))
    (some (.int64 9007199254740992)) ?_ ?_ ?_ <;> decide

end DocTable
