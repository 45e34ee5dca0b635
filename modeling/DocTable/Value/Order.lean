/-
**Comparing values.**

* `Value.equals`: equality, with numbers of different kinds compared by value;
* `Value.compare?`: order within one kind; numbers are one kind;
* `sortCompare`: order between any two values, a missing one included.

A comparison with a double is a comparison of doubles: an integer is rounded to one first. A NaN is
neither before nor behind another number.
-/

import DocTable.Value.Basic

namespace DocTable

namespace Value

/-- The integer of an integer value. -/
def toInt? : Value → Option Int
  | .int32 n => some n.toInt
  | .int64 n => some n.toInt
  | _ => none

/-- The double nearest to a number value. -/
def toDouble? : Value → Option Double
  | .int32 n => some (Double.ofInt n.toInt)
  | .int64 n => some (Double.ofInt n.toInt)
  | .double x => some x
  | _ => none

/-- Equality across the kinds of numbers. -/
def equals (a b : Value) : Bool :=
  match a.toInt?, b.toInt? with
  | some m, some n => m == n
  | _, _ =>
    match a.toDouble?, b.toDouble? with
    | some x, some y => x.equal y
    | _, _ => a.same b

/-- Order of two texts by code points. -/
def compareText (a b : String) : Ordering := compareOfLessAndEq a b

/-- Order of two truth values, false first. -/
def compareBool : Bool → Bool → Ordering
  | false, true => .lt
  | true, false => .gt
  | _, _ => .eq

/-- Order of two values of one kind. -/
def compare? (a b : Value) : Option Ordering :=
  match a.toInt?, b.toInt? with
  | some m, some n => some (compare m n)
  | _, _ =>
    match a.toDouble?, b.toDouble? with
    | some x, some y => some ((x.compare? y).getD .eq)
    | _, _ =>
      match a, b with
      | .string s, .string t => some (compareText s t)
      | .bool p, .bool q => some (compareBool p q)
      | .dateTime m, .dateTime n => some (compare m.toInt n.toInt)
      | _, _ => none

/-- The place of a value's kind in a sorted list; a missing value has the place of null. -/
def sortRank : Value → Nat
  | .null => 0
  | .int32 _ => 1
  | .int64 _ => 1
  | .double _ => 1
  | .string _ => 2
  | .document _ => 3
  | .array _ => 4
  | .bool _ => 6
  | .dateTime _ => 7
  | _ => 5

end Value

/-- Order for sorting: first by kind, then within the kind where that has an order. -/
def sortCompare (a b : Option Value) : Ordering :=
  let rankA := (a.map Value.sortRank).getD 0
  let rankB := (b.map Value.sortRank).getD 0
  match a, b with
  | some x, some y =>
    if rankA = rankB then (x.compare? y).getD .eq else compare rankA rankB
  | _, _ => compare rankA rankB

end DocTable
