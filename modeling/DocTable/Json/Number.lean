/-
**What a number literal means.**

A literal without point and exponent is a whole number where 64 bits hold it; every other one is a
binary64 number. That number is made in two roundings: the leading digits, as many as 64 bits hold,
become a binary64 number, and it is multiplied or divided by a power of ten.

* `Numeral.ofLiteral?`: the number of a literal, if it is in range.
-/

import DocTable.Number.Decimal

namespace DocTable

/-- A number as JSON text has it. -/
inductive Numeral where
  /-- A whole number that is not negative. -/
  | natural (n : Nat)
  /-- A whole number below zero. -/
  | negative (n : Int)
  | real (x : Double)
deriving DecidableEq, Repr

namespace Numeral

/-- Appends digits to a coefficient while 64 bits hold it; the second part counts the digits that
no longer fit. -/
def absorb (coefficient : Nat) : List Char → Nat × Nat
  | [] => (coefficient, 0)
  | c :: rest =>
    let next := 10 * coefficient + (c.toNat - '0'.toNat)
    if next < 2 ^ 64 then absorb next rest else (coefficient, rest.length + 1)

/-- The power of ten as a binary64 number. -/
def powerOfTen (n : Nat) : Double := Double.ofMagnitude false (Double.nearest (10 ^ n) 1)

/-- Divides by powers of ten, the largest ones first. -/
def shiftDown (x : Double) (places : Nat) : Double :=
  if x.magnitude = 0 then x
  else if places ≤ 308 then x.scaleDown (powerOfTen places)
  else shiftDown (x.scaleDown (powerOfTen 308)) (places - 308)
termination_by places

/-- The coefficient shifted by a power of ten, unless that is too large for a finite number. -/
def shifted? (coefficient : Nat) (exponent : Int) : Option Double :=
  let x := Double.ofInt coefficient
  if exponent < 0 then some (shiftDown x exponent.natAbs)
  else if exponent ≤ 308 then
    let product := x.scaleUp (powerOfTen exponent.toNat)
    if product.isInfinite then none else some product
  else if coefficient = 0 then some x
  else none

/-- The number with its sign. -/
def withSign (minus : Bool) (x : Double) : Double := Double.ofMagnitude minus x.magnitude

/-- The exponent that an `e` announces, without its mark. -/
def exponentOf? (chars : List Char) : Option Int := readInt? chars

/-- The number that a well-formed literal stands for. -/
def ofLiteral? (literal : String) : Option Numeral :=
  let (minus, unsigned) := match literal.toList with
    | '-' :: rest => (true, rest)
    | rest => (false, rest)
  let whole := unsigned.takeWhile Char.isDigit
  let tail := unsigned.dropWhile Char.isDigit
  let (coefficient, left) := absorb 0 whole
  if tail = [] ∧ left = 0 then
    if ¬ minus then some (.natural coefficient)
    else if 1 ≤ coefficient ∧ coefficient ≤ 2 ^ 63 then some (.negative (-(coefficient : Int)))
    else some (.real (withSign true (Double.ofInt coefficient)))
  else
    let (fraction, tail) := match tail with
      | '.' :: rest => (rest.takeWhile Char.isDigit, rest.dropWhile Char.isDigit)
      | rest => ([], rest)
    let (coefficient, beyond) := absorb coefficient fraction
    let places : Int := left - (fraction.length - beyond : Nat)
    let power := (exponentOf? (tail.drop 1)).getD 0
    let size :=
      -- An exponent of more than 31 bits leaves zero or is out of range at once.
      if 2 ^ 31 ≤ power.natAbs then
        if coefficient ≠ 0 ∧ 0 < power then none else some Double.zero
      else shifted? coefficient (places + power)
    size.map fun x => .real (withSign minus x)

/-- The number as a binary64 number. -/
def toDouble : Numeral → Double
  | .natural n => Double.ofInt n
  | .negative n => Double.ofInt n
  | .real x => x

/-- The whole number, unless the literal had a point, an exponent or too many digits. -/
def toInt? : Numeral → Option Int
  | .natural n => some n
  | .negative n => some n
  | .real _ => none

end Numeral

end DocTable
