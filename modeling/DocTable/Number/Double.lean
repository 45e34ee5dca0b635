/-
**Binary64 numbers as their bits.**

A `Double` is its 64-bit word, so every operation here is exact integer arithmetic:

* `Double.rank`: one integer per word that orders the numbers as their values are ordered;
* `Double.compare?`, `Double.equal`: the usual comparison, undecided when a NaN is involved;
* `Double.nearest`: the magnitude word closest to a fraction, ties going to the even word;
* `Double.truncated?`: the integer part of a finite number.
-/

namespace DocTable

-- Powers and sums are those of the core library, also below a theory of monoids, whose own
-- instances would come first.
attribute [scoped instance (high)] instPowNat Zero.ofOfNat0
attribute [default_instance (high + 1)] instPowNat

/-- A binary64 number, kept as its 64 bits. -/
structure Double where
  bits : UInt64
deriving DecidableEq, Repr, Inhabited

namespace Double

/-- The sign bit. -/
def isNegative (x : Double) : Bool := decide (2 ^ 63 ≤ x.bits.toNat)

/-- The 63 bits below the sign. -/
def magnitude (x : Double) : Nat := x.bits.toNat % 2 ^ 63

/-- The magnitude word of an infinity; the larger ones are NaNs. -/
def infinityMagnitude : Nat := 0x7ff0000000000000

def isNaN (x : Double) : Bool := decide (infinityMagnitude < x.magnitude)

def isInfinite (x : Double) : Bool := x.magnitude == infinityMagnitude

def isFinite (x : Double) : Bool := decide (x.magnitude < infinityMagnitude)

/-- The number with a sign and a magnitude word. -/
def ofMagnitude (negative : Bool) (magnitude : Nat) : Double :=
  ⟨UInt64.ofNat (if negative then 2 ^ 63 + magnitude else magnitude)⟩

def zero : Double := ofMagnitude false 0
def infinity (negative : Bool) : Double := ofMagnitude negative infinityMagnitude
def nan : Double := ofMagnitude false 0x7ff8000000000000

/-- The position of a number on the line: magnitude words grow with the absolute value, and both
zeros share the rank zero. -/
def rank (x : Double) : Int := if x.isNegative then -(x.magnitude : Int) else x.magnitude

/-- Comparison by value; `none` when either side is a NaN. -/
def compare? (x y : Double) : Option Ordering :=
  if x.isNaN || y.isNaN then none else some (compare x.rank y.rank)

/-- Equality by value: both zeros are equal and a NaN equals nothing. -/
def equal (x y : Double) : Bool := !x.isNaN && !y.isNaN && x.rank == y.rank

/-- The integer whose product with `2 ^ exponent` is the absolute value. -/
def significand (x : Double) : Nat :=
  if x.magnitude < 2 ^ 52 then x.magnitude else x.magnitude % 2 ^ 52 + 2 ^ 52

/-- The power of two that the significand counts. -/
def exponent (x : Double) : Int :=
  if x.magnitude < 2 ^ 52 then -1074 else (x.magnitude / 2 ^ 52 : Nat) - 1075

/-- Rounds `num / den` to an integer, a half going to the even neighbour. -/
def roundHalfEven (num den : Nat) : Nat :=
  let floor := num / den
  let rest := num % den
  if 2 * rest < den then floor
  else if den < 2 * rest then floor + 1
  else floor + floor % 2

/-- The power of two whose multiples between `2 ^ 52` and `2 ^ 53` hold `num / den`, but never
below the least one. -/
def scaleOf (num den : Nat) : Int :=
  let guess : Int := (num.log2 : Int) - den.log2
  let below : Bool :=
    if 0 ≤ guess then decide (num < den * 2 ^ guess.toNat)
    else decide (num * 2 ^ (-guess).toNat < den)
  max (-1074) ((if below then guess - 1 else guess) - 52)

/-- The magnitude word nearest to `num / den`; too large a fraction gives the infinite one. -/
def nearest (num den : Nat) : Nat :=
  if num = 0 then 0 else
    let scale := scaleOf num den
    let units :=
      if 0 ≤ scale then roundHalfEven num (den * 2 ^ scale.toNat)
      else roundHalfEven (num * 2 ^ (-scale).toNat) den
    min infinityMagnitude ((scale + 1074).toNat * 2 ^ 52 + units)

/-- The number nearest to an integer. -/
def ofInt (n : Int) : Double := ofMagnitude (decide (n < 0)) (nearest n.natAbs 1)

/-- The absolute value without its fraction. -/
def wholePart (x : Double) : Nat :=
  if 0 ≤ x.exponent then x.significand * 2 ^ x.exponent.toNat
  else x.significand / 2 ^ (-x.exponent).toNat

/-- The integer part of a finite number. -/
def truncated? (x : Double) : Option Int :=
  if x.isFinite then some (if x.isNegative then -(x.wholePart : Int) else x.wholePart) else none

/-- A finite number without a fraction. -/
def isWhole (x : Double) : Bool :=
  x.isFinite && (decide (0 ≤ x.exponent) || x.significand % 2 ^ (-x.exponent).toNat == 0)

/-- The integer part, held between two bounds; a NaN counts as zero. -/
def clamped (low high : Int) (x : Double) : Int :=
  match x.truncated? with
  | some n => max low (min high n)
  | none => if x.isNaN then 0 else if x.isNegative then low else high

/-- The absolute value of a finite number as a fraction. -/
def fraction (x : Double) : Nat × Nat :=
  if 0 ≤ x.exponent then (x.significand * 2 ^ x.exponent.toNat, 1)
  else (x.significand, 2 ^ (-x.exponent).toNat)

/-- The product of two finite numbers that are not negative, rounded once. -/
def scaleUp (x y : Double) : Double :=
  ofMagnitude false (nearest (x.fraction.1 * y.fraction.1) (x.fraction.2 * y.fraction.2))

/-- The quotient of two finite numbers that are not negative, rounded once. -/
def scaleDown (x y : Double) : Double :=
  ofMagnitude false (nearest (x.fraction.1 * y.fraction.2) (x.fraction.2 * y.fraction.1))

end Double

end DocTable
