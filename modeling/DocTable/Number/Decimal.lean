/-
**Numbers written in decimal digits.**

* `readNat?`, `readInt?`: whole numbers;
* `Double.ofDecimal`: the binary64 number nearest to a coefficient times a power of ten;
* `readDouble?`: a number with an optional point and exponent.
-/

import DocTable.Number.Double

namespace DocTable

/-- The value of a string of decimal digits. -/
def digitsValue (digits : List Char) : Nat :=
  digits.foldl (fun n c => 10 * n + (c.toNat - '0'.toNat)) 0

/-- A whole number without a sign: one digit or more. -/
def readNat? (chars : List Char) : Option Nat :=
  if chars ≠ [] ∧ chars.all Char.isDigit then some (digitsValue chars) else none

/-- A whole number with an optional plus sign. -/
def readUnsigned? : List Char → Option Nat
  | '+' :: digits => readNat? digits
  | digits => readNat? digits

/-- A whole number with an optional sign. -/
def readInt? : List Char → Option Int
  | '+' :: digits => (readNat? digits).map Int.ofNat
  | '-' :: digits => (readNat? digits).map fun n => -(n : Int)
  | digits => (readNat? digits).map Int.ofNat

/-- A number of 64 bits with an optional plus sign. -/
def readUInt64? (chars : List Char) : Option UInt64 :=
  (readUnsigned? chars).bind fun n => if n < 2 ^ 64 then some (UInt64.ofNat n) else none

/-- A signed number of 64 bits. -/
def toInt64? (n : Int) : Option Int64 :=
  if -2 ^ 63 ≤ n ∧ n < 2 ^ 63 then some (Int64.ofInt n) else none

/-- A signed number of 32 bits. -/
def toInt32? (n : Int) : Option Int32 :=
  if -2 ^ 31 ≤ n ∧ n < 2 ^ 31 then some (Int32.ofInt n) else none

def readInt64? (chars : List Char) : Option Int64 := (readInt? chars).bind toInt64?

def readInt32? (chars : List Char) : Option Int32 := (readInt? chars).bind toInt32?

/-- The number nearest to `coefficient · 10 ^ exponent`. Beyond four hundred places the answer is
zero or infinite whatever the digits are. -/
def Double.ofDecimal (negative : Bool) (coefficient : Nat) (exponent : Int) : Double :=
  let places : Int := (toString coefficient).length + exponent
  let magnitude :=
    if coefficient = 0 ∨ places < -400 then 0
    else if 400 < places then infinityMagnitude
    else nearest (coefficient * 10 ^ exponent.toNat) (10 ^ (-exponent).toNat)
  ofMagnitude negative magnitude

/-- A signed exponent behind an `e`, or nothing. -/
def readExponent? : List Char → Option Int
  | [] => some 0
  | c :: rest => if c = 'e' ∨ c = 'E' then readInt? rest else none

/-- A number without its sign: digits with an optional point among or around them and an optional
exponent, or one of the words for an infinity and for no number at all. -/
def readMagnitude? (negative : Bool) (chars : List Char) : Option Double :=
  let word := String.ofList (chars.map Char.toLower)
  if word = "inf" ∨ word = "infinity" then some (Double.infinity negative)
  else if word = "nan" then some Double.nan
  else
    let whole := chars.takeWhile Char.isDigit
    let rest := chars.dropWhile Char.isDigit
    let (fraction, tail) := match rest with
      | '.' :: more => (more.takeWhile Char.isDigit, more.dropWhile Char.isDigit)
      | _ => ([], rest)
    if whole = [] ∧ fraction = [] then none
    else (readExponent? tail).map fun exponent =>
      Double.ofDecimal negative (digitsValue (whole ++ fraction)) (exponent - fraction.length)

/-- A number with an optional sign. -/
def readDouble? : List Char → Option Double
  | '-' :: rest => readMagnitude? true rest
  | '+' :: rest => readMagnitude? false rest
  | rest => readMagnitude? false rest

end DocTable
