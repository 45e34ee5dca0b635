/-
**The shortest decimal that reads back as a given binary64 number.**

The numbers that round to `x` form an interval around it. For one digit, two digits and so on, the
two points of that decimal grid next to `x` are tested; the first grid with a point inside the
interval gives the text, the nearer point when both are inside.

* `Digits`: decimal digits and the place of the point;
* `Double.shortest`: the digits of a finite number other than zero;
* `DecimalStyle`, `Double.render`: digits laid out as text.
-/

import DocTable.Number.Double

namespace DocTable

/-- The number `0.d₁d₂…dₙ · 10 ^ point`, its digits as characters. -/
structure Digits where
  digits : List Char
  point : Int
deriving DecidableEq, Repr

/-- Which of two equally near neighbours is taken. -/
inductive Tie where
  | toEven
  | up
deriving DecidableEq, Repr

namespace Double

/-- Four times the number and the ends of the interval that rounds to it, as numerators over one
denominator. Words with an even significand own their ends. -/
structure Window where
  low : Nat
  value : Nat
  high : Nat
  den : Nat
  closed : Bool

def window (x : Double) : Window :=
  let s := x.significand
  let below := if s = 2 ^ 52 ∧ -1074 < x.exponent then 1 else 2
  let quarter := x.exponent - 2
  let up := 2 ^ quarter.toNat
  ⟨(4 * s - below) * up, 4 * s * up, (4 * s + 2) * up, 2 ^ (-quarter).toNat, s % 2 = 0⟩

/-- Whether `point · unit` lies in the window. -/
def Window.holds (w : Window) (point unit : Nat) : Bool :=
  if w.closed then decide (w.low ≤ point * unit ∧ point * unit ≤ w.high)
  else decide (w.low < point * unit ∧ point * unit < w.high)

/-- The grid point of the spacing `10 ^ place` that stands for the window's value, if one of the
two neighbours lies inside. -/
def Window.onGrid (w : Window) (tie : Tie) (place : Int) : Option Nat :=
  let scale := 10 ^ (-place).toNat
  let scaled : Window := ⟨w.low * scale, w.value * scale, w.high * scale, w.den, w.closed⟩
  let unit := w.den * 10 ^ place.toNat
  let floor := scaled.value / unit
  let rest := scaled.value % unit
  let lower := scaled.holds floor unit
  let upper := scaled.holds (floor + 1) unit
  let preferLower : Bool :=
    if 2 * rest < unit then true
    else if unit < 2 * rest then false
    else match tie with
      | .toEven => floor % 2 = 0
      | .up => false
  if lower && (preferLower || !upper) then some floor
  else if upper then some (floor + 1)
  else none

/-- The number of digits before the point: the least `p` with `num / den < 10 ^ p`, where the
fraction is below `10 ^ 309` and above `10 ^ -324`. -/
def leadingPlace (num den : Nat) : Int :=
  let place (k : Nat) : Int := (k : Int) - 324
  let small (k : Nat) : Bool :=
    decide (num * 10 ^ (-(place k)).toNat < den * 10 ^ (place k).toNat)
  place (((List.range 634).find? small).getD 634)

/-- The shortest digits that read back as the absolute value of `x`, nearest to it among those. -/
def shortest (tie : Tie) (x : Double) : Digits :=
  let w := x.window
  let point := leadingPlace w.value w.den
  let grid (count : Nat) : Option Digits :=
    (w.onGrid tie (point - count)).map fun n =>
      let text := (toString n).toList
      -- Rounding up to a power of ten brings one digit more.
      let carry : Int := (text.length : Int) - count
      ⟨(text.reverse.dropWhile (· == '0')).reverse, point + carry⟩
  (((List.range 17).map (· + 1)).findSome? grid).getD ⟨['0'], 1⟩

end Double

/-- How a decimal is laid out. -/
structure DecimalStyle where
  tie : Tie
  /-- The texts of the numbers that have no digits. -/
  nan : String
  infinity : String
  negativeInfinity : String
  /-- Whether a whole number ends in `.0`. -/
  pointZero : Bool
  /-- The places of the point that are written without an exponent. -/
  positional : Int → Bool

namespace DecimalStyle

/-- The fewest digits, never an exponent, nothing after a whole number. -/
def display : DecimalStyle :=
  ⟨.up, "NaN", "inf", "-inf", false, fun _ => true⟩

/-- The form of a number in JSON text, which has no number for a NaN or an infinity. -/
def json : DecimalStyle :=
  ⟨.toEven, "null", "null", "null", true, fun point => decide (-5 < point ∧ point ≤ 16)⟩

end DecimalStyle

/-- Digits with the point among them, before them or after them. -/
def Digits.positional (pointZero : Bool) (d : Digits) : List Char :=
  let count := d.digits.length
  if d.point ≤ 0 then
    '0' :: '.' :: List.replicate (-d.point).toNat '0' ++ d.digits
  else if d.point.toNat < count then
    d.digits.take d.point.toNat ++ '.' :: d.digits.drop d.point.toNat
  else
    d.digits ++ List.replicate (d.point.toNat - count) '0' ++ (if pointZero then ['.', '0'] else [])

/-- One digit before the point and a signed exponent. -/
def Digits.scientific (d : Digits) : List Char :=
  let power := d.point - 1
  let tail := match d.digits.drop 1 with
    | [] => []
    | rest => '.' :: rest
  let sign := if power < 0 then '-' else '+'
  d.digits.take 1 ++ tail ++ 'e' :: sign :: (toString power.natAbs).toList

/-- The text of a number. -/
def Double.render (style : DecimalStyle) (x : Double) : String :=
  if x.isNaN then style.nan
  else if x.isInfinite then (if x.isNegative then style.negativeInfinity else style.infinity)
  else
    let sign := if x.isNegative then ['-'] else []
    let body :=
      if x.magnitude = 0 then '0' :: (if style.pointZero then ['.', '0'] else [])
      else
        let d := x.shortest style.tie
        if style.positional d.point then d.positional style.pointZero else d.scientific
    String.ofList (sign ++ body)

end DocTable
