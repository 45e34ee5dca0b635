/-
**Numbers on a fixed number of places.**
-/

namespace DocTable.Calendar

/-- A number in front of which the places up to `width` are filled. -/
def padded (fill : Char) (width n : Nat) : List Char :=
  let digits := (toString n).toList
  List.replicate (width - digits.length) fill ++ digits

/-- A number with zeros in front. -/
def zeroPadded (width n : Nat) : List Char := padded '0' width n

/-- A year on four digits; outside 0 to 9999 it has a sign. -/
def yearText (year : Int) : List Char :=
  if 0 ≤ year ∧ year ≤ 9999 then zeroPadded 4 year.toNat
  else (if year < 0 then '-' else '+') :: zeroPadded 4 year.natAbs

end DocTable.Calendar
