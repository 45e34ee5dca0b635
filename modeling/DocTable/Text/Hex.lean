/-
**Hexadecimal digits.**
-/

namespace DocTable.Text

/-- The value of a hexadecimal digit of either case. -/
def hexValue? (c : Char) : Option Nat :=
  if '0' ≤ c ∧ c ≤ '9' then some (c.toNat - '0'.toNat)
  else if 'a' ≤ c ∧ c ≤ 'f' then some (c.toNat - 'a'.toNat + 10)
  else if 'A' ≤ c ∧ c ≤ 'F' then some (c.toNat - 'A'.toNat + 10)
  else none

/-- The number written by hexadecimal digits; no digit is zero. -/
def hexNumber? (chars : List Char) : Option Nat :=
  chars.foldlM (fun n c => (hexValue? c).map (16 * n + ·)) 0

/-- The lower-case digit of a value below sixteen. -/
def hexDigit (n : Nat) : Char :=
  if n < 10 then Char.ofNat ('0'.toNat + n) else Char.ofNat ('a'.toNat + (n - 10))

/-- A number on exactly `width` digits, its higher ones dropped. -/
def hexPadded : Nat → Nat → List Char
  | 0, _ => []
  | width + 1, n => hexPadded width (n / 16) ++ [hexDigit (n % 16)]

/-- Bytes written by pairs of digits. -/
def hexBytes? : List Char → Option (List UInt8)
  | [] => some []
  | [_] => none
  | a :: b :: rest => do
    let high ← hexValue? a
    let low ← hexValue? b
    let more ← hexBytes? rest
    some (UInt8.ofNat (16 * high + low) :: more)

/-- The digits of bytes. -/
def ofBytesHex (bytes : List UInt8) : List Char := bytes.flatMap fun b => hexPadded 2 b.toNat

end DocTable.Text
