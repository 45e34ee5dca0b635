/-
**Values inside messages.**

* `Decimal128.render`: the text of a decimal number;
* `Value.display`: a value in a message.
-/

import DocTable.Calendar.Timestamp
import DocTable.Number.Shortest
import DocTable.Text.Base64
import DocTable.Value.Basic

namespace DocTable

namespace Decimal128

/-- The bits of a number. -/
def bits (n : Decimal128) : Nat :=
  n.bytes.toList.foldr (fun byte higher => 256 * higher + byte.toNat) 0

/-- The bits of the exponent. Where the first two are set there is no coefficient of at most
thirty-four digits, and such a number is a zero. -/
def exponentBits (n : Decimal128) : Nat :=
  if n.bits / 2 ^ 125 % 4 = 3 then n.bits / 2 ^ 111 % 2 ^ 14 else n.bits / 2 ^ 113 % 2 ^ 14

/-- The coefficient, of at most thirty-four digits. -/
def coefficient (n : Decimal128) : Nat :=
  let low := n.bits % 2 ^ 113
  if n.bits / 2 ^ 125 % 4 = 3 ∨ 10 ^ 34 ≤ low then 0 else low

/-- The digits of a number and the place of the point among them. -/
def digits (n : Decimal128) : Digits :=
  let digits := Nat.toDigits 10 n.coefficient
  ⟨digits, digits.length + ((n.exponentBits : Int) - 6176)⟩

/-- The text of a number: with an exponent if the last digit stands before the point, or far behind
it. -/
def render (n : Decimal128) : String :=
  let sign := if n.bits < 2 ^ 127 then "" else "-"
  if n.bits / 2 ^ 122 % 32 = 31 then "NaN"
  else if n.bits / 2 ^ 122 % 32 = 30 then sign ++ "Infinity"
  else
    let d := n.digits
    if d.point ≤ d.digits.length ∧ -5 ≤ d.point then sign ++ String.ofList (d.positional false)
    else sign ++ String.ofList (d.scientific.map Char.toUpper)

end Decimal128

namespace Value

/-- An instant in a message; outside the years -9999 to 9999 it is its milliseconds. -/
def displayInstant (millis : Int) : String :=
  let moment := Calendar.Moment.ofMillis millis
  if -9999 ≤ moment.date.year ∧ moment.date.year ≤ 9999 then moment.plain else toString millis

/-- Binary data in a message: its kind in hexadecimal and its bytes in base 64. -/
def displayBinary (subtype : UInt8) (bytes : List UInt8) : String :=
  "Binary(0x" ++ String.ofList (Nat.toDigits 16 subtype.toNat) ++ ", "
    ++ String.ofList (Text.base64 bytes) ++ ")"

mutual

/-- A value in a message. Texts stand between quotes as they are. -/
def display : Value → String
  | .null => "null"
  | .bool b => if b then "true" else "false"
  | .int32 n => toString n.toInt
  | .int64 n => toString n.toInt
  | .double x => x.render .display
  | .string s => "\"" ++ s ++ "\""
  | .array items => "[" ++ displayItems items ++ "]"
  | .document entries => "\x7b" ++ displayEntries " " entries
  | .dateTime millis => "DateTime(\"" ++ displayInstant millis.toInt ++ "\")"
  | .objectId id => "ObjectId(\"" ++ id.toHex ++ "\")"
  | .undefined => "undefined"
  | .minKey => "MinKey"
  | .maxKey => "MaxKey"
  | .timestamp time increment =>
    "Timestamp(" ++ toString time.toNat ++ ", " ++ toString increment.toNat ++ ")"
  | .regex pattern options => "/" ++ pattern ++ "/" ++ options
  | .symbol s => "Symbol(\"" ++ s ++ "\")"
  | .code s => s
  | .codeWithScope s _ => s
  | .binary subtype bytes => displayBinary subtype bytes
  | .decimal128 n => n.render
  | .dbPointer collection id => "DbPointer(" ++ collection ++ ", " ++ id.toHex ++ ")"
termination_by structural v => v

/-- Items between commas. -/
def displayItems : List Value → String
  | [] => ""
  | [item] => display item
  | item :: rest => display item ++ ", " ++ displayItems rest
termination_by structural items => items

/-- Entries, each behind the given separator, and the closing brace. -/
def displayEntries (separator : String) : List (String × Value) → String
  | [] => if separator = " " then "\x7d" else " \x7d"
  | (key, value) :: rest =>
    separator ++ "\"" ++ key ++ "\": " ++ display value ++ displayEntries ", " rest
termination_by structural entries => entries

end

end Value

end DocTable
