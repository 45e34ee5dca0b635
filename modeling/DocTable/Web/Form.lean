/-
**Parameters of forms and query strings.**

Pairs stand between ampersands, key and value around the first equals sign. In both, a plus sign is
a blank, a percent sign with two hexadecimal digits is a byte, and any other percent sign is itself.

* `percentDecode`: the bytes that escapes stand for;
* `Params.ofForm`: the parameters of a form, the first value of a key counting.
-/

import DocTable.Text.Hex
import DocTable.Text.Split
import DocTable.Text.Utf8

namespace DocTable.Web

/-- The part of an escape that has been read. -/
inductive Escape where
  | none
  | percent
  /-- The first digit, as it was written and its value. -/
  | digit (byte : UInt8) (value : Nat)
deriving DecidableEq, Repr

def percentByte : UInt8 := 0x25

/-- The value of a byte that is a hexadecimal digit. -/
def hexOfByte? (b : UInt8) : Option Nat := Text.hexValue? (Char.ofNat b.toNat)

/-- Reads a byte outside an escape, behind the bytes found so far in reverse. -/
def readPlain (found : List UInt8) (b : UInt8) : List UInt8 × Escape :=
  if b = percentByte then (found, .percent) else (b :: found, .none)

/-- Reads a byte. One that does not go on with an escape is read afresh. -/
def readEscaped (state : List UInt8 × Escape) (b : UInt8) : List UInt8 × Escape :=
  match state with
  | (found, .none) => readPlain found b
  | (found, .percent) =>
    match hexOfByte? b with
    | some high => (found, .digit b high)
    | Option.none => readPlain (percentByte :: found) b
  | (found, .digit byte high) =>
    match hexOfByte? b with
    | some low => (UInt8.ofNat (16 * high + low) :: found, .none)
    | Option.none => readPlain (byte :: percentByte :: found) b

/-- The bytes that an escape begun at the end leaves. -/
def leaveEscape : List UInt8 × Escape → List UInt8
  | (found, .none) => found
  | (found, .percent) => percentByte :: found
  | (found, .digit byte _) => byte :: percentByte :: found

/-- The bytes that escapes stand for. -/
def percentDecode (bytes : List UInt8) : List UInt8 :=
  (leaveEscape (bytes.foldl readEscaped ([], .none))).reverse

/-- The text of a key or a value. -/
def formText (bytes : List UInt8) : String :=
  Text.Utf8.decodeLossy (percentDecode (bytes.map fun b => if b = 0x2b then 0x20 else b))

/-- The key and the value of a pair; without an equals sign the value is empty. -/
def formPair (bytes : List UInt8) : String × String :=
  (formText (bytes.takeWhile (· ≠ 0x3d)), formText ((bytes.dropWhile (· ≠ 0x3d)).drop 1))

/-- Named texts, each name with one value. -/
structure Params where
  entries : List (String × String)
deriving DecidableEq, Repr

namespace Params

def empty : Params := ⟨[]⟩

/-- The value of a parameter. -/
def get? (p : Params) (key : String) : Option String :=
  (p.entries.find? (·.1 == key)).map (·.2)

/-- Adds a parameter unless it has a value already. -/
def addNew (p : Params) (entry : String × String) : Params :=
  if (p.get? entry.1).isSome then p else ⟨p.entries ++ [entry]⟩

/-- The parameters of pairs, the first value of a key counting. -/
def ofPairs (pairs : List (String × String)) : Params := pairs.foldl addNew empty

/-- The parameters of a form. -/
def ofForm (bytes : List UInt8) : Params :=
  ofPairs (((Text.splitOn 0x26 bytes).filter (· ≠ [])).map formPair)

end Params

end DocTable.Web
