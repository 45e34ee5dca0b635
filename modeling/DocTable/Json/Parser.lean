/-
**Reading JSON text.**

The grammar is that of the standard: blanks are the four of ASCII, numbers have no leading zeros and
no bare point, strings hold no control characters.

* `Json.parse?`: the tree of a text, if all of the text is one JSON value.
-/

import DocTable.Json.Basic
import DocTable.Text.Hex

namespace DocTable.Json

/-- White space between the tokens. -/
def isGap (c : Char) : Bool := c = ' ' || c = '\n' || c = '\t' || c = '\r'

def skipGap (chars : List Char) : List Char := chars.dropWhile isGap

/-- A piece of a string literal: a character, or a UTF-16 unit spelled by its number. -/
inductive Piece where
  | char (c : Char)
  | unit (code : Nat)
deriving Repr

/-- The character behind a backslash that stands for another one. -/
def shortEscape? (c : Char) : Option Char :=
  match c with
  | '"' => some '"'
  | '\\' => some '\\'
  | '/' => some '/'
  | 'b' => some (Char.ofNat 0x08)
  | 'f' => some (Char.ofNat 0x0c)
  | 'n' => some '\n'
  | 'r' => some '\r'
  | 't' => some '\t'
  | _ => none

/-- The pieces of a string up to its closing quote, and what follows it. -/
def stringPieces? : List Char → Option (List Piece × List Char)
  | [] => none
  | '"' :: rest => some ([], rest)
  | '\\' :: 'u' :: a :: b :: c :: d :: rest => do
    let code ← Text.hexNumber? [a, b, c, d]
    let (pieces, rest) ← stringPieces? rest
    some (.unit code :: pieces, rest)
  | '\\' :: letter :: rest => do
    let c ← shortEscape? letter
    let (pieces, rest) ← stringPieces? rest
    some (.char c :: pieces, rest)
  | c :: rest =>
    if c.toNat < 0x20 ∨ c = '\\' then none
    else do
      let (pieces, rest) ← stringPieces? rest
      some (.char c :: pieces, rest)

def isHighSurrogate (code : Nat) : Bool := decide (0xd800 ≤ code ∧ code < 0xdc00)
def isLowSurrogate (code : Nat) : Bool := decide (0xdc00 ≤ code ∧ code < 0xe000)

/-- The text of the pieces; a surrogate needs its other half right behind it. -/
def textOfPieces? : List Piece → Option (List Char)
  | [] => some []
  | .char c :: rest => (textOfPieces? rest).map (c :: ·)
  | .unit high :: .unit low :: rest =>
    if isHighSurrogate high then
      if isLowSurrogate low then
        (textOfPieces? rest).map
          (Char.ofNat (0x10000 + (high - 0xd800) * 1024 + (low - 0xdc00)) :: ·)
      else none
    else if isLowSurrogate high then none
    else (textOfPieces? (.unit low :: rest)).map (Char.ofNat high :: ·)
  | .unit code :: rest =>
    if isHighSurrogate code || isLowSurrogate code then none
    else (textOfPieces? rest).map (Char.ofNat code :: ·)

/-- A string behind its opening quote; the text is missing where a surrogate stands alone. -/
def stringBody? (chars : List Char) : Option (Option String × List Char) :=
  (stringPieces? chars).map fun (pieces, rest) => ((textOfPieces? pieces).map String.ofList, rest)

/-- One digit or more, and what follows. -/
def digits? (chars : List Char) : Option (List Char × List Char) :=
  match chars.takeWhile Char.isDigit with
  | [] => none
  | digits => some (digits, chars.dropWhile Char.isDigit)

/-- The whole part of a number: a zero stands alone. -/
def wholePart? (chars : List Char) : Option (List Char × List Char) := do
  let (digits, rest) ← digits? chars
  match digits with
  | '0' :: _ :: _ => none
  | _ => some (digits, rest)

/-- A point with its digits, if there is a point. -/
def fractionPart? : List Char → Option (List Char × List Char)
  | '.' :: rest => (digits? rest).map fun (digits, rest) => ('.' :: digits, rest)
  | rest => some ([], rest)

/-- An exponent with its mark, if there is a mark. -/
def exponentPart? : List Char → Option (List Char × List Char)
  | [] => some ([], [])
  | mark :: rest =>
    if mark = 'e' ∨ mark = 'E' then
      match rest with
      | '+' :: rest => (digits? rest).map fun (digits, rest) => (mark :: '+' :: digits, rest)
      | '-' :: rest => (digits? rest).map fun (digits, rest) => (mark :: '-' :: digits, rest)
      | rest => (digits? rest).map fun (digits, rest) => (mark :: digits, rest)
    else some ([], mark :: rest)

/-- A number literal and what follows it. -/
def numberBody? (chars : List Char) : Option (String × List Char) := do
  let (sign, rest) := match chars with
    | '-' :: rest => (['-'], rest)
    | rest => ([], rest)
  let (whole, rest) ← wholePart? rest
  let (fraction, rest) ← fractionPart? rest
  let (exponent, rest) ← exponentPart? rest
  some (String.ofList (sign ++ whole ++ fraction ++ exponent), rest)

/-- The object with the members, if all keys have a text. -/
def ofMembers (members : List (Option String × Json)) : Json :=
  match members.mapM fun (key, value) => key.map (·, value) with
  | some members => .object members
  | none => .unreadable

mutual

/-- A value at the front of a text, which may begin with blanks. -/
def value? : Nat → List Char → Option (Json × List Char)
  | 0, _ => none
  | fuel + 1, chars =>
    match skipGap chars with
    | [] => none
    | 'n' :: 'u' :: 'l' :: 'l' :: rest => some (.null, rest)
    | 't' :: 'r' :: 'u' :: 'e' :: rest => some (.bool true, rest)
    | 'f' :: 'a' :: 'l' :: 's' :: 'e' :: rest => some (.bool false, rest)
    | '"' :: rest =>
      (stringBody? rest).map fun (text, rest) =>
        ((match text with | some text => .string text | none => .unreadable), rest)
    | '[' :: rest =>
      match skipGap rest with
      | ']' :: rest => some (.array [], rest)
      | rest => (items? fuel rest).map fun (items, rest) => (.array items, rest)
    | '\x7b' :: rest =>
      match skipGap rest with
      | '\x7d' :: rest => some (.object [], rest)
      | rest => (members? fuel rest).map fun (members, rest) => (ofMembers members, rest)
    | rest => (numberBody? rest).map fun (literal, rest) => (.number literal, rest)

/-- The items of an array up to its closing bracket. -/
def items? : Nat → List Char → Option (List Json × List Char)
  | 0, _ => none
  | fuel + 1, chars => do
    let (item, rest) ← value? fuel chars
    match skipGap rest with
    | ',' :: rest =>
      let (items, rest) ← items? fuel rest
      some (item :: items, rest)
    | ']' :: rest => some ([item], rest)
    | _ => none

/-- The members of an object up to its closing brace. -/
def members? : Nat → List Char → Option (List (Option String × Json) × List Char)
  | 0, _ => none
  | fuel + 1, chars =>
    match skipGap chars with
    | '"' :: rest => do
      let (key, rest) ← stringBody? rest
      match skipGap rest with
      | ':' :: rest =>
        let (value, rest) ← value? fuel rest
        match skipGap rest with
        | ',' :: rest =>
          let (members, rest) ← members? fuel rest
          some ((key, value) :: members, rest)
        | '\x7d' :: rest => some ([(key, value)], rest)
        | _ => none
      | _ => none
    | _ => none

end

/-- The tree of a text. Every two steps of the reader take a character, which bounds the steps. -/
def parse? (s : String) : Option Json :=
  let chars := s.toList
  match value? (2 * chars.length + 2) chars with
  | some (value, rest) => if skipGap rest = [] then some value else none
  | none => none

end DocTable.Json
