/-
**What a backslash announces in a pattern.**

* `escape?`: the meaning of the characters behind a backslash;
* `escapeLiteral`: a text as a pattern that matches the text itself.
-/

import DocTable.Number.Decimal
import DocTable.Regex.Basic
import DocTable.Regex.Property
import DocTable.Text.Hex

namespace DocTable.Regex

/-- What the letters in front of a pattern or a group switch on. -/
structure Flags where
  /-- Case does not matter. -/
  insensitive : Bool
  /-- The line anchors match at every line. -/
  multiLine : Bool
  /-- The dot matches line ends too. -/
  dotAll : Bool
  /-- Blanks and comments in the pattern do not count. -/
  verbose : Bool
  /-- Classes know more than ASCII. -/
  unicode : Bool
  /-- A carriage return ends a line too. -/
  crlf : Bool
deriving DecidableEq, Repr

/-- No letter given. -/
def Flags.default : Flags := ⟨false, false, false, false, true, false⟩

/-- The letter given that makes case not matter. -/
def Flags.caseless : Flags := { Flags.default with insensitive := true }

/-- Drops blanks and comments; the first argument says whether a comment is open. -/
def skipComments : Bool → List Char → List Char
  | _, [] => []
  | true, c :: rest => skipComments (c ≠ '\n') rest
  | false, c :: rest =>
    if Text.isBlank c then skipComments false rest
    else if c = '#' then skipComments true rest
    else c :: rest

/-- Drops what does not count in front of the next token. -/
def Flags.skip (f : Flags) (chars : List Char) : List Char :=
  if f.verbose then skipComments false chars else chars

/-- One token of a pattern that stands for a character or a condition. -/
inductive Atom where
  | literal (c : Char)
  | set (s : CharSet)
  | look (condition : Look)
deriving Repr

/-- The characters with a meaning of their own in a pattern. -/
def isMeta (c : Char) : Bool := "\\.+*?()|[]\x7b\x7d^$#&-~".toList.contains c

/-- A text as a pattern for itself. -/
def escapeLiteral (s : List Char) : List Char :=
  s.flatMap fun c => if isMeta c then ['\\', c] else [c]

/-- Whether a backslash may stand in front of a character that needs none. -/
def isEscapable (c : Char) : Bool :=
  isMeta c || (decide (c.toNat < 128) && !c.isAlphanum && c ≠ '<' && c ≠ '>')

/-- The word characters that boundaries go by. -/
def Flags.letters (f : Flags) : CharSet := if f.unicode then .word else .asciiWord

/-- A set up to case where case does not matter. Without Unicode, case is that of ASCII. -/
def Flags.foldSet (f : Flags) (s : CharSet) : CharSet :=
  if f.insensitive then (if f.unicode then .folded s else .meet .ascii (.folded (.meet .ascii s)))
  else s

/-- The complement of a class; without Unicode it would hold what is no character. -/
def Flags.complement? (f : Flags) (s : CharSet) : Option CharSet :=
  if f.unicode then some (.complement s) else none

/-- The character of a code point, unless it is a surrogate or too large. -/
def charOfCode? (code : Nat) : Option Char :=
  if code < 0xd800 ∨ (0xe000 ≤ code ∧ code < 0x110000) then some (Char.ofNat code) else none

/-- A given number of hexadecimal digits. -/
def hexDigits? (f : Flags) : Nat → List Char → Option (List Char × List Char)
  | 0, chars => some ([], chars)
  | _ + 1, [] => none
  | count + 1, c :: rest =>
    if (Text.hexValue? c).isSome then
      (hexDigits? f count (f.skip rest)).map fun (digits, rest) => (c :: digits, rest)
    else none

/-- Hexadecimal digits up to a closing brace. The counter bounds the digits. -/
def bracedHex? (f : Flags) : Nat → List Char → Option (List Char × List Char)
  | 0, _ => none
  | _ + 1, [] => none
  | fuel + 1, c :: rest =>
    if c = '\x7d' then some ([], f.skip rest)
    else if (Text.hexValue? c).isSome then
      (bracedHex? f fuel (f.skip rest)).map fun (digits, rest) => (c :: digits, rest)
    else none

/-- A character by its code point: a fixed number of digits, or any number between braces. -/
def hexLiteral? (f : Flags) (width : Nat) (chars : List Char) : Option (Atom × List Char) := do
  let chars := f.skip chars
  let (digits, rest, fixed) ← match chars with
    | '\x7b' :: rest => (bracedHex? f rest.length (f.skip rest)).map fun (d, r) => (d, r, false)
    | chars => (hexDigits? f width chars).map fun (d, r) => (d, r, true)
  if digits = [] ∨ 8 < (digits.dropWhile (· == '0')).length then none
  else do
    let code ← Text.hexNumber? digits
    let c ← charOfCode? code
    if !f.unicode && fixed && width == 2 && 0x80 ≤ code then none else some (.literal c, rest)

/-- The letters between braces behind a word boundary. -/
def edgeLetters? (f : Flags) : Nat → List Char → Option (List Char × List Char)
  | 0, _ => none
  | _ + 1, [] => none
  | fuel + 1, c :: rest =>
    if c = '\x7d' then some ([], rest)
    else if c.isAlpha || c == '-' then
      (edgeLetters? f fuel (f.skip rest)).map fun (letters, rest) => (c :: letters, rest)
    else none

/-- A word boundary, which a name in braces narrows. Braces that hold no name are left alone. -/
def wordEdge? (f : Flags) (chars : List Char) : Option (Atom × List Char) :=
  let plain : Option (Atom × List Char) := some (.look (.wordEdge f.letters), chars)
  match chars with
  | '\x7b' :: rest =>
    match f.skip rest with
    | [] => none
    | c :: more =>
      if c.isAlpha || c == '-' then do
        let (letters, rest) ← edgeLetters? f (more.length + 2) (c :: more)
        match String.ofList letters with
        | "start" => some (.look (.wordStart f.letters), rest)
        | "end" => some (.look (.wordEnd f.letters), rest)
        | "start-half" => some (.look (.wordStartHalf f.letters), rest)
        | "end-half" => some (.look (.wordEndHalf f.letters), rest)
        | _ => none
      else plain
  | _ => plain

/-- The characters up to a closing brace. -/
def bracedName? (f : Flags) : Nat → List Char → Option (List Char × List Char)
  | 0, _ => none
  | _ + 1, [] => none
  | fuel + 1, c :: rest =>
    if c = '\x7d' then some ([], rest)
    else (bracedName? f fuel (f.skip rest)).map fun (name, rest) => (c :: name, rest)

/-- A class named by a property: one letter, or a name between braces. Case is folded before the
class is negated. -/
def propertyClass? (f : Flags) (negated : Bool) (chars : List Char) :
    Option (Atom × List Char) := do
  let (name, rest) ← match f.skip chars with
    | [] => none
    | '\\' :: _ => none
    | '\x7b' :: rest => bracedName? f (rest.length + 1) (f.skip rest)
    | c :: rest => some ([c], rest)
  if !f.unicode then none
  else do
    let folded := f.foldSet (← CharSet.ofProperty? name)
    some (.set (if negated then .complement folded else folded), rest)

/-- The meaning of the characters behind a backslash, and what follows them. -/
def escape? (f : Flags) : List Char → Option (Atom × List Char)
  | [] => none
  | c :: rest =>
    if isEscapable c then some (.literal c, rest)
    else match c with
      | 'd' => some (.set (if f.unicode then .digit else .asciiDigit), rest)
      | 's' => some (.set (if f.unicode then .blank else .asciiBlank), rest)
      | 'w' => some (.set f.letters, rest)
      | 'D' => (f.complement? .digit).map fun s => (.set s, rest)
      | 'S' => (f.complement? .blank).map fun s => (.set s, rest)
      | 'W' => (f.complement? .word).map fun s => (.set s, rest)
      | 'p' => propertyClass? f false rest
      | 'P' => propertyClass? f true rest
      | 'x' => hexLiteral? f 2 rest
      | 'u' => hexLiteral? f 4 rest
      | 'U' => hexLiteral? f 8 rest
      | 'a' => some (.literal (Char.ofNat 0x07), rest)
      | 'f' => some (.literal (Char.ofNat 0x0c), rest)
      | 't' => some (.literal '\t', rest)
      | 'n' => some (.literal '\n', rest)
      | 'r' => some (.literal '\r', rest)
      | 'v' => some (.literal (Char.ofNat 0x0b), rest)
      | 'A' => some (.look .textStart, rest)
      | 'z' => some (.look .textEnd, rest)
      | 'b' => wordEdge? f rest
      | 'B' => some (.look (.noWordEdge f.letters), rest)
      | '<' => some (.look (.wordStart f.letters), rest)
      | '>' => some (.look (.wordEnd f.letters), rest)
      | _ => none

end DocTable.Regex
