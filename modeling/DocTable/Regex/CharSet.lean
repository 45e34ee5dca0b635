/-
**Sets of characters in a pattern.**

* `CharSet.mem`: membership;
* `CharSet.folded`: a set with everything that differs from a member in case only.
-/

import DocTable.Text.Blank
import DocTable.Text.CaseFold
import DocTable.Text.Word

namespace DocTable.Regex

/-- A set of characters. -/
inductive CharSet where
  | nothing
  | range (low high : Char)
  | listed (ranges : List (Nat × Nat))
  | digit
  | blank
  | word
  | union (a b : CharSet)
  | meet (a b : CharSet)
  | complement (a : CharSet)
  | folded (a : CharSet)
deriving Repr, Inhabited

namespace CharSet

/-- Membership in a set. -/
def mem : CharSet → Char → Bool
  | .nothing, _ => false
  | .range low high, c => decide (low ≤ c ∧ c ≤ high)
  | .listed ranges, c => Text.inRanges c.toNat ranges
  | .digit, c => Text.isDecimal c
  | .blank, c => Text.isBlank c
  | .word, c => Text.isWord c
  | .union a b, c => a.mem c || b.mem c
  | .meet a b, c => a.mem c && b.mem c
  | .complement a, c => !a.mem c
  | .folded a, c => a.mem c || (Text.foldMates c).any a.mem

/-- The set of one character. -/
def only (c : Char) : CharSet := .range c c

/-- The union of several ranges. -/
def ofRanges (ranges : List (Char × Char)) : CharSet :=
  ranges.foldr (fun r rest => .union (.range r.1 r.2) rest) .nothing

/-- The characters in the first set and not in the second. -/
def without (a b : CharSet) : CharSet := .meet a (.complement b)

/-- The characters in exactly one of two sets. -/
def oneOf (a b : CharSet) : CharSet := .union (a.without b) (b.without a)

/-- The 128 characters of ASCII. -/
def ascii : CharSet := .range (Char.ofNat 0) (Char.ofNat 0x7f)

def asciiDigit : CharSet := .range '0' '9'
def asciiBlank : CharSet := ofRanges [(Char.ofNat 9, Char.ofNat 13), (' ', ' ')]
def asciiWord : CharSet := ofRanges [('0', '9'), ('A', 'Z'), ('_', '_'), ('a', 'z')]

/-- A set by the name it has between colons. -/
def ofName? (name : String) : Option CharSet :=
  match name with
  | "alnum" => some (ofRanges [('0', '9'), ('A', 'Z'), ('a', 'z')])
  | "alpha" => some (ofRanges [('A', 'Z'), ('a', 'z')])
  | "ascii" => some ascii
  | "blank" => some (ofRanges [('\t', '\t'), (' ', ' ')])
  | "cntrl" => some (ofRanges [(Char.ofNat 0, Char.ofNat 0x1f), (Char.ofNat 0x7f, Char.ofNat 0x7f)])
  | "digit" => some asciiDigit
  | "graph" => some (.range '!' '~')
  | "lower" => some (.range 'a' 'z')
  | "print" => some (.range ' ' '~')
  | "punct" => some (ofRanges [('!', '/'), (':', '@'), ('[', Char.ofNat 0x60), ('\x7b', '~')])
  | "space" => some asciiBlank
  | "upper" => some (.range 'A' 'Z')
  | "word" => some asciiWord
  | "xdigit" => some (ofRanges [('0', '9'), ('A', 'F'), ('a', 'f')])
  | _ => none

/-- Whether a set holds one of the characters 128 to 255. -/
def reachesPastAscii (a : CharSet) : Bool :=
  (List.range 128).any fun n => a.mem (Char.ofNat (128 + n))

end CharSet

end DocTable.Regex
