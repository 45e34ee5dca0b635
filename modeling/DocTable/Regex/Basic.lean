/-
**Patterns and what they match.**

A pattern is run on all places of a text at once: from the set of places where a match may have
begun or got to, it finds the set of places where it can get to next. Places are the gaps between
the characters, both ends included, so a set of places is a list of marks.

* `Node.advance`: the places a pattern leads to;
* `Node.matchesIn`: whether some part of a text matches.
-/

import DocTable.Regex.CharSet

namespace DocTable.Regex

/-- Conditions on a place in a text. -/
inductive Look where
  | textStart
  | textEnd
  | lineStart
  | lineEnd
  /-- Lines that end in a carriage return, a line feed or both. -/
  | lineStartCrlf
  | lineEndCrlf
  | wordEdge (letters : CharSet)
  | noWordEdge (letters : CharSet)
  | wordStart (letters : CharSet)
  | wordEnd (letters : CharSet)
  | wordStartHalf (letters : CharSet)
  | wordEndHalf (letters : CharSet)
deriving Repr

/-- A pattern. -/
inductive Node where
  | empty
  | set (s : CharSet)
  | look (condition : Look)
  | cat (first second : Node)
  | alt (first second : Node)
  /-- At least `low` and, if there is a bound, at most `high` times. -/
  | repeated (body : Node) (low : Nat) (high : Option Nat)
deriving Repr, Inhabited

/-- The characters beside a place. -/
structure Spot where
  before : Option Char
  after : Option Char
deriving DecidableEq, Repr

/-- The places of a text behind a character. -/
def spotsBehind (before : Option Char) : List Char → List Spot
  | [] => [⟨before, none⟩]
  | c :: rest => ⟨before, some c⟩ :: spotsBehind (some c) rest

/-- The places of a text. -/
def spots (text : List Char) : List Spot := spotsBehind none text

/-- Whether there is a character and it is in the set. -/
def isIn (s : CharSet) : Option Char → Bool
  | some c => s.mem c
  | none => false

/-- Whether a condition holds at a place. -/
def Look.holds (spot : Spot) : Look → Bool
  | .textStart => spot.before == none
  | .textEnd => spot.after == none
  | .lineStart => spot.before == none || spot.before == some '\n'
  | .lineEnd => spot.after == none || spot.after == some '\n'
  | .lineStartCrlf =>
    spot.before == none || spot.before == some '\n'
      || (spot.before == some '\r' && spot.after != some '\n')
  | .lineEndCrlf =>
    spot.after == none || spot.after == some '\r'
      || (spot.after == some '\n' && spot.before != some '\r')
  | .wordEdge letters => isIn letters spot.before != isIn letters spot.after
  | .noWordEdge letters => isIn letters spot.before == isIn letters spot.after
  | .wordStart letters => !isIn letters spot.before && isIn letters spot.after
  | .wordEnd letters => isIn letters spot.before && !isIn letters spot.after
  | .wordStartHalf letters => !isIn letters spot.before
  | .wordEndHalf letters => !isIn letters spot.after

/-- A set of places of a text. -/
abbrev Marks := List Bool

namespace Marks

/-- The places in either set. -/
def union (a b : Marks) : Marks := List.zipWith (· || ·) a b

/-- The places of a set that meet a condition. -/
def select (p : Spot → Bool) (places : List Spot) (marks : Marks) : Marks :=
  List.zipWith (fun spot mark => mark && p spot) places marks

/-- The places one character further on. -/
def shift (marks : Marks) : Marks := false :: marks.dropLast

/-- Repeats a step until it leads to no new place; every round but the last adds one. -/
def close (step : Marks → Marks) : Nat → Marks → Marks
  | 0, marks => marks
  | rounds + 1, marks =>
    let more := union marks (step marks)
    if more == marks then marks else close step rounds more

/-- Adds the places that some number of steps up to `rounds` lead to. -/
def upTo (step : Marks → Marks) : Nat → Marks → Marks
  | 0, marks => marks
  | rounds + 1, marks => union marks (upTo step rounds (step marks))

end Marks

/-- The places that a pattern leads to from the given ones. -/
def Node.advance (places : List Spot) : Node → Marks → Marks
  | .empty, marks => marks
  | .set s, marks => Marks.shift (Marks.select (fun spot => isIn s spot.after) places marks)
  | .look condition, marks => Marks.select (condition.holds ·) places marks
  | .cat first second, marks => second.advance places (first.advance places marks)
  | .alt first second, marks =>
    Marks.union (first.advance places marks) (second.advance places marks)
  | .repeated body low high, marks =>
    let begun := Nat.repeat (body.advance places) low marks
    match high with
    | none => Marks.close (body.advance places) places.length begun
    | some high => Marks.upTo (body.advance places) (high - low) begun

/-- Whether some part of a text matches. -/
def Node.matchesIn (pattern : Node) (text : List Char) : Bool :=
  let places := spots text
  (pattern.advance places (places.map fun _ => true)).any id

end DocTable.Regex
