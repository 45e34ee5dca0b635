/-
**Character classes between brackets.**

Inside the brackets stand characters, ranges, escapes, named classes and further classes; `&&`, `--`
and `~~` join what is on their left with what follows.
-/

import DocTable.Regex.Escape

namespace DocTable.Regex

/-- What joins two parts of a class. -/
inductive SetOperator where
  | meet
  | without
  | oneOf
deriving Repr

def SetOperator.apply (op : SetOperator) (a b : CharSet) : CharSet :=
  match op with
  | .meet => .meet a b
  | .without => a.without b
  | .oneOf => a.oneOf b

/-- A class and how deeply its text is nested. -/
structure NestedSet where
  set : CharSet
  depth : Nat
deriving Repr

/-- The items of a class up to the next operator: their union, their number, and how deeply they are
nested. -/
structure ClassItems where
  set : CharSet
  count : Nat
  depth : Nat
deriving Repr

namespace ClassItems

def none : ClassItems := ⟨.nothing, 0, 0⟩

/-- Adds an item. -/
def add (items : ClassItems) (item : NestedSet) : ClassItems :=
  ⟨.union items.set item.set, items.count + 1, max items.depth item.depth⟩

/-- All items as one: several are one level deeper than each of them. -/
def joined (items : ClassItems) : NestedSet :=
  ⟨items.set, if items.count ≤ 1 then items.depth else items.depth + 1⟩

end ClassItems

/-- The items in front of the next operator, joined to what stands before them. -/
def Flags.join (f : Flags) (left : Option (SetOperator × NestedSet)) (items : ClassItems) :
    NestedSet :=
  let right := items.joined
  match left with
  | none => right
  | some (op, left) =>
    ⟨op.apply (f.foldSet left.set) (f.foldSet right.set), max left.depth right.depth + 1⟩

/-- The finished class. -/
def Flags.finishClass? (f : Flags) (negated : Bool) (s : CharSet) : Option CharSet :=
  let folded := f.foldSet s
  let final := if negated then .complement folded else folded
  if f.unicode then some final
  else if final.reachesPastAscii then none
  else some (.meet .ascii final)

/-- The literal that an end of a range has to be. -/
def Atom.literal? : Atom → Option Char
  | .literal c => some c
  | _ => none

/-- A single character of a class; without Unicode it has to be ASCII. -/
def Flags.classChar? (f : Flags) (c : Char) : Option Char :=
  if f.unicode || decide (c.toNat < 128) then some c else none

/-- One item of a class: a character or an escape. -/
def classAtom? (f : Flags) : List Char → Option (Atom × List Char)
  | [] => none
  | '\\' :: rest => escape? f rest
  | c :: rest => some (.literal c, rest)

/-- The set of an item that is not an end of a range. -/
def Flags.itemSet? (f : Flags) : Atom → Option CharSet
  | .literal c => (f.classChar? c).map .only
  | .set s => some s
  | .look _ => none

/-- An item or a range of a class. -/
def classRange? (f : Flags) (chars : List Char) : Option (CharSet × List Char) := do
  let (first, rest) ← classAtom? f chars
  match f.skip rest with
  | [] => none
  | '-' :: more =>
    let single : Option (CharSet × List Char) :=
      (f.itemSet? first).map fun s => (s, '-' :: more)
    match f.skip more with
    | ']' :: _ => single
    | '-' :: _ => single
    | more => do
      let (last, rest) ← classAtom? f more
      let low ← first.literal?.bind f.classChar?
      let high ← last.literal?.bind f.classChar?
      if low ≤ high then some (.range low high, rest) else none
  | rest => (f.itemSet? first).map fun s => (s, rest)

/-- The characters up to the next colon. -/
def nameBody (chars : List Char) : List Char × List Char :=
  (chars.takeWhile (· ≠ ':'), chars.dropWhile (· ≠ ':'))

/-- A named class such as `[:alpha:]`, its opening bracket read. -/
def namedClass? (f : Flags) : List Char → Option (CharSet × List Char)
  | ':' :: rest =>
    let (negated, rest) := match rest with
      | '^' :: rest => (true, rest)
      | rest => (false, rest)
    match nameBody rest with
    | (name, ':' :: ']' :: rest) => do
      let s ← CharSet.ofName? (String.ofList name)
      let folded := f.foldSet s
      some (if negated then .complement folded else folded, rest)
    | _ => none
  | _ => none

/-- The number of hyphens that stand for themselves in front of a class, and what follows them. -/
def leadingHyphens (f : Flags) : Nat → List Char → Nat × List Char
  | 0, chars => (0, chars)
  | fuel + 1, '-' :: rest =>
    let (count, rest) := leadingHyphens f fuel (f.skip rest)
    (count + 1, rest)
  | _ + 1, chars => (0, chars)

/-- The opening of a class behind its bracket: whether it is negated, and its first items, which are
hyphens or else a bracket. -/
def classOpening (f : Flags) (chars : List Char) : Bool × ClassItems × List Char :=
  let (negated, chars) := match f.skip chars with
    | '^' :: rest => (true, f.skip rest)
    | rest => (false, rest)
  match chars with
  | ']' :: rest => (negated, ⟨.only ']', 1, 0⟩, f.skip rest)
  | chars =>
    match leadingHyphens f chars.length chars with
    | (0, rest) => (negated, .none, rest)
    | (count, rest) => (negated, ⟨.only '-', count, 0⟩, rest)

mutual

/-- A class behind its opening bracket. -/
def class? (f : Flags) : Nat → List Char → Option (NestedSet × List Char)
  | 0, _ => none
  | fuel + 1, chars => do
    let (negated, items, rest) := classOpening f chars
    let (found, rest) ← classItems? f fuel none items rest
    let final ← f.finishClass? negated found.set
    some (⟨final, found.depth + 1⟩, rest)

/-- The items of a class up to its closing bracket. -/
def classItems? (f : Flags) :
    Nat → Option (SetOperator × NestedSet) → ClassItems → List Char → Option (NestedSet × List Char)
  | 0, _, _, _ => none
  | fuel + 1, left, items, chars =>
    match f.skip chars with
    | [] => none
    | '[' :: rest =>
      match namedClass? f rest with
      | some (s, rest) => classItems? f fuel left (items.add ⟨s, 0⟩) rest
      | none => do
        let (inner, rest) ← class? f fuel rest
        classItems? f fuel left (items.add inner) rest
    | ']' :: rest => some (f.join left items, rest)
    | '&' :: '&' :: rest => classItems? f fuel (some (.meet, f.join left items)) .none rest
    | '-' :: '-' :: rest => classItems? f fuel (some (.without, f.join left items)) .none rest
    | '~' :: '~' :: rest => classItems? f fuel (some (.oneOf, f.join left items)) .none rest
    | chars => do
      let (s, rest) ← classRange? f chars
      classItems? f fuel left (items.add ⟨s, 0⟩) rest

end

end DocTable.Regex
