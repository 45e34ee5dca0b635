/-
**Reading patterns.**

A pattern is read from left to right into a state that holds the alternatives in front of the
current one and the items of the current one. A group is read in a state of its own; a letter
switched on inside it ends with it.

* `parse?`: the pattern of a text, if the text is one;
* `compile?`: the same, if the pattern is not too large for the compiler.
-/

import DocTable.Regex.Class

namespace DocTable.Regex

/-- A pattern and how deeply its text is nested. -/
structure NestedNode where
  node : Node
  depth : Nat
deriving Repr

/-- A pattern of one token. -/
def NestedNode.flat (n : Node) : NestedNode := ⟨n, 0⟩

/-- A pattern that stands one level deeper. -/
def NestedNode.enclosed (p : NestedNode) : NestedNode := ⟨p.node, p.depth + 1⟩

/-- Part of an alternative. A switch of flags is no pattern: nothing repeats it. -/
inductive Item where
  | pattern (p : NestedNode)
  | switch
deriving Repr

def Item.depth : Item → Nat
  | .pattern p => p.depth
  | .switch => 0

/-- What has been read of a group. The items are in reverse. -/
structure Progress where
  flags : Flags
  branches : Option NestedNode
  items : List Item
deriving Repr

/-- The nodes of some items in sequence. -/
def sequenceOf (items : List Item) : Node :=
  items.foldl (fun rest item =>
    match item with
    | .pattern p => match rest with
      | .empty => p.node
      | rest => .cat p.node rest
    | .switch => rest) .empty

/-- Items as one pattern: several are one level deeper than each of them. -/
def joinItems (items : List Item) : NestedNode :=
  let deepest := (items.map Item.depth).foldl max 0
  ⟨sequenceOf items, if items.length ≤ 1 then deepest else deepest + 1⟩

/-- The alternatives up to here. -/
def Progress.allBranches (p : Progress) : NestedNode :=
  let last := joinItems p.items
  match p.branches with
  | none => last
  | some branches => ⟨.alt branches.node last.node, max branches.depth last.depth⟩

/-- The pattern of what has been read. -/
def Progress.finish (p : Progress) : NestedNode :=
  if p.branches.isSome then p.allBranches.enclosed else p.allBranches

def Progress.push (p : Progress) (n : NestedNode) : Progress :=
  { p with items := .pattern n :: p.items }

/-- Begins the next alternative. -/
def Progress.nextBranch (p : Progress) : Progress :=
  { p with branches := some p.allBranches, items := [] }

/-- Puts a repetition around the last item. -/
def Progress.repeatLast? (p : Progress) (low : Nat) (high : Option Nat) : Option Progress :=
  match p.items with
  | .pattern n :: items =>
    some { p with items := .pattern ⟨.repeated n.node low high, n.depth + 1⟩ :: items }
  | _ => none

/-- The node of a literal character. -/
def Flags.literalNode? (f : Flags) (c : Char) : Option Node :=
  if f.insensitive then
    if f.unicode || decide (c.toNat < 128) then some (.set (f.foldSet (.only c))) else none
  else some (.set (.only c))

def Flags.atomNode? (f : Flags) : Atom → Option Node
  | .literal c => f.literalNode? c
  | .set s => some (.set s)
  | .look condition => some (.look condition)

/-- The node of a dot. -/
def Flags.dotNode? (f : Flags) : Option Node :=
  if !f.unicode then none
  else some (.set (.complement
    (if f.dotAll then .nothing else if f.crlf then .ofRanges [('\n', '\n'), ('\r', '\r')]
      else .only '\n')))

def Flags.startNode (f : Flags) : Node :=
  .look (if f.multiLine then (if f.crlf then .lineStartCrlf else .lineStart) else .textStart)

def Flags.endNode (f : Flags) : Node :=
  .look (if f.multiLine then (if f.crlf then .lineEndCrlf else .lineEnd) else .textEnd)

/-- Sets the flag of a letter. -/
def Flags.set? (f : Flags) (letter : Char) (on : Bool) : Option Flags :=
  match letter with
  | 'i' => some { f with insensitive := on }
  | 'm' => some { f with multiLine := on }
  | 's' => some { f with dotAll := on }
  | 'x' => some { f with verbose := on }
  | 'u' => some { f with unicode := on }
  | 'R' => some { f with crlf := on }
  -- Which of several matches is preferred makes no difference to whether there is one.
  | 'U' => some f
  | _ => none

/-- The letters behind `(?`, each at most once and a minus sign among them at most once, and the
character that ends them. -/
def flagLetters? (f : Flags) (on : Bool) (seen : List Char) :
    List Char → Option (Flags × List Char × Char × List Char)
  | [] => none
  | c :: rest =>
    if c = ':' ∨ c = ')' then
      if seen.head? = some '-' then none else some (f, seen, c, rest)
    else if c = '-' then
      if seen.contains '-' then none else flagLetters? f false ('-' :: seen) rest
    else if seen.contains c then none
    else match f.set? c on with
      | some f => flagLetters? f on (c :: seen) rest
      | none => none

/-- The first character of a group's name and the further ones. -/
def isNameStart (c : Char) : Bool := c = '_' || CharSet.alphabetic.mem c
def isNameChar (c : Char) : Bool :=
  isNameStart c || c = '.' || c = '[' || c = ']'
    || (CharSet.ofCategories Text.Category.numbers).mem c

/-- The name of a group up to its closing angle. -/
def groupName? (chars : List Char) : Option (String × List Char) :=
  let name := chars.takeWhile (· ≠ '>')
  match name, chars.dropWhile (· ≠ '>') with
  | first :: more, '>' :: rest =>
    if isNameStart first && more.all isNameChar then some (String.ofList name, rest) else none
  | _, _ => none

/-- How a parenthesis begins. -/
inductive Opening where
  /-- A group, with the flags inside it and the name it may have. -/
  | group (flags : Flags) (name : Option String)
  /-- A switch of the flags from here on. -/
  | switch (flags : Flags)
deriving Repr

/-- What follows an opening parenthesis. -/
def opening? (f : Flags) (chars : List Char) : Option (Opening × List Char) :=
  match f.skip chars with
  | '?' :: '=' :: _ => none
  | '?' :: '!' :: _ => none
  | '?' :: '<' :: '=' :: _ => none
  | '?' :: '<' :: '!' :: _ => none
  | '?' :: 'P' :: '<' :: rest =>
    (groupName? rest).map fun (name, rest) => (.group f (some name), rest)
  | '?' :: '<' :: rest =>
    (groupName? rest).map fun (name, rest) => (.group f (some name), rest)
  | '?' :: rest => do
    let (flags, seen, stop, rest) ← flagLetters? f true [] rest
    if stop = ':' then some (.group flags none, rest)
    else if seen = [] then none
    else some (.switch flags, rest)
  | rest => some (.group f none, rest)

/-- Decimal digits, between which verbose patterns may have blanks. -/
def spacedDigits (f : Flags) : Nat → List Char → List Char × List Char
  | fuel + 1, c :: rest =>
    if c.isDigit then
      let (digits, rest) := spacedDigits f fuel (f.skip rest)
      (c :: digits, rest)
    else ([], c :: rest)
  | _, chars => ([], chars)

/-- A number of times, with blanks around it. -/
def times? (f : Flags) (chars : List Char) : Option Nat × List Char :=
  let chars := chars.dropWhile Text.isBlank
  let (digits, rest) := spacedDigits f chars.length chars
  let rest := f.skip (rest.dropWhile Text.isBlank)
  ((readNat? digits).bind fun n => if n < 2 ^ 32 then some n else none,
    rest.dropWhile Text.isBlank)

/-- The question mark that makes a repetition prefer fewer times. -/
def skipLazy : List Char → List Char
  | '?' :: rest => rest
  | rest => rest

/-- The numbers of a repetition between braces, the opening one read. -/
def bounds? (f : Flags) (chars : List Char) : Option (Nat × Option Nat × List Char) :=
  match times? f (f.skip chars) with
  | (none, _) => none
  | (some low, '\x7d' :: rest) => some (low, some low, skipLazy (f.skip rest))
  | (some low, ',' :: rest) =>
    match f.skip rest with
    | '\x7d' :: rest => some (low, none, skipLazy (f.skip rest))
    | rest =>
      match times? f rest with
      | (some high, '\x7d' :: rest) =>
        if low ≤ high then some (low, some high, skipLazy (f.skip rest)) else none
      | _ => none
  | _ => none

/-- Reads a group, or the whole pattern if `inside` is false. The names are those of the groups so
far, no two of which may be equal. -/
def group? (inside : Bool) :
    Nat → List String → Progress → List Char → Option (NestedNode × List String × List Char)
  | 0, _, _, _ => none
  | fuel + 1, names, p, chars =>
    match p.flags.skip chars with
    | [] => if inside then none else some (p.finish, names, [])
    | ')' :: rest => if inside then some (p.finish, names, rest) else none
    | '|' :: rest => group? inside fuel names p.nextBranch rest
    | '(' :: rest => do
      match ← opening? p.flags rest with
      | (.switch flags, rest) =>
        group? inside fuel names { p with flags, items := .switch :: p.items } rest
      | (.group flags name, rest) =>
        let names ← match name with
          | some name => if names.contains name then none else some (name :: names)
          | none => some names
        let (body, names, rest) ← group? true fuel names ⟨flags, none, []⟩ rest
        group? inside fuel names (p.push body.enclosed) rest
    | '[' :: rest => do
      let (s, rest) ← class? p.flags (rest.length + 1) rest
      group? inside fuel names (p.push ⟨.set s.set, s.depth⟩) rest
    | '?' :: rest => do
      group? inside fuel names (← p.repeatLast? 0 (some 1)) (skipLazy rest)
    | '*' :: rest => do
      group? inside fuel names (← p.repeatLast? 0 none) (skipLazy rest)
    | '+' :: rest => do
      group? inside fuel names (← p.repeatLast? 1 none) (skipLazy rest)
    | '\x7b' :: rest => do
      let (low, high, rest) ← bounds? p.flags rest
      group? inside fuel names (← p.repeatLast? low high) rest
    | '\\' :: rest => do
      let (atom, rest) ← escape? p.flags rest
      group? inside fuel names (p.push (.flat (← p.flags.atomNode? atom))) rest
    | '.' :: rest => do
      group? inside fuel names (p.push (.flat (← p.flags.dotNode?))) rest
    | '^' :: rest => group? inside fuel names (p.push (.flat p.flags.startNode)) rest
    | '$' :: rest => group? inside fuel names (p.push (.flat p.flags.endNode)) rest
    | c :: rest => do
      group? inside fuel names (p.push (.flat (← p.flags.literalNode? c))) rest

/-- The levels of nesting that a pattern may have. -/
def depthLimit : Nat := 250

/-- The pattern of a text, read with the given flags. Every step reads a character, which bounds the
steps. -/
def parse? (flags : Flags) (source : List Char) : Option Node :=
  match group? false (source.length + 1) [] ⟨flags, none, []⟩ source with
  | some (p, _, _) => if p.depth ≤ depthLimit then some p.node else none
  | none => none

/-- What compiles patterns, known by the patterns that it takes. It refuses those whose compiled form
is larger than its limit, and how large the form of a pattern is depends on how it is built. -/
class Compiler where
  takes : Node → Bool

/-- The pattern of a text that can be compiled. -/
def compile? [Compiler] (flags : Flags) (source : List Char) : Option Node :=
  (parse? flags source).filter Compiler.takes

end DocTable.Regex
