/-
**Typed reading of JSON trees.**

A reader takes the number of levels of nesting that are still allowed, its `room`, and gives a value
or nothing. Values that no reader asks for are passed over, whatever they hold.

* `Json.isReadable`: a tree that any reader can take in;
* `Json.record`: the fields of a record, from an object or from an array of them in order.
-/

import DocTable.Json.Number
import DocTable.Json.Parser

namespace DocTable.Json

/-- The levels of nesting that a text may have. -/
def nestingLimit : Nat := 127

/-- A reader of values of one type. -/
abbrev Reader (α : Type) := Nat → Json → Option α

/-- The room inside one more level. -/
def enter : Nat → Option Nat
  | 0 => none
  | room + 1 => some room

mutual

/-- Whether a tree fits into the room and all its numbers and texts mean something. -/
def isReadable : Nat → Json → Bool
  | _, .null => true
  | _, .bool _ => true
  | _, .number literal => (Numeral.ofLiteral? literal).isSome
  | _, .string _ => true
  | 0, .array _ => false
  | room + 1, .array items => areReadable room items
  | 0, .object _ => false
  | room + 1, .object members => membersReadable room members
  | _, .unreadable => false
termination_by structural _ j => j

def areReadable (room : Nat) : List Json → Bool
  | [] => true
  | item :: rest => isReadable room item && areReadable room rest
termination_by structural items => items

def membersReadable (room : Nat) : List (String × Json) → Bool
  | [] => true
  | (_, value) :: rest => isReadable room value && membersReadable room rest
termination_by structural members => members

end

def text : Reader String := fun _ j =>
  match j with
  | .string s => some s
  | _ => none

def boolean : Reader Bool := fun _ j =>
  match j with
  | .bool b => some b
  | _ => none

/-- A number in range. -/
def numeral : Reader Numeral := fun _ j =>
  match j with
  | .number literal => Numeral.ofLiteral? literal
  | _ => none

def integer : Reader Int := fun room j => (numeral room j).bind Numeral.toInt?

def int64 : Reader Int64 := fun room j => (integer room j).bind toInt64?

def double : Reader Double := fun room j => (numeral room j).map Numeral.toDouble

/-- A whole number below a bound. -/
def natural (bound : Nat) : Reader Nat := fun room j =>
  (integer room j).bind fun n => if 0 ≤ n ∧ n < bound then some n.toNat else none

def uint64 : Reader UInt64 := fun room j => (natural (2 ^ 64) room j).map UInt64.ofNat

def uint32 : Reader UInt32 := fun room j => (natural (2 ^ 32) room j).map UInt32.ofNat

/-- An array of values of one kind. -/
def list (item : Reader α) : Reader (List α) := fun room j =>
  match j with
  | .array items => (enter room).bind fun room => items.mapM (item room)
  | _ => none

/-- A value or null. -/
def optional (value : Reader α) : Reader (Option α) := fun room j =>
  match j with
  | .null => some none
  | j => (value room j).map some

/-- One of several names: a text, or an object that has the name as its only key, with null. -/
def choice : Reader String := fun room j =>
  match j with
  | .string name => some name
  | .object [(name, .null)] => (enter room).map fun _ => name
  | _ => none

/-- The fields of a record and the room inside it. -/
structure Fields where
  members : List (String × Json)
  room : Nat

/-- Whether no name occurs twice. -/
def areDistinct : List String → Bool
  | [] => true
  | name :: rest => !rest.contains name && areDistinct rest

/-- The fields of a record. An object may have further keys, but a field only once; an array has
the first fields in their order. -/
def record (names : List String) : Reader Fields := fun room j =>
  match j with
  | .object members =>
    let known := members.filter fun member => names.contains member.1
    if areDistinct (known.map (·.1)) then (enter room).map (⟨known, ·⟩) else none
  | .array items =>
    if items.length ≤ names.length then (enter room).map (⟨names.zip items, ·⟩) else none
  | _ => none

/-- The fields of a record whose object has no further keys. -/
def exactRecord (names : List String) : Reader Fields := fun room j =>
  match j with
  | .object members =>
    if members.all (names.contains ·.1) then record names room j else none
  | j => record names room j

namespace Fields

/-- The value of a field, if it is there. -/
def get? (f : Fields) (name : String) : Option Json := (f.members.find? (·.1 == name)).map (·.2)

/-- A field that has to be there. -/
def required (f : Fields) (name : String) (value : Reader α) : Option α :=
  (f.get? name).bind (value f.room)

/-- A field with a value of its own where it is missing. -/
def withDefault (f : Fields) (name : String) (value : Reader α) (default : α) : Option α :=
  match f.get? name with
  | some j => value f.room j
  | none => some default

end Fields

end DocTable.Json
