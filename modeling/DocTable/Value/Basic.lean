/-
**Values and documents.**

A document is a list of named values. Its order is part of what is printed; equality of values
(`Value.same`) looks through it.

* `Document.get?`, `Document.insert`, `Document.erase`: one entry of a document;
* `Document.get?_insert_self`, `Document.get?_insert_of_ne`, `Document.get?_erase_self`,
  `Document.get?_erase_of_ne`: what they do to the entries;
* `Value.same`: equality without regard to the order of keys.
-/

import DocTable.Number.Double
import DocTable.Text.Hex

namespace DocTable

/-- The identifier of a stored document: 96 bits. -/
structure ObjectId where
  bits : BitVec 96
deriving DecidableEq, Repr, Inhabited

namespace ObjectId

/-- The twenty-four hexadecimal digits of an identifier. -/
def toHex (id : ObjectId) : String := String.ofList (Text.hexPadded 24 id.bits.toNat)

/-- The identifier written by twenty-four hexadecimal digits of either case. -/
def ofHex? (s : String) : Option ObjectId :=
  let chars := s.toList
  if chars.length = 24 then (Text.hexNumber? chars).map fun n => ⟨BitVec.ofNat 96 n⟩ else none

end ObjectId

/-- A decimal number of 128 bits: its bytes, the lowest one first. -/
structure Decimal128 where
  bytes : Vector UInt8 16
deriving DecidableEq, Repr, Inhabited

/-- A value of a document. -/
inductive Value where
  | null
  | bool (b : Bool)
  | int32 (n : Int32)
  | int64 (n : Int64)
  | double (x : Double)
  | string (s : String)
  | array (items : List Value)
  | document (entries : List (String × Value))
  /-- Milliseconds since the start of 1970. -/
  | dateTime (millis : Int64)
  | objectId (id : ObjectId)
  | undefined
  | minKey
  | maxKey
  | timestamp (time increment : UInt32)
  | regex (pattern options : String)
  | symbol (s : String)
  | code (s : String)
  /-- Code and the values of its free names. -/
  | codeWithScope (s : String) (scope : List (String × Value))
  | binary (subtype : UInt8) (bytes : List UInt8)
  | decimal128 (n : Decimal128)
  /-- A document of another collection, by its identifier. -/
  | dbPointer (collection : String) (id : ObjectId)
deriving Repr, Inhabited

/-- The key of a document's identifier. -/
def idKey : String := "_id"

/-- Named values in order. The operations below keep the names distinct. -/
abbrev Document := List (String × Value)

namespace Document

/-- The value under a key. -/
def get? : Document → String → Option Value
  | [], _ => none
  | (name, value) :: rest, key => if name = key then some value else get? rest key

/-- Whether a key is present. -/
def contains (d : Document) (key : String) : Bool := (d.get? key).isSome

/-- Sets the value under a key: in place if the key is present, at the end if not. -/
def insert : Document → String → Value → Document
  | [], key, value => [(key, value)]
  | (name, old) :: rest, key, value =>
    if name = key then (name, value) :: rest else (name, old) :: insert rest key value

/-- Removes a key; the others keep their order. -/
def erase (d : Document) (key : String) : Document := d.filter fun entry => entry.1 ≠ key

/-- The document of a list of entries. A repeated key keeps its first place and its last value. -/
def ofEntries (entries : List (String × Value)) : Document :=
  entries.foldl (fun d entry => d.insert entry.1 entry.2) []

theorem get?_insert_self (d : Document) (key : String) (value : Value) :
    (d.insert key value).get? key = some value := by
  induction d with
  | nil => simp [insert, get?]
  | cons entry rest ih =>
    obtain ⟨name, old⟩ := entry
    by_cases here : name = key
    · simp [insert, get?, here]
    · simp only [insert, if_neg here, get?]
      exact ih

theorem get?_insert_of_ne (d : Document) {key other : String} (value : Value)
    (distinct : key ≠ other) : (d.insert key value).get? other = d.get? other := by
  induction d with
  | nil => simp [insert, get?, distinct]
  | cons entry rest ih =>
    obtain ⟨name, old⟩ := entry
    by_cases here : name = key
    · subst here
      simp [insert, get?, distinct]
    · simp only [insert, if_neg here, get?]
      rw [ih]

theorem get?_erase_self (d : Document) (key : String) : (d.erase key).get? key = none := by
  induction d with
  | nil => rfl
  | cons entry rest ih =>
    obtain ⟨name, old⟩ := entry
    by_cases here : name = key
    · simpa [erase, here] using ih
    · simpa [erase, here, get?] using ih

theorem get?_erase_of_ne (d : Document) {key other : String} (distinct : key ≠ other) :
    (d.erase key).get? other = d.get? other := by
  induction d with
  | nil => rfl
  | cons entry rest ih =>
    obtain ⟨name, old⟩ := entry
    by_cases here : name = key
    · have apart : name ≠ other := here ▸ distinct
      simpa [erase, here, get?, apart, distinct] using ih
    · by_cases there : name = other
      · simp [erase, get?, there, distinct.symm]
      · simpa [erase, here, get?, there] using ih

end Document

namespace Value

mutual

/-- Equality of values: numbers of different kinds differ, doubles are compared by value, and the
order of the keys of a document does not matter. -/
def same : Value → Value → Bool
  | .null, .null => true
  | .bool a, .bool b => a == b
  | .int32 a, .int32 b => a == b
  | .int64 a, .int64 b => a == b
  | .double a, .double b => a.equal b
  | .string a, .string b => a == b
  | .array a, .array b => sameItems a b
  | .document a, .document b => a.length == b.length && sameEntries a b
  | .dateTime a, .dateTime b => a == b
  | .objectId a, .objectId b => a == b
  | .undefined, .undefined => true
  | .minKey, .minKey => true
  | .maxKey, .maxKey => true
  | .timestamp t i, .timestamp u j => t == u && i == j
  | .regex p o, .regex q r => p == q && o == r
  | .symbol a, .symbol b => a == b
  | .code a, .code b => a == b
  | .codeWithScope a s, .codeWithScope b t => a == b && (s.length == t.length && sameEntries s t)
  | .binary s a, .binary t b => s == t && a == b
  | .decimal128 a, .decimal128 b => a == b
  | .dbPointer c a, .dbPointer d b => c == d && a == b
  | _, _ => false
termination_by structural v => v

/-- Equality item by item. -/
def sameItems : List Value → List Value → Bool
  | [], [] => true
  | a :: rest, b :: others => same a b && sameItems rest others
  | _, _ => false
termination_by structural items => items

/-- Every entry of the first has its equal in the second. -/
def sameEntries : List (String × Value) → Document → Bool
  | [], _ => true
  | (key, a) :: rest, d =>
    (match d.get? key with
      | some b => same a b
      | none => false) && sameEntries rest d
termination_by structural entries => entries

end

end Value

end DocTable
