/-
**Values as JSON.**

Kinds of values that JSON does not have are objects with one key that begins with a dollar sign.

* `Value.toJson`: the JSON form of a value;
* `typedValue?`: the value that such an object stands for;
* `Value.ofJson?`, `Document.ofJson?`: values in the order of the text;
* `Value.ofSortedJson?`: values whose documents are sorted by their keys.
-/

import DocTable.Calendar.Timestamp
import DocTable.Json.Reader
import DocTable.Number.Shortest
import DocTable.Text.Base64
import DocTable.Text.Split
import DocTable.Value.Basic

namespace DocTable

/-- The JSON form of a double; a NaN or an infinity has none but null. -/
def Double.toJson (x : Double) : Json :=
  if x.isFinite then .number (x.render .json) else .null

/-- An object with one key. -/
def Json.single (key : String) (value : Json) : Json := .object [(key, value)]

/-- The JSON form of binary data. -/
def Json.ofBinary (subtype : UInt8) (bytes : List UInt8) : Json :=
  if subtype = 0 then .array (bytes.map fun b => .nat b.toNat)
  else .single "$binary" (.object
    [("base64", .string (String.ofList (Text.base64 bytes))),
      ("subType", .string (String.ofList (Text.hexPadded 2 subtype.toNat)))])

namespace Value

mutual

/-- The JSON form of a value. -/
def toJson : Value → Json
  | .null => .null
  | .bool b => .bool b
  | .int32 n => .int n.toInt
  | .int64 n => .int n.toInt
  | .double x => x.toJson
  | .string s => .string s
  | .array items => .array (itemsToJson items)
  | .document entries => .object (entriesToJson entries)
  | .dateTime millis =>
    .single "$date" (.single "$numberLong" (.string (toString millis.toInt)))
  | .objectId id => .single "$oid" (.string id.toHex)
  | .undefined => .single "$undefined" (.bool true)
  | .minKey => .single "$minKey" (.nat 1)
  | .maxKey => .single "$maxKey" (.nat 1)
  | .timestamp time increment =>
    .single "$timestamp" (.object [("t", .nat time.toNat), ("i", .nat increment.toNat)])
  | .regex pattern options =>
    .single "$regularExpression"
      (.object [("pattern", .string pattern), ("options", .string options)])
  | .symbol s => .single "$symbol" (.string s)
  | .code s => .single "$code" (.string s)
  | .codeWithScope s scope =>
    .object [("$code", .string s), ("$scope", .object (entriesToJson scope))]
  | .binary subtype bytes => .ofBinary subtype bytes
  | .decimal128 n =>
    .single "$numberDecimalBytes" (.array (n.bytes.toList.map fun b => .nat b.toNat))
  | .dbPointer collection id =>
    .single "$dbPointer"
      (.object [("$ref", .string collection), ("$id", .single "$oid" (.string id.toHex))])
termination_by structural v => v

def itemsToJson : List Value → List Json
  | [] => []
  | item :: rest => item.toJson :: itemsToJson rest
termination_by structural items => items

def entriesToJson : List (String × Value) → List (String × Json)
  | [] => []
  | (key, value) :: rest => (key, value.toJson) :: entriesToJson rest
termination_by structural entries => entries

end

end Value

/-- The JSON form of a document. -/
def Document.toJson (d : Document) : Json := (Value.document d).toJson

/-! ### Objects that stand for other kinds of values -/

/-- The keys that make an object something else than a document. -/
def typeKeys : List String :=
  ["$oid", "$symbol", "$regularExpression", "$numberInt", "$numberLong", "$numberDouble",
    "$numberDecimal", "$binary", "$uuid", "$code", "$timestamp", "$date", "$minKey", "$maxKey",
    "$dbPointer", "$undefined"]

/-- The keys that end an object read in its order. A scope belongs to code, and code with a scope is
not read here. -/
def endingKeys : List String := "$scope" :: typeKeys

/-- A double by its digits or by one of three words. -/
def doubleOfText? (s : String) : Option Double :=
  match s with
  | "Infinity" => some (Double.infinity false)
  | "-Infinity" => some (Double.infinity true)
  | "NaN" => some Double.nan
  | s => readDouble? s.toList

/-- Sixteen bytes in groups of digits: bare, or with hyphens, which may stand in braces or behind
`urn:uuid:`. -/
def uuidBytes? (s : String) : Option (List UInt8) :=
  let hyphenated (chars : List Char) : Option (List UInt8) :=
    match Text.splitOn '-' chars with
    | [a, b, c, d, e] =>
      if a.length = 8 ∧ b.length = 4 ∧ c.length = 4 ∧ d.length = 4 ∧ e.length = 12 then
        Text.hexBytes? (a ++ b ++ c ++ d ++ e)
      else none
    | _ => none
  let chars := s.toList
  if chars.length = 32 then Text.hexBytes? chars
  else if chars.length = 36 then hyphenated chars
  else if chars.length = 38 then
    if chars.head? = some '\x7b' ∧ chars.getLast? = some '\x7d' then
      hyphenated (chars.drop 1).dropLast
    else none
  else if chars.length = 45 then
    if chars.take 9 = "urn:uuid:".toList then hyphenated (chars.drop 9) else none
  else none

/-- Binary data by its base 64 and the two digits of its kind. -/
def binaryOfJson? : Json.Reader Value := fun room j => do
  let fields ← Json.exactRecord ["base64", "subType"] room j
  let digits ← fields.required "base64" Json.text
  let kind ← fields.required "subType" Json.text
  let bytes ← Text.base64Bytes? digits.toList
  match ← Text.hexBytes? kind.toList with
  | [subtype] => some (.binary subtype bytes)
  | _ => none

def timestampOfJson? : Json.Reader Value := fun room j => do
  let fields ← Json.exactRecord ["t", "i"] room j
  return .timestamp (← fields.required "t" Json.uint32) (← fields.required "i" Json.uint32)

/-- The characters of a text in ascending order. -/
def sortedText (s : String) : String :=
  String.ofList (s.toList.mergeSort fun a b => decide (a ≤ b))

/-- A pattern with its options, which are sorted. Neither may hold the character zero. -/
def regexOfJson? : Json.Reader Value := fun room j => do
  let fields ← Json.exactRecord ["pattern", "options"] room j
  let pattern ← fields.required "pattern" Json.text
  let options ← fields.required "options" Json.text
  if (pattern ++ options).toList.any (·.toNat = 0) then none
  else some (.regex pattern (sortedText options))

/-- The milliseconds of an instant: a date text, a number, or an object with the number's text. -/
def instantOfJson? : Json.Reader Value := fun room j =>
  if !j.isReadable room then none
  else match j with
    | .string s => (Calendar.readMillis? s).bind toInt64? |>.map .dateTime
    | .number _ => (Json.int64 room j).map .dateTime
    | j => do
      let fields ← Json.exactRecord ["$numberLong"] room j
      let digits ← fields.required "$numberLong" Json.text
      return .dateTime (← readInt64? digits.toList)

/-- The value that an object with one of the keys above stands for. Decimal numbers and pointers are
not read here. -/
def typedValue? (key : String) : Json.Reader Value := fun room j =>
  match key with
  | "$oid" => ((Json.text room j).bind ObjectId.ofHex?).map .objectId
  | "$symbol" => (Json.text room j).map .symbol
  | "$regularExpression" => regexOfJson? room j
  | "$numberInt" => ((Json.text room j).bind fun s => readInt32? s.toList).map .int32
  | "$numberLong" => ((Json.text room j).bind fun s => readInt64? s.toList).map .int64
  | "$numberDouble" => ((Json.text room j).bind doubleOfText?).map .double
  | "$binary" => binaryOfJson? room j
  | "$uuid" => ((Json.text room j).bind uuidBytes?).map (.binary 4 ·)
  | "$code" => (Json.text room j).map .code
  | "$timestamp" => timestampOfJson? room j
  | "$date" => instantOfJson? room j
  | "$minKey" => (Json.natural 256 room j).bind fun n => if n = 1 then some .minKey else none
  | "$maxKey" => (Json.natural 256 room j).bind fun n => if n = 1 then some .maxKey else none
  | "$undefined" => (Json.boolean room j).bind fun b => if b then some .undefined else none
  | _ => none

/-! ### Values in the order of the text -/

/-- A number of a text that keeps its order: what fits into 32 bits and is not negative is
narrow. -/
def Numeral.toValue? : Numeral → Option Value
  | .natural n =>
    match toInt32? n with
    | some narrow => some (.int32 narrow)
    | none => (toInt64? n).map .int64
  | .negative n => (toInt64? n).map .int64
  | .real x => some (.double x)

namespace Value

mutual

/-- The value of a tree. -/
def ofJson? (room : Nat) : Json → Option Value
  | .null => some .null
  | .bool b => some (.bool b)
  | .number literal => (Numeral.ofLiteral? literal).bind Numeral.toValue?
  | .string s => some (.string s)
  | .array items => (Json.enter room).bind fun room => (ofItems? room items).map .array
  | .object members => (Json.enter room).bind fun room => ofMembers? room [] members
  | .unreadable => none
termination_by structural j => j

def ofItems? (room : Nat) : List Json → Option (List Value)
  | [] => some []
  | item :: rest => do
    let v ← ofJson? room item
    let vs ← ofItems? room rest
    some (v :: vs)
termination_by structural items => items

/-- The value of an object. An ending key finishes it: the members in front of that key are
dropped, and none may follow. -/
def ofMembers? (room : Nat) (read : Document) : List (String × Json) → Option Value
  | [] => some (.document read)
  | (key, member) :: rest =>
    if endingKeys.contains key then
      match rest with
      | [] => typedValue? key room member
      | _ :: _ => none
    else do
      let v ← ofJson? room member
      ofMembers? room (read.insert key v) rest
termination_by structural members => members

end

end Value

/-- The document of a tree. -/
def Document.ofJson? : Json.Reader Document := fun room j =>
  match j with
  | .object _ => (Value.ofJson? room j).bind fun v =>
    match v with
    | .document d => some d
    | _ => none
  | _ => none

/-! ### Values with sorted keys -/

/-- A number of a text whose keys are sorted: as narrow as it fits. -/
def Numeral.toNarrowValue (n : Numeral) : Value :=
  match n.toInt? with
  | none => .double n.toDouble
  | some i =>
    match toInt32? i, toInt64? i with
    | some narrow, _ => .int32 narrow
    | none, some wide => .int64 wide
    | none, none => .double n.toDouble

/-- Puts a member where its key belongs, in the place of one with the same key. -/
def insertSorted (key : String) (value : α) : List (String × α) → List (String × α)
  | [] => [(key, value)]
  | (other, old) :: rest =>
    if key = other then (key, value) :: rest
    else if key < other then (key, value) :: (other, old) :: rest
    else (other, old) :: insertSorted key value rest

namespace Value

/-- What an object with converted members stands for. A key with a type stands alone. -/
def ofTypedMembers? (members : List (String × Json)) (entries : List (String × Value)) :
    Option Value :=
  if members.any (typeKeys.contains ·.1) then
    match members with
    | [(key, member)] => typedValue? key Json.nestingLimit member
    | _ => none
  else some (.document entries)

mutual

/-- The value of a tree whose objects are read by ascending keys, the last member of a key
counting. -/
def ofSortedJson? : Json → Option Value
  | .null => some .null
  | .bool b => some (.bool b)
  | .number literal => (Numeral.ofLiteral? literal).map Numeral.toNarrowValue
  | .string s => some (.string s)
  | .array items => (ofSortedItems? items).map .array
  | .object members => ofSortedMembers? [] [] members
  | .unreadable => none
termination_by structural j => j

def ofSortedItems? : List Json → Option (List Value)
  | [] => some []
  | item :: rest => do
    let v ← ofSortedJson? item
    let vs ← ofSortedItems? rest
    some (v :: vs)
termination_by structural items => items

/-- The members read so far, as trees and as what became of them. -/
def ofSortedMembers? (trees : List (String × Json)) (values : List (String × Option Value)) :
    List (String × Json) → Option Value
  | [] =>
    if trees.any (typeKeys.contains ·.1) then ofTypedMembers? trees []
    else do
      let entries ← values.mapM fun (key, v) => v.map (key, ·)
      ofTypedMembers? trees entries
  | (key, member) :: rest =>
    ofSortedMembers? (insertSorted key member trees)
      (insertSorted key (ofSortedJson? member) values) rest
termination_by structural members => members

end

end Value

end DocTable
