/-
**Conditions written as documents.**

The entries of a filter document are conditions that all have to hold. Keys with a dollar sign are
operators; every other key is a path, and its value is an operand or a document of operators.

* `Condition.ofDocument`: the condition that a filter document states;
* `FilterFault.message`: what is wrong with one that states none.
-/

import DocTable.Condition.Basic

namespace DocTable

/-- What is wrong with a filter document. -/
inductive FilterFault where
  | unknownTopLevel (operator : String)
  | notAnArray (operator : String)
  | emptyArray (operator : String)
  | notDocuments (operator : String)
  | inNotAnArray
  | existsNotABool
  | optionsAlone
  | unknownField (operator : String)
  | regexNotAString
  | optionsNotAString
  | besideRegex (key : String)
  | unknownOption (letter : Char)
  | invalidPattern
  /-- A fault in the words of a store. -/
  | reported (reason : String)
deriving DecidableEq, Repr

/-- The wording of a fault. -/
def FilterFault.message : FilterFault → String
  | .unknownTopLevel op => "unknown top-level operator: " ++ op
  | .notAnArray op => op ++ " value must be an array"
  | .emptyArray op => op ++ " array must not be empty"
  | .notDocuments op => op ++ " array elements must be documents"
  | .inNotAnArray => "$in value must be an array"
  | .existsNotABool => "$exists value must be a boolean"
  | .optionsAlone => "$options without $regex"
  | .unknownField op => "unknown field operator: " ++ op
  | .regexNotAString => "$regex value must be a string"
  | .optionsNotAString => "$options value must be a string"
  | .besideRegex key => "unexpected key alongside $regex: " ++ key
  | .unknownOption letter => "unknown regex option: " ++ String.singleton letter
  | .invalidPattern => "invalid regex pattern"
  | .reported reason => reason

namespace Condition

/-- Whether a key is an operator. -/
def isOperator (key : String) : Bool := key.toList.head? == some '$'

/-- The condition of several that all have to hold: one of them is that one. -/
def conjunction : List Condition → Condition
  | [part] => part
  | parts => .all parts

/-- The condition of all entries of a filter; no entry is no condition. -/
def conjunctionOrAlways : List Condition → Condition
  | [] => .always
  | parts => conjunction parts

/-- The letters that may be given beside a pattern. -/
def isOption (letter : Char) : Bool :=
  letter = 'i' || letter = 's' || letter = 'm' || letter = 'x'

/-- A pattern with its option letters in front. -/
def withOptions (pattern : String) (options : Option String) : Except FilterFault String :=
  match options with
  | Option.none => .ok pattern
  | some options =>
    if options.toList = [] then .ok pattern
    else match options.toList.find? (!isOption ·) with
      | some letter => .error (.unknownOption letter)
      | Option.none => .ok ("(?" ++ options ++ ")" ++ pattern)

variable [Regex.Compiler]

/-- The condition of a pattern. -/
def ofPattern (path source : String) : Except FilterFault Condition :=
  match Regex.compile? .default source.toList with
  | some node => .ok (.likePattern path ⟨source, node⟩)
  | Option.none => .error .invalidPattern

/-- The pattern and the options among the entries of a document of operators. -/
def regexParts (pattern options : Option String) :
    List (String × Value) → Except FilterFault (Option String × Option String)
  | [] => .ok (pattern, options)
  | (key, value) :: rest =>
    if key = "$regex" then
      match value with
      | .string s => regexParts (some s) options rest
      | _ => .error .regexNotAString
    else if key = "$options" then
      match value with
      | .string s => regexParts pattern (some s) rest
      | _ => .error .optionsNotAString
    else .error (.besideRegex key)

/-- The condition of a document with a pattern. -/
def ofRegexDocument (path : String) (operators : Document) : Except FilterFault Condition := do
  let (pattern, options) ← regexParts Option.none Option.none operators
  let source ← withOptions (pattern.getD "") options
  ofPattern path source

/-- The condition of one operator on a path. -/
def ofOperator (path op : String) (value : Value) : Except FilterFault Condition :=
  match op with
  | "$eq" => .ok (.equal path value)
  | "$gt" => .ok (.compared .greater path value)
  | "$gte" => .ok (.compared .atLeast path value)
  | "$lt" => .ok (.compared .less path value)
  | "$lte" => .ok (.compared .atMost path value)
  | "$in" =>
    match value with
    | .array operands => .ok (.oneOf path operands)
    | _ => .error .inNotAnArray
  | "$exists" =>
    match value with
    | .bool expected => .ok (.present path expected)
    | _ => .error .existsNotABool
  | "$options" => .error .optionsAlone
  | op => .error (.unknownField op)

/-- The condition of a document of operators on a path. -/
def ofOperators (path : String) (operators : Document) : Except FilterFault Condition :=
  if operators.contains "$regex" then ofRegexDocument path operators
  else do
    let parts ← operators.mapM fun (op, value) => ofOperator path op value
    .ok (conjunction parts)

/-- Whether a document is one of operators: its first key decides. -/
def startsWithOperator : Document → Bool
  | (key, _) :: _ => isOperator key
  | [] => false

/-- The condition of a value at a path. -/
def ofField (path : String) (value : Value) : Except FilterFault Condition :=
  match value with
  | .document entries =>
    if startsWithOperator entries then ofOperators path entries else .ok (.equal path value)
  | _ => .ok (.equal path value)

/-- What an operator makes of the filters below it. -/
def joining? (op : String) : Option (List Condition → Condition) :=
  match op with
  | "$and" => some .all
  | "$or" => some .any
  | "$nor" => some .none
  | _ => Option.none

mutual

/-- The condition of one entry of a filter. -/
def ofEntry (key : String) : Value → Except FilterFault Condition
  | .array items =>
    match joining? key with
    | some join =>
      if items.isEmpty then throw (.emptyArray key)
      else return join (← ofBranches key items)
    | Option.none =>
      if isOperator key then throw (.unknownTopLevel key) else ofField key (.array items)
  | value =>
    match joining? key with
    | some _ => throw (.notAnArray key)
    | Option.none => if isOperator key then throw (.unknownTopLevel key) else ofField key value
termination_by structural value => value

/-- The filters of a list of documents. -/
def ofBranches (op : String) : List Value → Except FilterFault (List Condition)
  | [] => return []
  | .document entries :: rest => do
    let branch ← ofEntries entries
    let branches ← ofBranches op rest
    return conjunctionOrAlways branch :: branches
  | _ :: _ => throw (.notDocuments op)
termination_by structural items => items

/-- The conditions of the entries of a filter. -/
def ofEntries : List (String × Value) → Except FilterFault (List Condition)
  | [] => return []
  | (key, value) :: rest => do
    let part ← ofEntry key value
    let parts ← ofEntries rest
    return part :: parts
termination_by structural entries => entries

end

/-- The condition that a filter document states. -/
def ofDocument (filter : Document) : Except FilterFault Condition :=
  (ofEntries filter).map conjunctionOrAlways

end Condition

end DocTable
