/-
**Conditions on documents.**

* `Condition.holds`: whether a document meets a condition;
* `anyElement`: how a test of one value extends to arrays.
-/

import DocTable.Regex.Parser
import DocTable.Value.Order
import DocTable.Value.Path

namespace DocTable

/-- A pattern with the text it was read from. -/
structure Pattern where
  source : String
  node : Regex.Node
deriving Repr

/-- Whether some part of a text matches. -/
def Pattern.matchesIn (p : Pattern) (s : String) : Bool := p.node.matchesIn s.toList

/-- The bounds that a value is compared with. -/
inductive Comparison where
  | greater
  | atLeast
  | less
  | atMost
deriving DecidableEq, Repr

/-- Whether an order of a value and its bound is the wanted one. -/
def Comparison.accepts : Comparison → Ordering → Bool
  | .greater, order => order == .gt
  | .atLeast, order => order != .lt
  | .less, order => order == .lt
  | .atMost, order => order != .gt

/-- A condition on a document. Paths are kept as their text. -/
inductive Condition where
  /-- No condition. -/
  | always
  | all (parts : List Condition)
  | any (parts : List Condition)
  | none (parts : List Condition)
  | equal (path : String) (operand : Value)
  | compared (comparison : Comparison) (path : String) (operand : Value)
  | oneOf (path : String) (operands : List Value)
  | likePattern (path : String) (pattern : Pattern)
  | present (path : String) (expected : Bool)
deriving Repr, Inhabited

/-- Tests a value; an array passes also if one of its items does. -/
def anyElement (test : Value → Bool) : Value → Bool
  | .array items => test (.array items) || items.any test
  | v => test v

/-- Tests what a path leads to, where a missing value and null are one case. -/
def testUnlessNull (found : Option Value) (atNull : Bool) (test : Value → Bool) : Bool :=
  match found with
  | Option.none => atNull
  | some .null => atNull
  | some v => anyElement test v

/-- Tests what a path leads to; a missing value fails. -/
def testFound (found : Option Value) (test : Value → Bool) : Bool :=
  match found with
  | Option.none => false
  | some v => anyElement test v

/-- Whether a value is null. -/
def Value.isNull : Value → Bool
  | .null => true
  | _ => false

/-- Whether the comparison of a value with a bound is the wanted one. -/
def Comparison.test (c : Comparison) (operand v : Value) : Bool :=
  match v.compare? operand with
  | some order => c.accepts order
  | Option.none => false

/-- Whether a value is a text in which the pattern matches. -/
def Pattern.test (p : Pattern) : Value → Bool
  | .string s => p.matchesIn s
  | _ => false

namespace Condition

mutual

/-- Whether a document meets a condition. -/
def holds (d : Document) : Condition → Bool
  | .always => true
  | .all parts => allHold d parts
  | .any parts => anyHolds d parts
  | .none parts => !anyHolds d parts
  | .equal path operand =>
    testUnlessNull (d.lookup path) operand.isNull (·.equals operand)
  | .compared c path operand => testFound (d.lookup path) (c.test operand)
  | .oneOf path operands =>
    testUnlessNull (d.lookup path) (operands.any Value.isNull) fun v => operands.any (v.equals ·)
  | .likePattern path pattern => testFound (d.lookup path) pattern.test
  | .present path expected => (d.lookup path).isSome == expected
termination_by structural c => c

def allHold (d : Document) : List Condition → Bool
  | [] => true
  | part :: rest => holds d part && allHold d rest
termination_by structural parts => parts

def anyHolds (d : Document) : List Condition → Bool
  | [] => false
  | part :: rest => holds d part || anyHolds d rest
termination_by structural parts => parts

end

theorem allHold_eq_all (d : Document) (parts : List Condition) :
    allHold d parts = parts.all (holds d) := by
  induction parts with
  | nil => rfl
  | cons part rest ih => simp [allHold, ih]

theorem anyHolds_eq_any (d : Document) (parts : List Condition) :
    anyHolds d parts = parts.any (holds d) := by
  induction parts with
  | nil => rfl
  | cons part rest ih => simp [anyHolds, ih]

end Condition

end DocTable
