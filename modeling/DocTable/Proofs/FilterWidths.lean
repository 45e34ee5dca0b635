/-
**Filters and the widths of integers.**

Filters and documents are widened, and the filters read, and held against the documents, as before. What a
filter does with a document may depend on widths only where it asks for equality with an operand and meets a
document or an array that differs from the operand in widths only.

* `Condition.ofDocument_widened`: a filter is read as before, with the operands widened;
* `Condition.equalities`: the operands that a condition asks to be equal, each with its path;
* `Condition.holds_widened`: a condition that meets no value of the wrong widths holds as before;
* `holds_of_widths`: filters and documents that differ in widths only.
-/

import DocTable.Proofs.Widths
import DocTable.Regex.Room

namespace DocTable

open Relation (ReflTransGen)
open Value (widenedItems widenedEntries)

namespace Condition

mutual

/-- The condition with all its operands widened. -/
def widened : Condition → Condition
  | .all parts => .all (widenedParts parts)
  | .any parts => .any (widenedParts parts)
  | .none parts => .none (widenedParts parts)
  | .equal path operand => .equal path operand.widened
  | .compared c path operand => .compared c path operand.widened
  | .oneOf path operands => .oneOf path (widenedItems operands)
  | c => c
termination_by structural c => c

def widenedParts : List Condition → List Condition
  | [] => []
  | part :: rest => widened part :: widenedParts rest
termination_by structural parts => parts

end

mutual

/-- The paths and operands of which a condition asks equality. -/
def equalities : Condition → List (String × Value)
  | .all parts => equalitiesOf parts
  | .any parts => equalitiesOf parts
  | .none parts => equalitiesOf parts
  | .equal path operand => [(path, operand)]
  | .oneOf path operands => operands.map fun operand => (path, operand)
  | _ => []
termination_by structural c => c

def equalitiesOf : List Condition → List (String × Value)
  | [] => []
  | part :: rest => equalities part ++ equalitiesOf rest
termination_by structural parts => parts

end

/-! ### Reading -/

theorem ofOperator_widened (path op : String) (v : Value) :
    ofOperator path op v.widened = (ofOperator path op v).map widened := by
  unfold ofOperator
  split
  case h_6 => cases v <;> rfl
  case h_7 => cases v <;> rfl
  all_goals rfl

theorem regexParts_widened (pattern options : Option String) (entries : List (String × Value)) :
    regexParts pattern options (widenedEntries entries) = regexParts pattern options entries := by
  induction entries generalizing pattern options with
  | nil => rfl
  | cons entry rest ih =>
    obtain ⟨key, v⟩ := entry
    unfold regexParts widenedEntries
    cases v <;> simp only [Value.widened, ih]

theorem contains_widened (d : Document) (key : String) : d.widened.contains key = d.contains key := by
  unfold Document.contains
  rw [Document.widened, Value.get?_widenedEntries, Option.isSome_map]

/-- The documents with a pattern hold no integers. -/
theorem ofRegexDocument_widened [Regex.Compiler] (path : String) (operators : Document) :
    ofRegexDocument path operators.widened = (ofRegexDocument path operators).map widened := by
  have pattern (source : String) : (ofPattern path source).map widened = ofPattern path source := by
    unfold ofPattern
    split <;> rfl
  unfold ofRegexDocument
  rw [Document.widened, regexParts_widened]
  cases regexParts Option.none Option.none operators with
  | error fault => rfl
  | ok found =>
    show (withOptions (found.1.getD "") found.2).bind (ofPattern path) =
      ((withOptions (found.1.getD "") found.2).bind (ofPattern path)).map widened
    cases withOptions (found.1.getD "") found.2 with
    | error fault => rfl
    | ok source => exact (pattern source).symm

theorem conjunction_widened (parts : List Condition) :
    conjunction (widenedParts parts) = (conjunction parts).widened := by
  match parts with
  | [] | [_] | _ :: _ :: _ => rfl

theorem conjunctionOrAlways_widened (parts : List Condition) :
    conjunctionOrAlways (widenedParts parts) = (conjunctionOrAlways parts).widened := by
  cases parts with
  | nil => rfl
  | cons part rest => exact conjunction_widened (part :: rest)

theorem mapM_ofOperator_widened (path : String) (operators : Document) :
    operators.widened.mapM (fun entry => ofOperator path entry.1 entry.2) =
      (operators.mapM fun entry => ofOperator path entry.1 entry.2).map widenedParts := by
  induction operators with
  | nil => rfl
  | cons entry rest ih =>
    obtain ⟨op, v⟩ := entry
    rw [show Document.widened ((op, v) :: rest) = (op, v.widened) :: Document.widened rest from rfl,
      List.mapM_cons, List.mapM_cons, ih, ofOperator_widened]
    cases ofOperator path op v with
    | error fault => rfl
    | ok part => cases List.mapM (fun entry => ofOperator path entry.1 entry.2) rest <;> rfl

theorem ofOperators_widened [Regex.Compiler] (path : String) (operators : Document) :
    ofOperators path operators.widened = (ofOperators path operators).map widened := by
  unfold ofOperators
  rw [contains_widened]
  split
  · exact ofRegexDocument_widened path operators
  · show (operators.widened.mapM fun entry => ofOperator path entry.1 entry.2).bind _ =
      ((operators.mapM fun entry => ofOperator path entry.1 entry.2).bind _).map widened
    rw [mapM_ofOperator_widened]
    cases operators.mapM fun entry => ofOperator path entry.1 entry.2 with
    | error fault => rfl
    | ok parts => exact congrArg Except.ok (conjunction_widened parts)

theorem ofField_widened [Regex.Compiler] (path : String) (v : Value) :
    ofField path v.widened = (ofField path v).map widened := by
  cases v
  case document entries =>
    have first : startsWithOperator (widenedEntries entries) = startsWithOperator entries := by
      cases entries <;> rfl
    unfold ofField
    simp only [Value.widened, first]
    split
    · exact ofOperators_widened path entries
    · rfl
  all_goals rfl

/-- An operator joins widened parts as it joins parts. -/
theorem widened_join {op : String} {join : List Condition → Condition} (joins : joining? op = some join)
    (parts : List Condition) : (join parts).widened = join (widenedParts parts) := by
  unfold joining? at joins
  split at joins
  all_goals
    cases joins
    try rfl

section AnyCompiler

variable [Regex.Compiler]

/-- An entry whose value is no list of filters. -/
theorem ofEntry_of_single {v : Value} (single : ∀ items, v ≠ .array items) (key : String) :
    ofEntry key v = match joining? key with
      | some _ => .error (.notAnArray key)
      | Option.none => if isOperator key then .error (.unknownTopLevel key) else ofField key v := by
  unfold ofEntry
  split
  · exact absurd rfl (single _)
  · rfl

theorem ofEntry_single_widened {v : Value} (single : ∀ items, v ≠ .array items) (key : String) :
    ofEntry key v.widened = (ofEntry key v).map widened := by
  have other : ∀ items, v.widened ≠ .array items := by
    cases v <;> simp_all [Value.widened]
  rw [ofEntry_of_single single, ofEntry_of_single other, ofField_widened]
  split
  · rfl
  · split <;> rfl

mutual

theorem ofEntry_widened (key : String) : (v : Value) →
    ofEntry key v.widened = (ofEntry key v).map widened
  | .array items => by
    show ofEntry key (.array (widenedItems items)) = _
    have empty : (widenedItems items).isEmpty = items.isEmpty := by cases items <;> rfl
    unfold ofEntry
    cases joins : joining? key with
    | none =>
      show (if isOperator key then _ else _) = Except.map _ (if isOperator key then _ else _)
      split
      · rfl
      · exact ofField_widened key (.array items)
    | some join =>
      simp only [empty]
      split
      · rfl
      · rw [ofBranches_widened key items]
        cases ofBranches key items with
        | error fault => rfl
        | ok parts => exact congrArg Except.ok (widened_join joins parts).symm
  | .null | .bool _ | .int32 _ | .int64 _ | .double _ | .string _ | .document _ | .dateTime _
  | .objectId _ | .undefined | .minKey | .maxKey | .timestamp _ _ | .regex _ _ | .symbol _ | .code _
  | .codeWithScope _ _ | .binary _ _ | .decimal128 _ | .dbPointer _ _ =>
    ofEntry_single_widened (fun _ => Value.noConfusion) key
termination_by structural v => v

theorem ofBranches_widened (op : String) : (items : List Value) →
    ofBranches op (widenedItems items) = (ofBranches op items).map widenedParts
  | [] => rfl
  | v :: rest => by
    cases v
    case document entries =>
      unfold ofBranches
      simp only [widenedItems, Value.widened, ofEntries_widened entries, ofBranches_widened op rest]
      cases ofEntries entries with
      | error fault => rfl
      | ok branch =>
        cases ofBranches op rest with
        | error fault => rfl
        | ok branches =>
          exact congrArg (fun first => Except.ok (first :: widenedParts branches))
            (conjunctionOrAlways_widened branch)
    all_goals rfl
termination_by structural items => items

theorem ofEntries_widened : (entries : List (String × Value)) →
    ofEntries (widenedEntries entries) = (ofEntries entries).map widenedParts
  | [] => rfl
  | (key, v) :: rest => by
    unfold widenedEntries ofEntries
    rw [ofEntry_widened key v, ofEntries_widened rest]
    cases ofEntry key v with
    | error fault => rfl
    | ok part => cases ofEntries rest <;> rfl
termination_by structural entries => entries

end

/-- **Reading.** A widened filter is read as the condition with widened operands, or refused for the same
fault. -/
theorem ofDocument_widened (filter : Document) :
    ofDocument filter.widened = (ofDocument filter).map widened := by
  unfold ofDocument Document.widened
  rw [ofEntries_widened]
  cases ofEntries filter with
  | error fault => rfl
  | ok parts => exact congrArg Except.ok (conjunctionOrAlways_widened parts)

end AnyCompiler

mutual

theorem equalities_widened : (c : Condition) →
    c.widened.equalities = c.equalities.map fun test => (test.1, test.2.widened)
  | .all parts | .any parts | .none parts => equalitiesOf_widened parts
  | .equal _ _ | .always | .compared _ _ _ | .likePattern _ _ | .present _ _ => rfl
  | .oneOf path operands => by
    simp [widened, equalities, Value.widenedItems_eq_map, Function.comp_def]
termination_by structural c => c

theorem equalitiesOf_widened : (parts : List Condition) →
    equalitiesOf (widenedParts parts) =
      (equalitiesOf parts).map fun test => (test.1, test.2.widened)
  | [] => rfl
  | part :: rest => by
    simp only [widenedParts, equalitiesOf, equalities_widened part, equalitiesOf_widened rest,
      List.map_append]
termination_by structural parts => parts

end

/-! ### Holding -/

/-- No value that a condition asks to be equal to an operand differs from it in widths only. -/
def SeesNoWidth (c : Condition) (d : Document) : Prop :=
  ∀ test ∈ c.equalities, ¬d.Offers test.1 (·.DiffersInWidth test.2)

end Condition

/-- Tests that agree on all items of a list. -/
theorem any_congr_on {α : Type} {items : List α} {test other : α → Bool}
    (agree : ∀ item ∈ items, test item = other item) : items.any test = items.any other := by
  rw [Bool.eq_iff_iff, List.any_eq_true, List.any_eq_true]
  apply exists_congr
  intro item
  apply and_congr_right
  intro member
  rw [agree item member]

section Tests

variable {test wide : Value → Bool}

/-- A test that sees no widths in a value and in its items. -/
theorem anyElement_widened {v : Value} (alone : wide v.widened = test v)
    (inside : ∀ items, v = .array items → ∀ item ∈ items, wide item.widened = test item) :
    anyElement wide v.widened = anyElement test v := by
  cases v
  case array items =>
    show (wide (.array (widenedItems items)) || (widenedItems items).any wide) =
      (test (.array items) || items.any test)
    rw [Value.widenedItems_eq_map, List.any_map, ← Value.widenedItems_eq_map]
    exact congrArg₂ or alone (any_congr_on (inside items rfl))
  all_goals exact alone

variable {d : Document} {path : String} (same : ¬d.Offers path fun v => wide v.widened ≠ test v)

include same

/-- A test that sees no widths in what a document offers. -/
theorem testFound_widened :
    testFound (d.widened.lookup path) wide = testFound (d.lookup path) test := by
  rw [Document.lookup_widened]
  cases found : d.lookup path with
  | none => rfl
  | some v =>
    show anyElement wide v.widened = anyElement test v
    apply anyElement_widened
    · by_contra apart
      exact same ⟨v, found, Or.inl apart⟩
    · intro items array item member
      by_contra apart
      exact same ⟨v, found, Or.inr ⟨items, array, item, member, apart⟩⟩

theorem testUnlessNull_widened (atNull : Bool) :
    testUnlessNull (d.widened.lookup path) atNull wide = testUnlessNull (d.lookup path) atNull test := by
  have tested := testFound_widened same
  rw [Document.lookup_widened] at tested ⊢
  cases found : d.lookup path with
  | none => rfl
  | some v =>
    rw [found] at tested
    cases v
    case null => rfl
    all_goals exact tested

end Tests

/-- Where membership depends on widths, one of the operands differs in widths only. -/
theorem Value.exists_differsInWidth {v : Value} {operands : List Value}
    (apart : (operands.map widened).any (v.widened.equals ·) ≠ operands.any (v.equals ·)) :
    ∃ operand ∈ operands, v.DiffersInWidth operand := by
  by_contra close
  refine apart ?_
  rw [List.any_map]
  refine any_congr_on fun operand member => ?_
  by_contra differs
  exact close ⟨operand, member, (differsInWidth_iff v operand).mpr differs⟩

namespace Condition

mutual

/-- **A condition** that meets no value of the wrong widths holds at 64 bits as it does before. -/
theorem holds_widened (d : Document) : (c : Condition) → c.SeesNoWidth d →
    c.widened.holds d.widened = c.holds d
  | .always, _ => rfl
  | .all parts, clear => allHold_widened d parts clear
  | .any parts, clear => anyHolds_widened d parts clear
  | .none parts, clear => congrArg (!·) (anyHolds_widened d parts clear)
  | .equal path operand, clear => by
    show testUnlessNull (d.widened.lookup path) operand.widened.isNull (·.equals operand.widened) =
      testUnlessNull (d.lookup path) operand.isNull (·.equals operand)
    rw [Value.isNull_widened]
    apply testUnlessNull_widened
    intro offers
    exact clear (path, operand) List.mem_cons_self (offers.mono fun v => (Value.differsInWidth_iff v operand).mpr)
  | .compared c path operand, _ => by
    apply testFound_widened
    intro offers
    obtain ⟨v, apart⟩ := offers.exists_value
    simp [Comparison.test, Value.compare?_widened] at apart
  | .oneOf path operands, clear => by
    have nulls : (widenedItems operands).any Value.isNull = operands.any Value.isNull := by
      rw [Value.widenedItems_eq_map, List.any_map]
      exact List.any_congr rfl Value.isNull_widened
    show testUnlessNull (d.widened.lookup path) ((widenedItems operands).any Value.isNull)
        (fun v => (widenedItems operands).any (v.equals ·)) =
      testUnlessNull (d.lookup path) (operands.any Value.isNull) (fun v => operands.any (v.equals ·))
    rw [nulls, Value.widenedItems_eq_map]
    apply testUnlessNull_widened
    intro offers
    obtain ⟨operand, member, differs⟩ := (d.offers_exists_iff path operands _).mp
      (offers.mono fun _ => Value.exists_differsInWidth)
    exact clear (path, operand) (List.mem_map.mpr ⟨operand, member, rfl⟩) differs
  | .likePattern path pattern, _ => by
    apply testFound_widened
    intro offers
    obtain ⟨v, apart⟩ := offers.exists_value
    cases v <;> simp [Pattern.test, Value.widened] at apart
  | .present path expected, _ => by
    show ((d.widened.lookup path).isSome == expected) = _
    rw [Document.lookup_widened, Option.isSome_map]
    rfl
termination_by structural c => c

theorem allHold_widened (d : Document) : (parts : List Condition) →
    (∀ test ∈ equalitiesOf parts, ¬d.Offers test.1 (·.DiffersInWidth test.2)) →
      allHold d.widened (widenedParts parts) = allHold d parts
  | [], _ => rfl
  | part :: rest, clear => by
    obtain ⟨first, others⟩ := List.forall_mem_append.mp clear
    exact congrArg₂ and (holds_widened d part first) (allHold_widened d rest others)
termination_by structural parts => parts

theorem anyHolds_widened (d : Document) : (parts : List Condition) →
    (∀ test ∈ equalitiesOf parts, ¬d.Offers test.1 (·.DiffersInWidth test.2)) →
      anyHolds d.widened (widenedParts parts) = anyHolds d parts
  | [], _ => rfl
  | part :: rest, clear => by
    obtain ⟨first, others⟩ := List.forall_mem_append.mp clear
    exact congrArg₂ or (holds_widened d part first) (anyHolds_widened d rest others)
termination_by structural parts => parts

end

/-- Operands without integers inside see no widths. -/
theorem seesNoWidth_of_flat {c : Condition} (flat : ∀ test ∈ c.equalities, test.2.nestsInteger = false)
    (d : Document) : c.SeesNoWidth d := by
  intro test member offers
  obtain ⟨v, differs⟩ := offers.exists_value
  exact Value.not_differsInWidth_of_flat (flat test member) differs

/-- Widening the operands puts no integers inside them. -/
theorem flat_widened {c : Condition} :
    (∀ test ∈ c.widened.equalities, test.2.nestsInteger = false) ↔
      ∀ test ∈ c.equalities, test.2.nestsInteger = false := by
  simp only [equalities_widened, List.forall_mem_map, Value.nestsInteger_widened]

end Condition

open Condition in
/-- **Widths.** Integers of 32 bits in a filter and in a document are replaced by the same integers of 64
bits, at any depth and any number of them. The filter is still accepted. It decides as before unless a test
for equality meets a document or an array that differs from its operand in widths only, before or after.
That cannot happen where no operand of such a test has integers inside a document or an array. -/
theorem holds_of_widths [Regex.Compiler] {filter other d e : Document}
    (filters : ReflTransGen Value.Widens (.document filter) (.document other))
    (documents : ReflTransGen Value.Widens (.document d) (.document e))
    {c : Condition} (read : ofDocument filter = .ok c) :
    ∃ c', ofDocument other = .ok c' ∧
      (c.SeesNoWidth d → c'.SeesNoWidth e → c.holds d = c'.holds e) ∧
      ((∀ test ∈ c.equalities, test.2.nestsInteger = false) → c.holds d = c'.holds e) := by
  have operands : filter.widened = other.widened :=
    Value.document.inj (Value.widened_eq_of_widens filters)
  have stored : d.widened = e.widened := Value.document.inj (Value.widened_eq_of_widens documents)
  have reading : (ofDocument other).map widened = .ok c.widened := by
    rw [← ofDocument_widened, ← operands, ofDocument_widened, read]
    rfl
  cases accepted : ofDocument other with
  | error fault =>
    rw [accepted] at reading
    cases reading
  | ok c' =>
    rw [accepted] at reading
    have conditions : c'.widened = c.widened := Except.ok.inj reading
    have decided (before : c.SeesNoWidth d) (after : c'.SeesNoWidth e) : c.holds d = c'.holds e := by
      calc c.holds d = c.widened.holds d.widened := (holds_widened d c before).symm
        _ = c'.widened.holds e.widened := by rw [conditions, stored]
        _ = c'.holds e := holds_widened e c' after
    refine ⟨c', rfl, decided, ?_⟩
    intro flat
    have later : ∀ test ∈ c'.equalities, test.2.nestsInteger = false := by
      rwa [← flat_widened, conditions, flat_widened]
    exact decided (seesNoWidth_of_flat flat d) (seesNoWidth_of_flat later e)

open Condition in
/-- A size of either width, at the field or in an array, is found by a filter of either width. -/
theorem holds_of_widths_sizes :
    ReflTransGen Value.Widens (.document [("size", .document [("$in", .array [.int32 5])])])
        (.document [("size", .document [("$in", .array [.int64 5])])]) ∧
      ReflTransGen Value.Widens (.document [("size", .array [.int32 4, .int32 5])])
        (.document [("size", .array [.int64 4, .int64 5])]) ∧
      ofDocument [("size", .document [("$in", .array [.int32 5])])] = .ok (.oneOf "size" [.int32 5]) ∧
      ∃ c', ofDocument [("size", .document [("$in", .array [.int64 5])])] = .ok c' ∧
        c'.holds [("size", .array [.int64 4, .int64 5])] = true := by
  have operand : Value.Widens (.document [("size", .document [("$in", .array [.int32 5])])])
      (.document [("size", .document [("$in", .array [.int64 5])])]) :=
    .entry [] [] "size" (.entry [] [] "$in" (.item [] [] (.integer 5)))
  have first : Value.Widens (.document [("size", .array [.int32 4, .int32 5])])
      (.document [("size", .array [.int64 4, .int32 5])]) :=
    .entry [] [] "size" (.item [] [.int32 5] (.integer 4))
  have second : Value.Widens (.document [("size", .array [.int64 4, .int32 5])])
      (.document [("size", .array [.int64 4, .int64 5])]) :=
    .entry [] [] "size" (.item [.int64 4] [] (.integer 5))
  have filters := ReflTransGen.single operand
  have documents := (ReflTransGen.single first).tail second
  have read : ofDocument [("size", .document [("$in", .array [.int32 5])])] =
      .ok (.oneOf "size" [.int32 5]) := rfl
  obtain ⟨c', accepted, _, flat⟩ := holds_of_widths filters documents read
  refine ⟨filters, documents, read, c', accepted, ?_⟩
  rw [← flat (by decide)]
  decide +kernel

open Condition in
/-- A place with a floor of 32 bits is found by its own filter, and no longer once its floor has 64 bits. -/
theorem place_hidden_by_width :
    ¬(∀ (filter other d e : Document) (c c' : Condition),
        ReflTransGen Value.Widens (.document filter) (.document other) →
          ReflTransGen Value.Widens (.document d) (.document e) →
            ofDocument filter = .ok c → ofDocument other = .ok c' → c.holds d = c'.holds e) ∧
      (equal "place" (.document [("floor", .int32 3)])).holds
        [("place", .document [("floor", .int32 3)])] = true ∧
      (equal "place" (.document [("floor", .int32 3)])).holds
        [("place", .document [("floor", .int64 3)])] = false := by
  have found : (equal "place" (.document [("floor", .int32 3)])).holds
      [("place", .document [("floor", .int32 3)])] = true := by decide +kernel
  have hidden : (equal "place" (.document [("floor", .int32 3)])).holds
      [("place", .document [("floor", .int64 3)])] = false := by decide +kernel
  have step : Value.Widens (.document [("place", .document [("floor", .int32 3)])])
      (.document [("place", .document [("floor", .int64 3)])]) :=
    .entry [] [] "place" (.entry [] [] "floor" (.integer 3))
  refine ⟨fun never => ?_, found, hidden⟩
  have same := never [("place", .document [("floor", .int32 3)])] _ _ _ _ _ .refl (.single step) rfl rfl
  exact Bool.true_eq_false_eq_False (found.symm.trans (same.trans hidden))

end DocTable
