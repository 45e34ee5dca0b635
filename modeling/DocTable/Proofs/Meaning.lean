/-
**What filters and queries ask of a document.**

A filter accepts a document by what stands at its path: by the value itself or, where that is an array,
by one of its items. A query asks that its search finds the term, that some filter on every filtered
field accepts the document, and that its raw filter holds.

* `Document.Offers`: a wanted value at a path;
* `FilterValue.Accepts`, `Query.Matches`: what filters and queries ask of a document;
* `holds_asCondition_iff`: the condition of one filter.
-/

import DocTable.Proofs.ParsedFilter

namespace DocTable

/-! ### What a query asks of a document -/

/-- The value at a path is wanted, or it is an array with an item that is. -/
def Document.Offers (d : Document) (path : String) (wanted : Value → Prop) : Prop :=
  ∃ v, d.lookup path = some v ∧
    (wanted v ∨ ∃ items, v = .array items ∧ ∃ item ∈ items, wanted item)

/-- A value that can be compared with a bound and is not below it. -/
def Value.AtLeast (v bound : Value) : Prop :=
  ∃ order, v.compare? bound = some order ∧ order ≠ .lt

/-- A value that can be compared with a bound and is not above it. -/
def Value.AtMost (v bound : Value) : Prop :=
  ∃ order, v.compare? bound = some order ∧ order ≠ .gt

/-- Whether a filter on a path accepts a document. The bounds of a range may be met by different
items of an array. -/
def FilterValue.Accepts (d : Document) (path : String) : FilterValue → Prop
  | .null => d.lookup path = none ∨ d.Offers path (· = .null)
  | .intRange min max =>
    d.Offers path (·.AtLeast (.int64 min)) ∧ d.Offers path (·.AtMost (.int64 max))
  | .floatRange min max =>
    d.Offers path (·.AtLeast (.double min)) ∧ d.Offers path (·.AtMost (.double max))
  | .stringSet texts => d.Offers path fun v => ∃ text ∈ texts, v = .string text
  | scalar => d.Offers path (·.equals scalar.toValue = true)

/-- A filter document that states a condition, and the condition holds. -/
def Document.Admits [Regex.Compiler] (filter d : Document) : Prop :=
  ∃ c, Condition.ofDocument filter = .ok c ∧ c.holds d = true

/-- A text value that contains a term up to case. -/
def Value.ContainsTerm (term : String) (v : Value) : Prop :=
  ∃ text, v = .string text ∧ Regex.ContainsUpToCase text.toList term.toList

namespace Query

/-- A term and fields to search for it. -/
def Searches (q : Query) : Prop := q.search ≠ "" ∧ q.searchFields ≠ []

/-- What a query asks of a document. -/
structure Matches [Regex.Compiler] (q : Query) (d : Document) : Prop where
  search : q.Searches → ∃ field ∈ q.searchFields, d.Offers field (Value.ContainsTerm q.search)
  filters : ∀ filter ∈ q.filters,
    ∃ other ∈ q.filters, other.field = filter.field ∧ other.value.Accepts d other.field
  raw : ∀ raw ∈ q.rawFilter, raw.Admits d

end Query

/-! ### Values at a path -/

theorem anyElement_iff (test : Value → Bool) (v : Value) :
    anyElement test v = true ↔
      test v = true ∨ ∃ items, v = .array items ∧ ∃ item ∈ items, test item = true := by
  unfold anyElement
  split
  · rename_i items
    rw [Bool.or_eq_true, List.any_eq_true]
    refine or_congr Iff.rfl ⟨fun found => ⟨items, rfl, found⟩, ?_⟩
    rintro ⟨others, same, found⟩
    cases same
    exact found
  · rename_i single
    refine ⟨Or.inl, ?_⟩
    rintro (passed | ⟨items, same, _⟩)
    · exact passed
    · exact absurd same (single items)

theorem testFound_iff (d : Document) (path : String) (test : Value → Bool) :
    testFound (d.lookup path) test = true ↔ d.Offers path (test · = true) := by
  unfold testFound Document.Offers
  cases d.lookup path with
  | none =>
    constructor
    · intro passed
      cases passed
    · rintro ⟨_, found, _⟩
      cases found
  | some v =>
    rw [anyElement_iff]
    refine ⟨fun passed => ⟨v, rfl, passed⟩, ?_⟩
    rintro ⟨other, same, passed⟩
    cases same
    exact passed

/-- A test that null fails does not see that null and a missing value are one case. -/
theorem testUnlessNull_false {test : Value → Bool} (fails : test .null = false)
    (found : Option Value) : testUnlessNull found false test = testFound found test := by
  unfold testUnlessNull testFound
  split
  · rfl
  · exact fails.symm
  · rfl

theorem equals_null_iff (v : Value) : v.equals .null = true ↔ v = .null := by
  cases v <;> simp [Value.equals, Value.toInt?, Value.toDouble?, Value.same]

theorem equals_string_iff (v : Value) (text : String) :
    v.equals (.string text) = true ↔ v = .string text := by
  cases v <;> simp [Value.equals, Value.toInt?, Value.toDouble?, Value.same]

theorem test_atLeast_iff (bound v : Value) :
    Comparison.atLeast.test bound v = true ↔ v.AtLeast bound := by
  unfold Comparison.test Value.AtLeast
  cases v.compare? bound with
  | none => simp
  | some order => simp [Comparison.accepts]

theorem test_atMost_iff (bound v : Value) :
    Comparison.atMost.test bound v = true ↔ v.AtMost bound := by
  unfold Comparison.test Value.AtMost
  cases v.compare? bound with
  | none => simp
  | some order => simp [Comparison.accepts]

/-- What holds of the same values is offered by the same documents. -/
theorem Document.offers_congr {first second : Value → Prop} (same : ∀ v, first v ↔ second v)
    (d : Document) (path : String) : d.Offers path first ↔ d.Offers path second := by
  rw [show first = second from funext fun v => propext (same v)]

/-- A document that offers something offers all that this is a case of. -/
theorem Document.Offers.mono {d : Document} {path : String} {first second : Value → Prop}
    (offers : d.Offers path first) (implies : ∀ v, first v → second v) : d.Offers path second := by
  obtain ⟨v, found, alone | ⟨items, array, item, member, inside⟩⟩ := offers
  · exact ⟨v, found, Or.inl (implies v alone)⟩
  · exact ⟨v, found, Or.inr ⟨items, array, item, member, implies item inside⟩⟩

/-- What is offered is a value. -/
theorem Document.Offers.exists_value {d : Document} {path : String} {wanted : Value → Prop}
    (offers : d.Offers path wanted) : ∃ v, wanted v := by
  obtain ⟨v, _, alone | ⟨_, _, item, _, inside⟩⟩ := offers
  · exact ⟨v, alone⟩
  · exact ⟨item, inside⟩

/-- One of several values is offered if a value is offered that is one of them. -/
theorem Document.offers_exists_iff {α : Type} (d : Document) (path : String) (choices : List α)
    (wanted : α → Value → Prop) :
    d.Offers path (fun v => ∃ choice ∈ choices, wanted choice v) ↔
      ∃ choice ∈ choices, d.Offers path (wanted choice) := by
  constructor
  · rintro ⟨v, found, ⟨choice, listed, alone⟩ | ⟨items, array, item, member, choice, listed, inside⟩⟩
    · exact ⟨choice, listed, v, found, Or.inl alone⟩
    · exact ⟨choice, listed, v, found, Or.inr ⟨items, array, item, member, inside⟩⟩
  · rintro ⟨choice, listed, offers⟩
    exact offers.mono fun v meets => ⟨choice, listed, meets⟩

/-- One of two values is offered if a value is offered that is one of them. -/
theorem Document.offers_or (d : Document) (path : String) (first second : Value → Prop) :
    d.Offers path (fun v => first v ∨ second v) ↔ d.Offers path first ∨ d.Offers path second := by
  constructor
  · rintro ⟨v, found, (one | two) | ⟨items, array, item, member, one | two⟩⟩
    · exact Or.inl ⟨v, found, Or.inl one⟩
    · exact Or.inr ⟨v, found, Or.inl two⟩
    · exact Or.inl ⟨v, found, Or.inr ⟨items, array, item, member, one⟩⟩
    · exact Or.inr ⟨v, found, Or.inr ⟨items, array, item, member, two⟩⟩
  · rintro (offers | offers)
    · exact offers.mono fun _ => Or.inl
    · exact offers.mono fun _ => Or.inr

/-! ### The condition of one filter -/

/-- Equality with a value that is not null. -/
theorem holds_equal_iff (d : Document) (path : String) {operand : Value}
    (apart : Value.null.equals operand = false) (some_value : operand.isNull = false) :
    (Condition.equal path operand).holds d = true ↔ d.Offers path (·.equals operand = true) := by
  show testUnlessNull (d.lookup path) operand.isNull (·.equals operand) = true ↔ _
  rw [some_value, testUnlessNull_false apart, testFound_iff]

/-- Equality with null. -/
theorem holds_equal_null_iff (d : Document) (path : String) :
    (Condition.equal path .null).holds d = true ↔
      d.lookup path = none ∨ d.Offers path (· = .null) := by
  show testUnlessNull (d.lookup path) true (·.equals .null) = true ↔ _
  rw [← d.offers_congr equals_null_iff path, ← testFound_iff]
  cases d.lookup path with
  | none => exact iff_of_true rfl (Or.inl rfl)
  | some v =>
    rw [or_iff_right (Option.some_ne_none v)]
    cases v with
    | null => exact iff_of_true rfl rfl
    | _ => exact Iff.rfl

/-- Both bounds of a range. -/
theorem holds_range_iff (d : Document) (path : String) (min max : Value) :
    (Condition.all [.compared .atLeast path min, .compared .atMost path max]).holds d = true ↔
      d.Offers path (·.AtLeast min) ∧ d.Offers path (·.AtMost max) := by
  show (testFound (d.lookup path) (Comparison.atLeast.test min) &&
    (testFound (d.lookup path) (Comparison.atMost.test max) && true)) = true ↔ _
  rw [Bool.and_true, Bool.and_eq_true, testFound_iff, testFound_iff,
    d.offers_congr (test_atLeast_iff min), d.offers_congr (test_atMost_iff max)]

/-- Membership in a set of texts. -/
theorem holds_oneOf_iff (d : Document) (path : String) (texts : List String) :
    (Condition.oneOf path (texts.map .string)).holds d = true ↔
      d.Offers path fun v => ∃ text ∈ texts, v = .string text := by
  have noNull : (texts.map Value.string).any Value.isNull = false := by
    rw [List.any_map, List.any_eq_false]
    exact fun text _ => Bool.false_ne_true
  have apart : ((texts.map Value.string).any fun operand => Value.null.equals operand) = false := by
    rw [List.any_map, List.any_eq_false]
    exact fun text _ => Bool.false_ne_true
  have member (v : Value) : (texts.map Value.string).any (v.equals ·) = true ↔
      ∃ text ∈ texts, v = .string text := by
    rw [List.any_map, List.any_eq_true]
    refine exists_congr fun text => and_congr Iff.rfl ?_
    exact equals_string_iff v text
  show testUnlessNull (d.lookup path) ((texts.map Value.string).any Value.isNull)
    (fun v => (texts.map Value.string).any (v.equals ·)) = true ↔ _
  rw [noNull, testUnlessNull_false apart, testFound_iff, d.offers_congr member]

/-- **The condition of one filter** holds of the documents that the filter accepts. -/
theorem holds_asCondition_iff (d : Document) (path : String) (value : FilterValue) :
    (value.asCondition path).holds d = true ↔ value.Accepts d path := by
  cases value with
  | string s => exact holds_equal_iff d path rfl rfl
  | int n => exact holds_equal_iff d path rfl rfl
  | float x => exact holds_equal_iff d path rfl rfl
  | bool b => exact holds_equal_iff d path rfl rfl
  | intRange min max => exact holds_range_iff d path (.int64 min) (.int64 max)
  | floatRange min max => exact holds_range_iff d path (.double min) (.double max)
  | stringSet texts => exact holds_oneOf_iff d path texts
  | null => exact holds_equal_null_iff d path

end DocTable
