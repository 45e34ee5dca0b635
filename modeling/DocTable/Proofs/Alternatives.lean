/-
**Alternatives of filters.**

A filter by a set of texts is one test of membership. Filters by one text each, as alternatives, are many
tests of equality, or a clause of its own if there are none of them. Whatever stands at the field, which
may be nothing, null, one value or an array, both ask for the same.

* `exists_alternatives`: alternatives of any filters on a field, also of none;
* `stringSet_eq_alternatives`: membership in a set of texts and equality with one of them.
-/

import DocTable.Proofs.Meaning
import DocTable.Regex.Room

namespace DocTable

/-- Nothing is a member of the empty set. -/
theorem holds_oneOf_nil (d : Document) (path : String) : (Condition.oneOf path []).holds d = false := by
  have members := holds_oneOf_iff d path []
  simp only [List.map_nil, List.not_mem_nil, false_and, exists_false] at members
  rw [Bool.eq_false_iff]
  intro holds
  obtain ⟨_, impossible⟩ := (members.mp holds).exists_value
  exact impossible

/-- **Alternatives** of filters on a plain field accept what one of them accepts. If there are none, the
clause is on the identifier, and it accepts nothing. -/
theorem exists_alternatives [Regex.Compiler] {field : String}
    (plain : Condition.isOperator field = false)
    (values : List FilterValue) :
    ∃ c, Condition.ofDocument (orGroup (values.map (compileClause field))) = .ok c ∧
      ∀ d, c.holds d = true ↔ ∃ value ∈ values, value.Accepts d field := by
  cases values with
  | nil =>
    refine ⟨.oneOf idKey [], rfl, fun d => ?_⟩
    rw [holds_oneOf_nil]
    exact iff_of_false Bool.false_ne_true fun ⟨_, member, _⟩ => absurd member List.not_mem_nil
  | cons first rest =>
    refine ⟨_, ofDocument_orGroup plain (List.cons_ne_nil first rest), fun d => ?_⟩
    show Condition.anyHolds d _ = true ↔ _
    rw [Condition.anyHolds_eq_any, List.any_map, List.any_eq_true]
    exact exists_congr fun value => and_congr Iff.rfl (holds_asCondition_iff d field value)

/-- A set of texts accepts what one of the texts accepts, though the set is searched for each item of an
array and the array for each of the texts. -/
theorem accepts_stringSet_iff (d : Document) (path : String) (texts : List String) :
    (FilterValue.stringSet texts).Accepts d path ↔
      ∃ text ∈ texts, (FilterValue.string text).Accepts d path := by
  rw [show (FilterValue.stringSet texts).Accepts d path =
    d.Offers path fun v => ∃ text ∈ texts, v = .string text from rfl, d.offers_exists_iff]
  apply exists_congr
  intro text
  apply and_congr_right
  intro _
  exact d.offers_congr (fun v => (equals_string_iff v text).symm) path

/-- **Membership in a set** of texts holds of the documents of which equality with one of the texts does.
Both clauses are read on every plain field, and no document meets those of the empty set. -/
theorem stringSet_eq_alternatives [Regex.Compiler] {field : String}
    (plain : Condition.isOperator field = false)
    (texts : List String) :
    ∃ member one,
      Condition.ofDocument (compileClause field (.stringSet texts)) = .ok member ∧
      Condition.ofDocument (orGroup (texts.map fun text => compileClause field (.string text))) =
        .ok one ∧
      (∀ d, member.holds d = one.holds d) ∧
      (texts = [] → ∀ d, member.holds d = false ∧ one.holds d = false) := by
  obtain ⟨one, read, alternatives⟩ := exists_alternatives plain (texts.map .string)
  rw [List.map_map] at read
  have same (d : Document) :
      ((FilterValue.stringSet texts).asCondition field).holds d = one.holds d := by
    rw [Bool.eq_iff_iff, holds_asCondition_iff, accepts_stringSet_iff, alternatives]
    simp only [List.mem_map, exists_exists_and_eq_and]
  refine ⟨_, one, ofDocument_compileClause plain (.stringSet texts), read, same, ?_⟩
  rintro rfl d
  have none : ((FilterValue.stringSet []).asCondition field).holds d = false := holds_oneOf_nil d field
  exact ⟨none, same d ▸ none⟩

/-- Regions, one of them given twice: both clauses find the documents with one region or several, and leave
out those with another region or none. -/
theorem stringSet_eq_alternatives_regions :
    let regions := ["eu", "us", "eu"]
    let found : List Document :=
      [[("region", .string "us")], [("region", .array [.string "asia", .string "eu"])]]
    let missed : List Document :=
      [[("region", .string "asia")], [("region", .array [])], [("region", .null)],
        [("name", .string "eu")]]
    Condition.isOperator "region" = false ∧
      ∃ member one,
        Condition.ofDocument (compileClause "region" (.stringSet regions)) = .ok member ∧
        Condition.ofDocument (orGroup (regions.map fun text => compileClause "region" (.string text))) =
          .ok one ∧
        (∀ d, member.holds d = one.holds d) ∧ (∀ d ∈ found, one.holds d = true) ∧
        ∀ d ∈ missed, one.holds d = false := by
  intro regions found missed
  have plain : Condition.isOperator "region" = false := by decide
  obtain ⟨member, one, read, other, same, _⟩ := stringSet_eq_alternatives plain regions
  have tests : .oneOf "region" [.string "eu", .string "us", .string "eu"] = member :=
    Except.ok.inj read
  refine ⟨plain, member, one, read, other, same, fun d inside => ?_, fun d inside => ?_⟩
  · rw [← same, ← tests]
    revert d
    decide +kernel
  · rw [← same, ← tests]
    revert d
    decide +kernel

end DocTable
