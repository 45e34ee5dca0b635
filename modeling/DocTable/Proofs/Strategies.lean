/-
**Two strategies, one answer.**

A query with a pipeline aggregates; a query without one finds and counts. Aggregating over a
collection is finding in what the pipeline leaves of it:

* `Query.Narrows`: whether a query filters or searches;
* `SameAnswer`: the same rows in the same order, or the same failure of the store;
* `execute_pipeline_agrees`: the agreement of the two strategies, faults included.
-/

import DocTable.Proofs.Groups
import DocTable.Proofs.Reading
import DocTable.Regex.Room

namespace DocTable

/-- A query narrows its result if it has a filter, a raw filter, or a term and fields to search for
it. -/
def Query.Narrows (q : Query) : Prop :=
  q.filters ≠ [] ∨ q.rawFilter ≠ none ∨ (q.search ≠ "" ∧ q.searchFields ≠ [])

/-- Two requests that end in the same way: with the same rows in the same order and, if it is
`counted`, the same number of matches, or with the same failure of the store. -/
inductive SameAnswer (counted : Prop) : Outcome Page → Outcome Page → Prop
  | done {first second : Page} (rows : first.rows = second.rows)
      (filtered : counted → first.filtered = second.filtered) :
      SameAnswer counted (.done first) (.done second)
  | failed (error : StoreError) :
      SameAnswer counted (.failed (.store error)) (.failed (.store error))

/-! ### What narrows a query -/

/-- The clauses of the filters are there if the filters or the raw one are. -/
theorem compileFilters_eq_nil (filters : List Filter) (raw : Option Document) :
    compileFilters filters raw = [] ↔ filters = [] ∧ raw = none := by
  unfold compileFilters
  rw [List.append_eq_nil_iff, List.map_eq_nil_iff, groupFilters_eq_nil, Option.toList_eq_nil_iff]

theorem compileSearch_isSome (term : String) (fields : List String) :
    (compileSearch term fields).isSome = true ↔ term ≠ "" ∧ fields ≠ [] := by
  unfold compileSearch
  by_cases nothing : term = "" ∨ fields = []
  · rw [if_pos nothing]
    exact ⟨fun some => by simp at some, fun both => (nothing.elim both.1 both.2).elim⟩
  · rw [if_neg nothing]
    exact ⟨fun _ => not_or.mp nothing, fun _ => rfl⟩

/-- A query counts exactly if it narrows its result. -/
theorem needsExactCount_iff (q : Query) :
    (compileMatch q).needsExactCount = true ↔ q.Narrows := by
  unfold MatchPlan.needsExactCount Query.Narrows
  show (!(compileFilters q.filters q.rawFilter).isEmpty ||
    (compileSearch q.search q.searchFields).isSome) = true ↔ _
  rw [Bool.or_eq_true, compileSearch_isSome, Bool.not_eq_true', ← Bool.not_eq_true,
    List.isEmpty_iff, compileFilters_eq_nil, Classical.not_and_iff_not_or_not, or_assoc]

/-! ### The agreement -/

/-- **The two strategies agree.** Behind a pipeline that goes through, a query has the answer that
the query without a pipeline has on any store whose collection holds what the pipeline leaves. A
pipeline that fails is the failure of the request. The counts are compared as long as the number of
documents fits 64 bits with a sign, which the length of a list in memory does. -/
theorem execute_pipeline_agrees [Regex.Compiler] (s : Store) (q : Query) (stages : List Document)
    (timeout timeout' : Option UInt64) (valid : q.validate = .ok ()) :
    (∀ left, runPipeline (s.documents q.table) stages = .ok left →
      ∀ s' : Store, s'.documents q.table = left →
        SameAnswer (q.Narrows ∧ (s.documents q.table).length < 2 ^ 63)
          (s.source.execute timeout false { q with pipeline := stages }).2
          (s'.source.execute timeout' false { q with pipeline := [] }).2) ∧
    (∀ error, runPipeline (s.documents q.table) stages = .error error →
      (s.source.execute timeout false { q with pipeline := stages }).2 =
        .failed (.store error)) := by
  constructor
  · rintro left piped s' rfl
    cases read : q.rowsOf (s'.documents q.table) with
    | error error =>
      have aggregated := execute_of_error s timeout { q with pipeline := stages } valid error
        (by rw [piped]; exact read)
      have found := execute_of_error s' timeout' { q with pipeline := [] } valid error read
      rw [aggregated, found]
      exact SameAnswer.failed error
    | ok rows =>
      obtain ⟨counted, aggregated, _, exact⟩ :=
        execute_of_rows s timeout { q with pipeline := stages } valid piped read
      obtain ⟨counted', found, _, exact'⟩ :=
        execute_of_rows s' timeout' { q with pipeline := [] } valid rfl read
      rw [aggregated, found]
      refine SameAnswer.done rfl fun ⟨narrows, small⟩ => ?_
      have narrowed := (needsExactCount_iff q).mpr narrows
      have fewer := length_runPipeline_le piped
      have one : q.matchCount (s'.documents q.table) = .ok counted :=
        exact narrowed fun _ => small
      have two : q.matchCount (s'.documents q.table) = .ok counted' :=
        exact' narrowed fun _ => Nat.lt_of_le_of_lt fewer small
      exact Except.ok.inj (one.symm.trans two)
  · intro error failed
    exact execute_of_error s timeout { q with pipeline := stages } valid error
      (by rw [failed]; rfl)

/-- The years of people as their age, and a page of those whose age is in a range: the pipeline and
the filter both leave a document out. -/
theorem execute_pipeline_agrees_people :
    let people : Store := ⟨[("people",
      [[("name", .string "c"), ("years", .int32 30)], [("name", .string "a"), ("years", .int32 17)],
        [("name", .string "b")]])], ⟨0⟩⟩
    let aged : Store := ⟨[("people",
      [[("name", .string "c"), ("years", .int32 30), ("age", .int32 30)],
        [("name", .string "a"), ("years", .int32 17), ("age", .int32 17)]])], ⟨0⟩⟩
    let stages : List Document :=
      [.single "$match" (.document [("years", .document [("$exists", .bool true)])]),
        .single "$addFields" (.document [("age", .string "$years")])]
    let q : Query := { (default : Query) with
      table := "people", fields := ["name", "age"], filters := [⟨"age", .intRange 18 40⟩]
      sort := [⟨"name", .desc⟩], limit := 1 }
    q.validate = .ok () ∧ q.Narrows ∧ (people.documents q.table).length < 2 ^ 63 ∧
      runPipeline (people.documents q.table) stages = .ok (aged.documents q.table) ∧
      SameAnswer (q.Narrows ∧ (people.documents q.table).length < 2 ^ 63)
        (people.source.execute none false { q with pipeline := stages }).2
        (aged.source.execute none false { q with pipeline := [] }).2 := by
  intro people aged stages q
  have valid : q.validate = .ok () := rfl
  have narrows : q.Narrows := Or.inl (List.cons_ne_nil _ _)
  have small : (people.documents q.table).length < 2 ^ 63 := by decide
  have ran : runPipeline (people.documents q.table) stages = .ok (aged.documents q.table) := rfl
  exact ⟨valid, narrows, small, ran,
    (execute_pipeline_agrees people q stages none none valid).1 _ ran aged rfl⟩

end DocTable
