/-
**What compiled filters are read as.**

A compiled filter is a conjunction of clauses, and a clause is an alternative of filters on one field,
of searches, or the raw filter. Each of these documents is read as one condition.

* `ofDocument_joined`: documents below an operator are read one by one;
* `ofDocument_compileClause`, `ofDocument_searchClause`: the clause of a filter and of a search;
* `ofDocument_operator_field`: a clause on a field with the name of an operator is refused;
* `ofDocument_compileMatch`: the filter of a query is read clause by clause.
-/

import DocTable.Condition.Parser
import DocTable.Proofs.Except
import DocTable.Proofs.Literal
import DocTable.Query.Compile

namespace DocTable

namespace Condition

variable [Regex.Compiler]

/-! ### Documents with one entry -/

/-- A document with one entry states what the entry states. -/
theorem ofDocument_single (key : String) (value : Value) :
    ofDocument (.single key value) = ofEntry key value := by
  show Except.map conjunctionOrAlways ((ofEntry key value).bind _) = _
  cases ofEntry key value with
  | error fault => rfl
  | ok condition => rfl

/-- The documents of a list are read one by one. -/
theorem ofBranches_documents (op : String) (docs : List Document) :
    ofBranches op (docs.map .document) = docs.mapM ofDocument := by
  induction docs with
  | nil => rfl
  | cons doc rest ih =>
    rw [List.map_cons, List.mapM_cons, ← ih]
    show (ofEntries doc).bind _ = Except.bind (Except.map _ (ofEntries doc)) _
    cases ofEntries doc with
    | error fault => rfl
    | ok entries => rfl

/-- **Documents below an operator** are read one by one and joined by it. -/
theorem ofDocument_joined {op : String} {join : List Condition → Condition}
    (joins : joining? op = some join) {docs : List Document} (some_doc : docs ≠ []) :
    ofDocument (.single op (.ofDocuments docs)) = (docs.mapM ofDocument).map join := by
  rw [ofDocument_single, ← ofBranches_documents op docs]
  unfold Value.ofDocuments ofEntry
  rw [joins]
  have items : (docs.map Value.document).isEmpty = false := by
    rw [List.isEmpty_map]
    exact List.isEmpty_eq_false_iff.mpr some_doc
  show (if (docs.map Value.document).isEmpty then throw (.emptyArray op)
    else (ofBranches op (docs.map .document)).bind fun parts => .ok (join parts)) = _
  rw [items]
  cases ofBranches op (docs.map .document) with
  | error fault => rfl
  | ok conditions => rfl

omit [Regex.Compiler] in
/-- A field that is no operator joins nothing. -/
theorem joining?_eq_none {field : String} (plain : isOperator field = false) :
    joining? field = Option.none := by
  unfold joining?
  split
  · cases plain
  · cases plain
  · cases plain
  · rfl

/-- A clause on a plain field is a condition on that field. -/
theorem ofDocument_single_field {field : String} (plain : isOperator field = false)
    (value : Value) : ofDocument (.single field value) = ofField field value := by
  rw [ofDocument_single]
  unfold ofEntry
  split
  · rw [joining?_eq_none plain, plain]
    rfl
  · rw [joining?_eq_none plain, plain]
    rfl

/-- **A clause on a field with the name of an operator** is refused, unless it is an array. -/
theorem ofDocument_operator_field {field : String} (operator : isOperator field = true)
    {value : Value} (single : ∀ items, value ≠ .array items) :
    ∃ fault, ofDocument (.single field value) = .error fault := by
  rw [ofDocument_single]
  unfold ofEntry
  split
  · exact absurd rfl (single _)
  · cases joining? field with
    | some join => exact ⟨_, rfl⟩
    | none =>
      rw [operator]
      exact ⟨_, rfl⟩

end Condition

/-! ### The clauses of a query -/

variable [Regex.Compiler]

/-- The condition of a filter on the field it is on. -/
def FilterValue.asCondition (path : String) : FilterValue → Condition
  | .intRange min max =>
    .all [.compared .atLeast path (.int64 min), .compared .atMost path (.int64 max)]
  | .floatRange min max =>
    .all [.compared .atLeast path (.double min), .compared .atMost path (.double max)]
  | .stringSet texts => .oneOf path (texts.map .string)
  | value => .equal path value.toValue

omit [Regex.Compiler] in
theorem FilterValue.condition_ne_array (value : FilterValue) (items : List Value) :
    value.condition ≠ .array items := by
  cases value <;> exact Value.noConfusion

/-- **The clause of a filter** on a plain field. -/
theorem ofDocument_compileClause {field : String} (plain : Condition.isOperator field = false)
    (value : FilterValue) :
    Condition.ofDocument (compileClause field value) = .ok (value.asCondition field) := by
  unfold compileClause
  rw [Condition.ofDocument_single_field plain]
  cases value <;> rfl

/-- The alternatives of the filters of a plain field. -/
theorem ofDocument_orGroup {field : String} (plain : Condition.isOperator field = false)
    {values : List FilterValue} (some_value : values ≠ []) :
    Condition.ofDocument (orGroup (values.map (compileClause field))) =
      .ok (.any (values.map (·.asCondition field))) := by
  have clauses : values.map (compileClause field) ≠ [] := mt List.map_eq_nil_iff.mp some_value
  have each : (values.map (compileClause field)).mapM Condition.ofDocument =
      .ok (values.map (·.asCondition field)) :=
    mapM_map_eq_ok fun value _ => ofDocument_compileClause plain value
  unfold orGroup
  rw [if_neg (mt List.isEmpty_iff.mp clauses), Condition.ofDocument_joined rfl clauses, each]
  rfl

/-- The pattern that a term is searched with. -/
def caselessPattern (term : String) : Pattern :=
  ⟨"(?i)" ++ String.ofList (Regex.escapeLiteral term.toList), Regex.caselessNode term.toList⟩

/-- Whether the pattern of a term is small enough for the compiler. -/
def TermFits (term : String) : Prop :=
  Regex.Compiler.takes (Regex.caselessNode term.toList) = true
deriving Decidable

/-- The pattern of a search stands behind the switch for case. -/
theorem ofField_search (field pattern : String) :
    Condition.ofField field
        (.document [("$regex", .string pattern), ("$options", .string "i")]) =
      Condition.ofPattern field ("(?i)" ++ pattern) := by
  have switch : "(?" ++ "i" ++ ")" = "(?i)" := rfl
  show Condition.ofPattern field ("(?" ++ "i" ++ ")" ++ pattern) = _
  rw [switch]

/-- **The clause of a search** on a plain field. -/
theorem ofDocument_searchClause {field : String} (plain : Condition.isOperator field = false)
    (term : String) :
    Condition.ofDocument
        (searchClause (String.ofList (Regex.escapeLiteral term.toList)) field) =
      if TermFits term then .ok (.likePattern field (caselessPattern term))
      else .error .invalidPattern := by
  have source : ("(?i)" ++ String.ofList (Regex.escapeLiteral term.toList)).toList =
      '(' :: '?' :: 'i' :: ')' :: Regex.escapeLiteral term.toList := by
    rw [String.toList_append, String.toList_ofList, String.toList_ofList]
    rfl
  unfold searchClause
  rw [Condition.ofDocument_single_field plain, ofField_search]
  unfold Condition.ofPattern
  rw [source, Regex.compile?_switch_escapeLiteral]
  by_cases fits : TermFits term
  · rw [if_pos fits, if_pos (show Regex.Compiler.takes _ = true from fits)]
    rfl
  · rw [if_neg fits, if_neg (show ¬Regex.Compiler.takes _ = true from fits)]

/-- The clauses of a query, all of which have to hold. -/
def Query.clauses (q : Query) : List Document :=
  (compileSearch q.search q.searchFields).toList ++ compileFilters q.filters q.rawFilter

omit [Regex.Compiler] in
/-- The clauses of a filter are joined, unless there are none. -/
theorem filter_compileMatch (q : Query) : (compileMatch q).filter =
    if q.clauses.isEmpty then [] else Document.single "$and" (.ofDocuments q.clauses) := rfl

/-- The conditions of all clauses as one. -/
def allOrAlways : List Condition → Condition
  | [] => .always
  | parts => .all parts

omit [Regex.Compiler] in
theorem holds_allOrAlways (d : Document) (parts : List Condition) :
    (allOrAlways parts).holds d = parts.all (·.holds d) := by
  cases parts with
  | nil => rfl
  | cons part rest => exact Condition.allHold_eq_all d (part :: rest)

/-- **The filter of a query** is read clause by clause. -/
theorem ofDocument_compileMatch (q : Query) :
    Condition.ofDocument (compileMatch q).filter =
      (q.clauses.mapM Condition.ofDocument).map allOrAlways := by
  rw [filter_compileMatch]
  by_cases none : q.clauses = []
  · rw [none]
    rfl
  · rw [if_neg (mt List.isEmpty_iff.mp none), Condition.ofDocument_joined rfl none]
    cases mapped : q.clauses.mapM Condition.ofDocument with
    | error fault => rfl
    | ok parts =>
      have some_part : parts ≠ [] := by
        rintro rfl
        exact none (List.forall₂_nil_right_iff.mp (mapM_eq_ok.mp mapped))
      cases parts with
      | nil => exact absurd rfl some_part
      | cons part rest => rfl

end DocTable
