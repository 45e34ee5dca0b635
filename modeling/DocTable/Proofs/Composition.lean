/-
**Filters and their parts.**

A filter is read part by part. Its parts are its entries, the filters below an operator, or the operators on
one field, each as a filter of its own. It is accepted if all its parts are, and otherwise refused for the
fault of the first part that is refused. What it asks of a document is what its parts ask, joined.

* `Document.MadeOf`: a filter that is read part by part;
* `ofDocument_eq_mapM_singles`, `ofDocument_joined`, `ofDocument_operators`: the three kinds of parts;
* `madeOf_of_read`, `admits_all_iff`, `admits_any_iff`: what holds of all of them;
* `filter_composes`: filters of any depth.
-/

import DocTable.Proofs.Document
import DocTable.Proofs.Filtering
import DocTable.Regex.Room

namespace DocTable

namespace Document

/-- A filter document that states a condition. -/
def IsFilter [Regex.Compiler] (filter : Document) : Prop := ∃ c, Condition.ofDocument filter = .ok c

/-- The entries of a document, each as a document of its own. -/
def singles (d : Document) : List Document := d.map fun entry => single entry.1 entry.2

/-- Filters below an operator. -/
def joined (op : String) (filters : List Document) : Document := single op (.ofDocuments filters)

/-- The operators of a document, each by itself on a field. -/
def conditionsOn (field : String) (operators : Document) : List Document :=
  operators.singles.map fun operator => single field (.document operator)

/-- **A filter made of parts** is accepted if all parts are, and refused for the fault of the first part
that is refused. -/
structure MadeOf [Regex.Compiler] (filter : Document) (parts : List Document) : Prop where
  accepted : filter.IsFilter ↔ ∀ part ∈ parts, part.IsFilter
  refused : ∀ fault, Condition.ofDocument filter = .error fault ↔
    ∃ front part rest, parts = front ++ part :: rest ∧
      (∀ earlier ∈ front, earlier.IsFilter) ∧ Condition.ofDocument part = .error fault

end Document

open Document

namespace Condition

/-! ### Reading part by part -/

/-- The entries of a filter are read one after the other. -/
theorem ofEntries_eq_mapM [Regex.Compiler] (entries : List (String × Value)) :
    ofEntries entries = entries.mapM fun entry => ofEntry entry.1 entry.2 := by
  induction entries with
  | nil => rfl
  | cons entry rest ih =>
    rw [List.mapM_cons, ← ih]
    rfl

/-- **A filter** is read entry by entry. -/
theorem ofDocument_eq_mapM_singles [Regex.Compiler] (filter : Document) :
    ofDocument filter = (filter.singles.mapM ofDocument).map conjunctionOrAlways := by
  have each : filter.singles.mapM ofDocument = ofEntries filter := by
    unfold singles
    rw [List.mapM_map, ofEntries_eq_mapM]
    apply mapM_congr
    intro entry _
    exact ofDocument_single entry.1 entry.2
  rw [each]
  rfl

/-- One operator on a field. -/
theorem ofDocument_operator [Regex.Compiler] {field op : String} (plain : isOperator field = false)
    (operator : isOperator op = true) (pattern : op ≠ "$regex") (value : Value) :
    ofDocument (single field (.document (single op value))) = ofOperator field op value := by
  have absent : Document.contains (single op value) "$regex" = false := by
    simp [Document.contains, Document.get?, single, pattern]
  rw [ofDocument_single_field plain]
  show (if isOperator op then ofOperators field (single op value) else _) = _
  rw [operator, if_pos rfl]
  unfold ofOperators
  rw [absent]
  show ([(op, value)].mapM fun entry => ofOperator field entry.1 entry.2).bind _ = _
  rw [List.mapM_cons]
  cases ofOperator field op value with
  | error fault => rfl
  | ok part => rfl

/-- **The operators on a field** are read one by one, if none of them is a pattern. -/
theorem ofDocument_operators [Regex.Compiler] {field : String} (plain : isOperator field = false)
    {operators : Document} (some_operator : operators ≠ [])
    (each : ∀ entry ∈ operators, isOperator entry.1 = true ∧ entry.1 ≠ "$regex") :
    ofDocument (single field (.document operators)) =
      ((operators.conditionsOn field).mapM ofDocument).map conjunction := by
  have absent : operators.contains "$regex" = false := by
    unfold Document.contains
    rw [Document.get?_eq_none_iff.mpr fun entry member => (each entry member).2]
    rfl
  have starts : startsWithOperator operators = true := by
    obtain ⟨first, rest, rfl⟩ := List.exists_cons_of_ne_nil some_operator
    exact (each first List.mem_cons_self).1
  have one : (operators.conditionsOn field).mapM ofDocument =
      operators.mapM fun entry => ofOperator field entry.1 entry.2 := by
    unfold conditionsOn singles
    rw [List.map_map, List.mapM_map]
    apply mapM_congr
    intro entry member
    obtain ⟨operator, pattern⟩ := each entry member
    exact ofDocument_operator plain operator pattern entry.2
  rw [ofDocument_single_field plain, one]
  unfold ofField
  simp only [starts, if_true]
  unfold ofOperators
  rw [absent]
  cases operators.mapM fun entry => ofOperator field entry.1 entry.2 with
  | error fault => rfl
  | ok parts => rfl

/-! ### Holding part by part -/

theorem holds_conjunction (d : Document) (parts : List Condition) :
    (conjunction parts).holds d = parts.all (·.holds d) := by
  match parts with
  | [part] => simp [conjunction]
  | [] | _ :: _ :: _ => exact allHold_eq_all d _

theorem holds_conjunctionOrAlways (d : Document) (parts : List Condition) :
    (conjunctionOrAlways parts).holds d = parts.all (·.holds d) := by
  cases parts with
  | nil => rfl
  | cons part rest => exact holds_conjunction d (part :: rest)

end Condition

/-- Conditions of which some hold where some part admits the document. -/
theorem any_holds_iff [Regex.Compiler] {parts : List Document} {conditions : List Condition}
    (mapped : parts.mapM Condition.ofDocument = .ok conditions) (d : Document) :
    conditions.any (·.holds d) = true ↔ ∃ part ∈ parts, part.Admits d := by
  have pairs := mapM_eq_ok.mp mapped
  clear mapped
  induction pairs with
  | nil => simp
  | cons first _ ih =>
    rw [List.any_cons, Bool.or_eq_true, List.exists_mem_cons_iff, admits_iff first]
    exact or_congr Iff.rfl ih

/-! ### Filters that are read part by part -/

section Parts

variable [Regex.Compiler] {filter : Document} {parts : List Document}
  {join : List Condition → Condition}
  (read : Condition.ofDocument filter = (parts.mapM Condition.ofDocument).map join)

include read

/-- **A filter that is read part by part** is made of these parts. -/
theorem madeOf_of_read : filter.MadeOf parts := by
  constructor
  · unfold IsFilter
    rw [← exists_mapM_ok_iff, read]
    cases parts.mapM Condition.ofDocument with
    | error fault => simp [Except.map]
    | ok conditions => simp [Except.map]
  · intro fault
    unfold IsFilter
    rw [← mapM_eq_error_iff, read]
    cases parts.mapM Condition.ofDocument with
    | error first => simp [Except.map]
    | ok conditions => simp [Except.map]

/-- Where all parts have to hold, all of them have to admit a document. If one of them is
refused, neither it nor the whole admits any. -/
theorem admits_all_iff {d : Document}
    (joins : ∀ conditions, (join conditions).holds d = conditions.all (·.holds d)) :
    filter.Admits d ↔ ∀ part ∈ parts, part.Admits d := by
  cases mapped : parts.mapM Condition.ofDocument with
  | ok conditions =>
    rw [mapped] at read
    rw [admits_iff read, joins, all_holds_iff mapped]
  | error fault =>
    rw [mapped] at read
    constructor
    · rintro ⟨c, accepted, _⟩
      rw [read] at accepted
      cases accepted
    · intro admitted
      obtain ⟨conditions, accepted⟩ := exists_mapM_ok fun part member =>
        (admitted part member).imp fun _ meets => meets.1
      rw [mapped] at accepted
      cases accepted

/-- Where some part has to hold, some of the accepted parts has to admit a document. -/
theorem admits_any_iff {d : Document} (accepted : ∀ part ∈ parts, part.IsFilter)
    (joins : ∀ conditions, (join conditions).holds d = conditions.any (·.holds d)) :
    filter.Admits d ↔ ∃ part ∈ parts, part.Admits d := by
  obtain ⟨conditions, mapped⟩ := exists_mapM_ok accepted
  rw [mapped] at read
  rw [admits_iff read, joins, any_holds_iff mapped]

/-- Where no part may hold, none of the accepted parts may admit a document. -/
theorem admits_none_iff {d : Document} (accepted : ∀ part ∈ parts, part.IsFilter)
    (joins : ∀ conditions, (join conditions).holds d = !conditions.any (·.holds d)) :
    filter.Admits d ↔ ∀ part ∈ parts, ¬part.Admits d := by
  obtain ⟨conditions, mapped⟩ := exists_mapM_ok accepted
  rw [mapped] at read
  rw [admits_iff read, joins, Bool.not_eq_true', Bool.eq_false_iff, Ne, any_holds_iff mapped]
  simp

end Parts

/-! ### Filters of any depth -/

/-- The filters below an operator that joins filters are its parts. -/
theorem madeOf_joined [Regex.Compiler] {op : String} {join : List Condition → Condition}
    (joins : Condition.joining? op = some join) {filters : List Document} (some_filter : filters ≠ []) :
    (joined op filters).MadeOf filters :=
  madeOf_of_read (Condition.ofDocument_joined joins some_filter)

/-- **Filters are made of their parts,** at any depth, since the parts are filters again. A filter is made
of its entries, and admits what all of them admit. An operator that joins filters makes a filter of them,
which admits what all, some or none of them admit. Operators on a field are made of the single operators,
unless one of them is a pattern, which is read together with its options. -/
theorem filter_composes [Regex.Compiler] :
    (∀ filter : Document, filter.MadeOf filter.singles ∧
      ∀ d, filter.Admits d ↔ ∀ part ∈ filter.singles, part.Admits d) ∧
    (∀ filters : List Document, filters ≠ [] →
      (∀ op ∈ ["$and", "$or", "$nor"], (joined op filters).MadeOf filters) ∧
      ((∀ filter ∈ filters, filter.IsFilter) → ∀ d,
        ((joined "$and" filters).Admits d ↔ ∀ filter ∈ filters, filter.Admits d) ∧
        ((joined "$or" filters).Admits d ↔ ∃ filter ∈ filters, filter.Admits d) ∧
        ((joined "$nor" filters).Admits d ↔ ∀ filter ∈ filters, ¬filter.Admits d))) ∧
    (∀ (field : String) (operators : Document), Condition.isOperator field = false → operators ≠ [] →
      (∀ entry ∈ operators, Condition.isOperator entry.1 = true ∧ entry.1 ≠ "$regex") →
      (single field (.document operators)).MadeOf (operators.conditionsOn field) ∧
      ∀ d, (single field (.document operators)).Admits d ↔
        ∀ part ∈ operators.conditionsOn field, part.Admits d) := by
  refine ⟨?entries, ?operators, ?field⟩
  case entries =>
    intro filter
    have read := Condition.ofDocument_eq_mapM_singles filter
    exact ⟨madeOf_of_read read, fun d => admits_all_iff read (Condition.holds_conjunctionOrAlways d)⟩
  case operators =>
    intro filters some_filter
    refine ⟨?_, ?_⟩
    · intro op listed
      simp only [List.mem_cons, List.not_mem_nil, or_false] at listed
      rcases listed with rfl | rfl | rfl
      · exact madeOf_joined rfl some_filter
      · exact madeOf_joined rfl some_filter
      · exact madeOf_joined rfl some_filter
    · intro accepted d
      have all : Condition.ofDocument (joined "$and" filters) =
          (filters.mapM Condition.ofDocument).map .all := Condition.ofDocument_joined rfl some_filter
      have any : Condition.ofDocument (joined "$or" filters) =
          (filters.mapM Condition.ofDocument).map .any := Condition.ofDocument_joined rfl some_filter
      have none : Condition.ofDocument (joined "$nor" filters) =
          (filters.mapM Condition.ofDocument).map .none := Condition.ofDocument_joined rfl some_filter
      refine ⟨?_, ?_, ?_⟩
      · exact admits_all_iff all (Condition.allHold_eq_all d)
      · exact admits_any_iff any accepted (Condition.anyHolds_eq_any d)
      · exact admits_none_iff none accepted fun conditions =>
          congrArg (!·) (Condition.anyHolds_eq_any d conditions)
  case field =>
    intro field operators plain some_operator each
    have read := Condition.ofDocument_operators plain some_operator each
    exact ⟨madeOf_of_read read, fun d => admits_all_iff read (Condition.holds_conjunction d)⟩

/-- Two names as alternatives, an age between two bounds, and a filter whose first faulty entry stands
behind a sound one. -/
theorem filter_composes_people :
    let names : List Document := [[("name", .string "Ada")], [("name", .string "Bob")]]
    let ages : Document := [("$gte", .int64 18), ("$lte", .int64 30)]
    let faulty : Document :=
      [("name", .string "Ada"), ("age", .document [("$between", .int32 1)]), ("$where", .int32 1)]
    let ada : Document := [("name", .string "Ada"), ("age", .int32 36)]
    (names ≠ [] ∧ (∀ filter ∈ names, filter.IsFilter) ∧
      (joined "$or" names).Admits ada ∧ ¬(joined "$nor" names).Admits ada) ∧
    (Condition.isOperator "age" = false ∧ ages ≠ [] ∧
      (∀ entry ∈ ages, Condition.isOperator entry.1 = true ∧ entry.1 ≠ "$regex") ∧
      ¬(single "age" (.document ages)).Admits ada) ∧
    Condition.ofDocument faulty = .error (.unknownField "$between") := by
  intro names ages faulty ada
  obtain ⟨entries, operators, field⟩ := filter_composes
  have accepted : ∀ filter ∈ names, filter.IsFilter := by
    simp only [names, List.forall_mem_cons]
    exact ⟨⟨_, rfl⟩, ⟨_, rfl⟩, fun _ member => absurd member List.not_mem_nil⟩
  have each : ∀ entry ∈ ages, Condition.isOperator entry.1 = true ∧ entry.1 ≠ "$regex" := by decide
  have found : Document.Admits [("name", .string "Ada")] ada := ⟨_, rfl, rfl⟩
  have older : ¬Document.Admits [("age", .document [("$lte", .int64 30)])] ada := by
    rw [admits_iff (c := .compared .atMost "age" (.int64 30)) rfl]
    decide +kernel
  obtain ⟨_, some_name, no_name⟩ := (operators names (by decide)).2 accepted ada
  refine ⟨⟨by decide, accepted, ?_, ?_⟩, ⟨by decide, by decide, each, ?_⟩, ?_⟩
  · exact some_name.mpr ⟨_, List.mem_cons_self, found⟩
  · exact fun none => no_name.mp none _ List.mem_cons_self found
  · intro young
    exact older (((field "age" ages (by decide) (by decide) each).2 ada).mp young _
      (List.mem_cons_of_mem _ List.mem_cons_self))
  · refine ((entries faulty).1.refused _).mpr
      ⟨[[("name", .string "Ada")]], [("age", .document [("$between", .int32 1)])], _, rfl, ?_, rfl⟩
    exact List.forall_mem_singleton.mpr ⟨_, rfl⟩

end DocTable
