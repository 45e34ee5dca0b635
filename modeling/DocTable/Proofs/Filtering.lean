/-
**The condition of a query.**

The filter that a query is compiled to is read back as a condition, unless one of its fields has the
name of an operator, its raw filter states nothing, or its search term is too long for a pattern. The
condition holds of the documents that meet what the query asks.

* `mem_clauses`: the clauses that a query is compiled to;
* `readable_of_ok`, `exists_ok_of_readable`: which queries have a condition;
* `holds_compileMatch_iff`: which documents it holds of;
* `compileMatch_meaning`: both together.
-/

import DocTable.Proofs.Groups
import DocTable.Proofs.Meaning
import DocTable.Proofs.Room

namespace DocTable

/-! ### The clauses of a query -/

/-- The clause of a query's search. -/
def Query.searchClauses (q : Query) : Document :=
  .single "$or" (.ofDocuments
    (q.searchFields.map (searchClause (String.ofList (Regex.escapeLiteral q.search.toList)))))

/-- The clause of a query's filters on a field. -/
def Query.fieldClauses (q : Query) (field : String) : Document :=
  orGroup ((valuesOn field q.filters).map (compileClause field))

/-- The clauses of a query: its search, one for each filtered field, its raw filter. -/
theorem mem_clauses (q : Query) (clause : Document) :
    clause ∈ q.clauses ↔
      (q.Searches ∧ clause = q.searchClauses) ∨
        (∃ filter ∈ q.filters, clause = q.fieldClauses filter.field) ∨ clause ∈ q.rawFilter := by
  have search : clause ∈ (compileSearch q.search q.searchFields).toList ↔
      q.Searches ∧ clause = q.searchClauses := by
    unfold compileSearch Query.Searches
    by_cases none : q.search = "" ∨ q.searchFields = []
    · rw [if_pos none]
      refine iff_of_false List.not_mem_nil ?_
      rintro ⟨⟨term, fields⟩, _⟩
      exact none.elim term fields
    · rw [if_neg none]
      rw [not_or] at none
      rw [and_iff_right none]
      exact List.mem_singleton
  have groups : clause ∈ (groupFilters q.filters).map
        (fun group => orGroup (group.values.map (compileClause group.field))) ↔
      ∃ filter ∈ q.filters, clause = q.fieldClauses filter.field := by
    rw [List.mem_map]
    constructor
    · rintro ⟨group, member, rfl⟩
      obtain ⟨filter, inside, same⟩ := List.mem_map.mp
        ((mem_fields_groupFilters q.filters group.field).mp (List.mem_map_of_mem member))
      refine ⟨filter, inside, ?_⟩
      rw [mem_groupFilters member, same]
      rfl
    · rintro ⟨filter, inside, rfl⟩
      obtain ⟨group, member, same⟩ := List.mem_map.mp
        ((mem_fields_groupFilters q.filters filter.field).mpr (List.mem_map_of_mem inside))
      refine ⟨group, member, ?_⟩
      rw [mem_groupFilters member, same]
      rfl
  unfold Query.clauses compileFilters
  rw [List.mem_append, List.mem_append, search, groups, Option.mem_toList, Option.mem_def]

section AnyCompiler

variable [Regex.Compiler]

/-- A filter document that states a condition admits what meets it. -/
theorem admits_iff {filter : Document} {c : Condition}
    (parsed : Condition.ofDocument filter = .ok c) (d : Document) :
    filter.Admits d ↔ c.holds d = true := by
  constructor
  · rintro ⟨other, again, holds⟩
    rw [Except.ok.inj (parsed.symm.trans again)]
    exact holds
  · exact fun holds => ⟨c, parsed, holds⟩

omit [Regex.Compiler] in
theorem valuesOn_ne_nil {q : Query} {filter : Filter} (member : filter ∈ q.filters) :
    valuesOn filter.field q.filters ≠ [] :=
  List.ne_nil_of_mem (mem_valuesOn.mpr member)

/-- The filters on a plain field ask that one of them accepts the document. -/
theorem admits_fieldClauses_iff {q : Query} {filter : Filter} (member : filter ∈ q.filters)
    (plain : Condition.isOperator filter.field = false) (d : Document) :
    (q.fieldClauses filter.field).Admits d ↔
      ∃ other ∈ q.filters, other.field = filter.field ∧ other.value.Accepts d other.field := by
  rw [show q.fieldClauses filter.field = orGroup _ from rfl,
    admits_iff (ofDocument_orGroup plain (valuesOn_ne_nil member))]
  show Condition.anyHolds d _ = true ↔ _
  rw [Condition.anyHolds_eq_any, List.any_map, List.any_eq_true]
  constructor
  · rintro ⟨value, inside, holds⟩
    exact ⟨⟨filter.field, value⟩, mem_valuesOn.mp inside, rfl,
      (holds_asCondition_iff d filter.field value).mp holds⟩
  · rintro ⟨other, inside, same, accepts⟩
    rw [same] at accepts
    refine ⟨other.value, mem_valuesOn.mpr ?_, (holds_asCondition_iff d _ _).mpr accepts⟩
    rw [← same]
    exact inside

omit [Regex.Compiler] in
/-- The condition of a search holds where the term is found. -/
theorem holds_likePattern_iff (d : Document) (path term : String) :
    (Condition.likePattern path (caselessPattern term)).holds d = true ↔
      d.Offers path (Value.ContainsTerm term) := by
  have contains (v : Value) : (caselessPattern term).test v = true ↔ v.ContainsTerm term := by
    unfold Value.ContainsTerm
    cases v with
    | string text =>
      rw [show (caselessPattern term).test (.string text) =
        (Regex.caselessNode term.toList).matchesIn text.toList from rfl,
        Regex.matchesIn_caselessNode]
      refine ⟨fun found => ⟨text, rfl, found⟩, ?_⟩
      rintro ⟨other, same, found⟩
      cases same
      exact found
    | _ =>
      refine iff_of_false Bool.false_ne_true ?_
      rintro ⟨_, same, _⟩
      cases same
  show testFound (d.lookup path) (caselessPattern term).test = true ↔ _
  rw [testFound_iff, d.offers_congr contains]

/-- The search of plain fields for a term whose pattern is small enough. -/
theorem ofDocument_searchClauses {q : Query} (searches : q.Searches)
    (plain : ∀ field ∈ q.searchFields, Condition.isOperator field = false)
    (fits : TermFits q.search) :
    Condition.ofDocument q.searchClauses =
      .ok (.any (q.searchFields.map (.likePattern · (caselessPattern q.search)))) := by
  have each : (q.searchFields.map (searchClause
        (String.ofList (Regex.escapeLiteral q.search.toList)))).mapM Condition.ofDocument =
      .ok (q.searchFields.map (.likePattern · (caselessPattern q.search))) := by
    refine mapM_map_eq_ok fun field member => ?_
    rw [ofDocument_searchClause (plain field member), if_pos fits]
  unfold Query.searchClauses
  rw [Condition.ofDocument_joined rfl (mt List.map_eq_nil_iff.mp searches.2), each]
  rfl

/-- The search of plain fields asks that one of them offers the term. -/
theorem admits_searchClauses_iff {q : Query} (searches : q.Searches)
    (plain : ∀ field ∈ q.searchFields, Condition.isOperator field = false)
    (fits : TermFits q.search) (d : Document) :
    q.searchClauses.Admits d ↔
      ∃ field ∈ q.searchFields, d.Offers field (Value.ContainsTerm q.search) := by
  rw [admits_iff (ofDocument_searchClauses searches plain fits)]
  show Condition.anyHolds d _ = true ↔ _
  rw [Condition.anyHolds_eq_any, List.any_map, List.any_eq_true]
  exact exists_congr fun field => and_congr Iff.rfl (holds_likePattern_iff d field q.search)

/-! ### A whole query -/

/-- A query whose filter can be read. -/
structure Query.Readable (q : Query) : Prop where
  filters : ∀ filter ∈ q.filters, Condition.isOperator filter.field = false
  search : q.Searches → ∀ field ∈ q.searchFields, Condition.isOperator field = false
  fits : q.Searches → TermFits q.search
  raw : ∀ raw ∈ q.rawFilter, ∃ c, Condition.ofDocument raw = .ok c

/-- Below an operator, documents that are read together are read one by one. -/
theorem exists_ok_below {op : String} {join : List Condition → Condition}
    (joins : Condition.joining? op = some join) {docs : List Document} {c : Condition}
    (parsed : Condition.ofDocument (.single op (.ofDocuments docs)) = .ok c) {doc : Document}
    (member : doc ∈ docs) : ∃ part, Condition.ofDocument doc = .ok part := by
  rw [Condition.ofDocument_joined joins (List.ne_nil_of_mem member)] at parsed
  obtain ⟨parts, mapped, _⟩ := map_eq_ok.mp parsed
  exact exists_ok_of_mapM mapped member

/-- A clause on a field that is read is on a plain field. -/
theorem plain_of_ok {field : String} {value : Value} (single : ∀ items, value ≠ .array items)
    (parsed : ∃ c, Condition.ofDocument (.single field value) = .ok c) :
    Condition.isOperator field = false := by
  obtain ⟨c, parsed⟩ := parsed
  cases operator : Condition.isOperator field with
  | false => rfl
  | true =>
    obtain ⟨fault, failed⟩ := Condition.ofDocument_operator_field operator single
    rw [failed] at parsed
    cases parsed

/-- **What is read** is readable. -/
theorem readable_of_ok {q : Query} {c : Condition}
    (parsed : Condition.ofDocument (compileMatch q).filter = .ok c) : q.Readable := by
  rw [ofDocument_compileMatch] at parsed
  obtain ⟨parts, mapped, _⟩ := map_eq_ok.mp parsed
  have each (clause : Document) (member : clause ∈ q.clauses) :
      ∃ part, Condition.ofDocument clause = .ok part := exists_ok_of_mapM mapped member
  have searched (searches : q.Searches) (field : String) (member : field ∈ q.searchFields) :
      ∃ part, Condition.ofDocument
        (searchClause (String.ofList (Regex.escapeLiteral q.search.toList)) field) = .ok part := by
    obtain ⟨part, whole⟩ := each _ ((mem_clauses q _).mpr (Or.inl ⟨searches, rfl⟩))
    exact exists_ok_below rfl whole (List.mem_map_of_mem member)
  have plain (searches : q.Searches) (field : String) (member : field ∈ q.searchFields) :
      Condition.isOperator field = false :=
    plain_of_ok (fun _ => Value.noConfusion) (searched searches field member)
  refine ⟨fun filter member => ?_, plain, fun searches => ?_, fun raw member => ?_⟩
  · obtain ⟨part, group⟩ :=
      each _ ((mem_clauses q _).mpr (Or.inr (Or.inl ⟨filter, member, rfl⟩)))
    have clauses : (valuesOn filter.field q.filters).map (compileClause filter.field) ≠ [] :=
      mt List.map_eq_nil_iff.mp (valuesOn_ne_nil member)
    unfold Query.fieldClauses orGroup at group
    rw [if_neg (mt List.isEmpty_iff.mp clauses)] at group
    exact plain_of_ok filter.value.condition_ne_array
      (exists_ok_below rfl group (List.mem_map_of_mem (mem_valuesOn.mpr member)))
  · obtain ⟨field, member⟩ := List.exists_mem_of_ne_nil q.searchFields searches.2
    obtain ⟨part, clause⟩ := searched searches field member
    rw [ofDocument_searchClause (plain searches field member)] at clause
    by_contra large
    rw [if_neg large] at clause
    cases clause
  · exact each raw ((mem_clauses q raw).mpr (Or.inr (Or.inr member)))

/-- **What is readable** is read. -/
theorem exists_ok_of_readable {q : Query} (readable : q.Readable) :
    ∃ c, Condition.ofDocument (compileMatch q).filter = .ok c := by
  have each : ∀ clause ∈ q.clauses, ∃ part, Condition.ofDocument clause = .ok part := by
    intro clause member
    rcases (mem_clauses q clause).mp member with
      ⟨searches, rfl⟩ | ⟨filter, inside, rfl⟩ | raw
    · exact ⟨_, ofDocument_searchClauses searches (readable.search searches)
        (readable.fits searches)⟩
    · exact ⟨_, ofDocument_orGroup (readable.filters filter inside) (valuesOn_ne_nil inside)⟩
    · exact readable.raw clause raw
  obtain ⟨parts, mapped⟩ := exists_mapM_ok each
  rw [ofDocument_compileMatch, mapped]
  exact ⟨_, rfl⟩

/-- Conditions that are read from clauses all hold where every clause admits the document. -/
theorem all_holds_iff {clauses : List Document} {parts : List Condition}
    (mapped : clauses.mapM Condition.ofDocument = .ok parts) (d : Document) :
    parts.all (·.holds d) = true ↔ ∀ clause ∈ clauses, clause.Admits d := by
  have pairs := mapM_eq_ok.mp mapped
  clear mapped
  induction pairs with
  | nil => exact iff_of_true rfl fun _ member => absurd member List.not_mem_nil
  | cons first _ ih =>
    rw [List.all_cons, Bool.and_eq_true, List.forall_mem_cons, admits_iff first]
    exact and_congr Iff.rfl ih

/-- **The condition of a whole query** holds of the documents that meet what the query asks. -/
theorem holds_compileMatch_iff {q : Query} {c : Condition}
    (parsed : Condition.ofDocument (compileMatch q).filter = .ok c) (d : Document) :
    c.holds d = true ↔ q.Matches d := by
  have readable := readable_of_ok parsed
  rw [ofDocument_compileMatch] at parsed
  obtain ⟨parts, mapped, rfl⟩ := map_eq_ok.mp parsed
  rw [holds_allOrAlways, all_holds_iff mapped]
  constructor
  · intro admitted
    refine ⟨fun searches => ?_, fun filter member => ?_, fun raw member => ?_⟩
    · exact (admits_searchClauses_iff searches (readable.search searches)
        (readable.fits searches) d).mp
        (admitted _ ((mem_clauses q _).mpr (Or.inl ⟨searches, rfl⟩)))
    · exact (admits_fieldClauses_iff member (readable.filters filter member) d).mp
        (admitted _ ((mem_clauses q _).mpr (Or.inr (Or.inl ⟨filter, member, rfl⟩))))
    · exact admitted raw ((mem_clauses q raw).mpr (Or.inr (Or.inr member)))
  · intro matched clause member
    rcases (mem_clauses q clause).mp member with
      ⟨searches, rfl⟩ | ⟨filter, inside, rfl⟩ | raw
    · exact (admits_searchClauses_iff searches (readable.search searches)
        (readable.fits searches) d).mpr (matched.search searches)
    · exact (admits_fieldClauses_iff inside (readable.filters filter inside) d).mpr
        (matched.filters filter inside)
    · exact matched.raw clause raw

/-- A search of plain fields for a term whose pattern is too large is refused. -/
theorem ofDocument_compileMatch_of_large {q : Query} (searches : q.Searches)
    (plain : ∀ field ∈ q.searchFields, Condition.isOperator field = false)
    (large : ¬TermFits q.search) :
    Condition.ofDocument (compileMatch q).filter = .error .invalidPattern := by
  have refused : Condition.ofDocument q.searchClauses = .error .invalidPattern := by
    obtain ⟨field, rest, fields⟩ := List.exists_cons_of_ne_nil searches.2
    have first : Condition.ofDocument
        (searchClause (String.ofList (Regex.escapeLiteral q.search.toList)) field) =
          .error .invalidPattern := by
      rw [ofDocument_searchClause (plain field (fields ▸ List.mem_cons_self)), if_neg large]
    unfold Query.searchClauses
    rw [fields, List.map_cons, Condition.ofDocument_joined rfl (List.cons_ne_nil _ _),
      mapM_cons_of_error first]
    rfl
  have front : q.clauses = q.searchClauses :: compileFilters q.filters q.rawFilter := by
    unfold Query.clauses compileSearch
    rw [if_neg (not_or.mpr searches)]
    rfl
  rw [ofDocument_compileMatch, front, mapM_cons_of_error refused]
  rfl

/-- What a query asks does not depend on the order of its filters. -/
theorem matches_congr_filters {q : Query} {others : List Filter}
    (members : ∀ filter, filter ∈ others ↔ filter ∈ q.filters) (d : Document) :
    Query.Matches { q with filters := others } d ↔ q.Matches d := by
  have filters : (∀ filter ∈ others, ∃ other ∈ others,
        other.field = filter.field ∧ other.value.Accepts d other.field) ↔
      ∀ filter ∈ q.filters, ∃ other ∈ q.filters,
        other.field = filter.field ∧ other.value.Accepts d other.field := by
    simp only [members]
  constructor
  · intro matched
    exact ⟨matched.search, filters.mp matched.filters, matched.raw⟩
  · intro matched
    exact ⟨matched.search, filters.mpr matched.filters, matched.raw⟩

/-- **The compiled filter means what the query says.** On fields that are no operators and with a raw
filter that states a condition, the filter of a query is read as a condition that holds of the
documents that meet what the query asks, in whatever order the filters stand. Only a search whose
pattern is too large is refused, as an invalid pattern. -/
theorem compileMatch_meaning (q : Query)
    (filters : ∀ filter ∈ q.filters, Condition.isOperator filter.field = false)
    (search : ∀ field ∈ q.searchFields, Condition.isOperator field = false)
    (raw : ∀ raw ∈ q.rawFilter, ∃ c, Condition.ofDocument raw = .ok c) :
    ((q.Searches → TermFits q.search) →
      ∃ c, Condition.ofDocument (compileMatch q).filter = .ok c ∧
        (∀ d, c.holds d = true ↔ q.Matches d) ∧
        ∀ others : List Filter, others.Perm q.filters →
          ∃ c', Condition.ofDocument (compileMatch { q with filters := others }).filter = .ok c' ∧
            ∀ d, c'.holds d = c.holds d) ∧
      (q.Searches ∧ ¬TermFits q.search →
        Condition.ofDocument (compileMatch q).filter = .error .invalidPattern) := by
  refine ⟨fun fits => ?_, fun ⟨searches, large⟩ =>
    ofDocument_compileMatch_of_large searches search large⟩
  have readable : q.Readable := ⟨filters, fun _ => search, fits, raw⟩
  obtain ⟨c, parsed⟩ := exists_ok_of_readable readable
  refine ⟨c, parsed, holds_compileMatch_iff parsed, fun others reordered => ?_⟩
  have members (filter : Filter) : filter ∈ others ↔ filter ∈ q.filters := reordered.mem_iff
  have again : Query.Readable { q with filters := others } :=
    ⟨fun filter member => filters filter ((members filter).mp member), fun _ => search, fits, raw⟩
  obtain ⟨c', parsed'⟩ := exists_ok_of_readable again
  refine ⟨c', parsed', fun d => ?_⟩
  rw [Bool.eq_iff_iff, holds_compileMatch_iff parsed' d, holds_compileMatch_iff parsed d]
  exact matches_congr_filters members d

end AnyCompiler

/-- People of some age, or none known, with some letters in their names. -/
theorem compileMatch_meaning_people :
    let q : Query := { (default : Query) with
      table := "people"
      filters := [⟨"age", .intRange 18 40⟩, ⟨"city", .stringSet ["Oslo"]⟩, ⟨"age", .null⟩]
      rawFilter := some (.single "active" (.bool true))
      search := "n.", searchFields := ["name", "nick.name"] }
    (∀ filter ∈ q.filters, Condition.isOperator filter.field = false) ∧
      (∀ field ∈ q.searchFields, Condition.isOperator field = false) ∧
      (∀ raw ∈ q.rawFilter, ∃ c, Condition.ofDocument raw = .ok c) ∧
      (q.Searches → TermFits q.search) ∧
      ∃ c, Condition.ofDocument (compileMatch q).filter = .ok c ∧
        ∀ d, c.holds d = true ↔ q.Matches d := by
  intro q
  have filters : ∀ filter ∈ q.filters, Condition.isOperator filter.field = false := by decide
  have search : ∀ field ∈ q.searchFields, Condition.isOperator field = false := by decide
  have raw : ∀ raw ∈ q.rawFilter, ∃ c, Condition.ofDocument raw = .ok c := by
    rintro _ ⟨⟩
    exact ⟨_, rfl⟩
  have fits : q.Searches → TermFits q.search := fun _ => by decide +kernel
  obtain ⟨c, parsed, meaning, _⟩ := (compileMatch_meaning q filters search raw).1 fits
  exact ⟨filters, search, raw, fits, c, parsed, meaning⟩

/-- A search of names for the letter a, two hundred thousand times. -/
def longSearch : Query :=
  { (default : Query) with
    table := "people", fields := ["name"], limit := 10
    search := String.ofList (List.replicate 200000 'a'), searchFields := ["name"] }

/-- A term may be too long for a pattern, so that not every filter is read. -/
theorem longSearch_refused :
    (∀ filter ∈ longSearch.filters, Condition.isOperator filter.field = false) ∧
      (∀ field ∈ longSearch.searchFields, Condition.isOperator field = false) ∧
      (∀ raw ∈ longSearch.rawFilter, ∃ c, Condition.ofDocument raw = .ok c) ∧
      ¬∃ c, Condition.ofDocument (compileMatch longSearch).filter = .ok c := by
  refine ⟨fun _ member => absurd member List.not_mem_nil, by decide, fun _ => nofun, ?_⟩
  rintro ⟨c, parsed⟩
  have letters : longSearch.search.toList = List.replicate 200000 'a' := String.toList_ofList
  have entered : longSearch.search ≠ "" := Regex.ofList_replicate_ne_empty 'a' 199999
  have fits := (readable_of_ok parsed).fits ⟨entered, List.cons_ne_nil _ _⟩
  unfold TermFits at fits
  rw [letters] at fits
  exact Regex.not_takes_letters fits

end DocTable
