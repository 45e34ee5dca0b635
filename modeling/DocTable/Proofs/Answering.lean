/-
**When a table answers.**

A checked definition without a raw filter and a pipeline leaves little that can fail: the compiled
filter, if it cannot be read. Its paths come from the definition, so this is up to the names of the
columns that are filtered or searched and, of all that a request can say, to the search term only. A
page also takes an order: nothing is said of documents that their order leads around in a circle.

* `TableConfig.Reads`: the definitions and terms whose compiled filters can be read;
* `TableConfig.Ranks`: the documents that the order of a request can put in order;
* `rowsOf_of_readable`, `exists_fault_of_rows`: the rows of a query can be read if its filter can;
* `answer_of_refused`, `answer_of_reads`, `answer_of_not_reads`: how a request ends, case by case;
* `answer_done_or_refused`: all of it together.
-/

import DocTable.Proofs.Decoding
import DocTable.Proofs.Filtering
import DocTable.Proofs.Paging
import DocTable.Proofs.SortFields

namespace DocTable

/-! ### The rows of one query -/

/-- **Rows of a readable query**: nothing behind its filter fails. What matches is sorted by the fields of
the query, cut to its window and shown. -/
theorem rowsOf_of_readable [Regex.Compiler] {q : Query} (readable : q.Readable) :
    ∃ c, Stage.condition (compileMatch q).filter = .ok c ∧ ∀ docs, q.rowsOf docs =
      .ok ((windowOf q.offset q.limit (sortDocuments (q.sort.map SortField.key)
        (docs.filter (c.holds ·)))).map (shown q.fields)) := by
  obtain ⟨c, parsed⟩ := exists_ok_of_readable readable
  have stated : Stage.condition (compileMatch q).filter = .ok c := by
    unfold Stage.condition
    rw [parsed]
  refine ⟨c, stated, fun docs => ?_⟩
  have ranked : q.ranked docs = .ok (sortDocuments (q.sort.map SortField.key)
      (docs.filter (c.holds ·))) :=
    bind_eq_ok.mpr ⟨c, stated, arrange_compileSort q.sort _⟩
  rw [rowsOf_eq_ranked, ranked]
  rfl

/-- **A query that is not readable** has no rows: its filter is invalid. -/
theorem exists_fault_of_rows [Regex.Compiler] {q : Query} (unreadable : ¬q.Readable)
    (docs : List Document) :
    ∃ fault, q.rowsOf docs = .error (.invalidFilter fault) := by
  cases parsed : Condition.ofDocument (compileMatch q).filter with
  | ok c => exact absurd (readable_of_ok parsed) unreadable
  | error fault =>
    refine ⟨fault, ?_⟩
    unfold Query.rowsOf Stage.condition
    rw [parsed]
    rfl

/-! ### The filters of a table -/

/-- The term that a request searches for; an empty one searches for nothing. -/
def searchTerm (p : Web.Params) : String := (p.get? "search[value]").getD ""

/-- The filters of a table can be read when a term is searched for: no filtered column has the name
of an operator and, if there is a term, no searched column has one and the pattern of the term is
small enough. -/
structure TableConfig.Reads [Regex.Compiler] (c : TableConfig) (term : String) : Prop where
  filters : ∀ filter ∈ c.filters, Condition.isOperator filter.field = false
  search : term ≠ "" → ∀ field ∈ c.searchFields, Condition.isOperator field = false
  fits : term ≠ "" → c.searchFields ≠ [] → TermFits term

/-- The query of a request is readable if the filters of the table are. -/
theorem readable_iff_reads [Regex.Compiler] {c : TableConfig} {p : Web.Params} {q : Query}
    (noRaw : c.rawFilter = none) (decoded : decodeRequest p c = .ok q) :
    q.Readable ↔ c.Reads (searchTerm p) := by
  obtain ⟨offset, limit, sort, _, _, rfl⟩ := eq_of_decodeRequest decoded
  constructor
  · intro readable
    refine ⟨readable.filters, fun term field member => ?_, fun term fields => ?_⟩
    · exact readable.search ⟨term, List.ne_nil_of_mem member⟩ field member
    · exact readable.fits ⟨term, fields⟩
  · intro reads
    refine ⟨reads.filters, fun searches => reads.search searches.1,
      fun searches => reads.fits searches.1 searches.2, fun raw member => ?_⟩
    rw [show c.rawFilter = none from noRaw] at member
    cases member

/-! ### One request -/

/-- A request ranks documents if the order that it asks for is an order of them. -/
def TableConfig.Ranks (c : TableConfig) (p : Web.Params) (docs : List Document) : Prop :=
  ∀ sorts, decodeOrder p c = .ok sorts → Orders (sorts.map SortField.key) docs

/-- A page presents what a query asks for. Of the documents that match, arranged by the sort fields of
the query, it shows those in the window. -/
def GridPage.Presents [Regex.Compiler] (g : GridPage) (renderer : Renderer) (q : Query)
    (docs : List Document) : Prop :=
  ∃ c sorted, Stage.condition (compileMatch q).filter = .ok c ∧
    Arranges (q.sort.map SortField.key) (docs.filter (c.holds ·)) sorted ∧
    g.data = (windowOf q.offset q.limit sorted).map fun d =>
      renderer.render (rowCells (shown q.fields d) q.fields) q.search

/-- What a request is refused for by itself, whatever the store holds: it cannot be decoded, or its
window does not fit. -/
def TableConfig.Refuses (c : TableConfig) (p : Web.Params) (fault : InputFault) : Prop :=
  decodeRequest p c = .error fault ∨
    ∃ q, decodeRequest p c = .ok q ∧ q.validate = .error (.invalidWindow q.offset q.limit) ∧
      fault = .query (.invalidWindow q.offset q.limit)

section OneRequest

variable [Regex.Compiler] (t : Table) (s : Store) {p : Web.Params}

/-- A decoded request ends as its query does. -/
theorem answer_of_decoded {q : Query} (decoded : decodeRequest p t.config = .ok q) :
    (t.answer s.source false p).2 = (s.source.execute t.config.timeoutMillis false q).2.map
      (GridPage.ofPage t.renderer q.fields q.search) := by
  unfold Table.answer
  rw [decoded]
  rfl

theorem answer_of_refused {fault : InputFault} (refused : t.config.Refuses p fault) :
    (t.answer s.source false p).2 = .failed (.invalidInput fault) := by
  rcases refused with undecoded | ⟨q, decoded, outside, rfl⟩
  · unfold Table.answer
    rw [undecoded]
  · rw [answer_of_decoded t s decoded]
    unfold Source.execute
    rw [outside]
    rfl

omit [Regex.Compiler] in
/-- A request that is not refused by itself is decoded to a query that passes its checks: the paths
of its query have passed those of the definition. -/
theorem exists_query_of_not_refused (valid : t.config.validate = .ok ())
    (fine : ¬∃ fault, t.config.Refuses p fault) :
    ∃ q, decodeRequest p t.config = .ok q ∧ q.validate = .ok () := by
  cases decoded : decodeRequest p t.config with
  | error fault => exact absurd ⟨fault, Or.inl decoded⟩ fine
  | ok q =>
    have checked := TableConfig.checked_of_validate valid
    obtain ⟨offset, limit, sort, _, order, parts⟩ := eq_of_decodeRequest decoded
    have columns := sort_mem_fields order
    have either : q.validate = .ok () ∨ q.validate = .error (.invalidWindow q.offset q.limit) := by
      rw [parts]
      exact Query.validate_of_paths checked.collection checked.paths
        (fun sort member => checked.paths _ (columns sort member))
        (fun filter member => checked.paths _ (checked.filters filter member))
    refine ⟨q, rfl, either.resolve_right fun outside => ?_⟩
    exact fine ⟨_, Or.inr ⟨q, decoded, outside, rfl⟩⟩

omit [Regex.Compiler] in
/-- A request with a checked query is not refused by itself. -/
theorem not_refused_of_query {q : Query} (decoded : decodeRequest p t.config = .ok q)
    (checked : q.validate = .ok ()) : ¬∃ fault, t.config.Refuses p fault := by
  rintro ⟨fault, undecoded | ⟨other, again, outside, _⟩⟩
  · rw [decoded] at undecoded
    cases undecoded
  · rw [decoded] at again
    cases again
    rw [checked] at outside
    cases outside

variable (noStages : t.config.pipeline = [])

include noStages

/-- The rows of a table without a pipeline are those of its whole collection. -/
theorem rowsOf_behind_pipeline {q : Query} (decoded : decodeRequest p t.config = .ok q) :
    (runPipeline (s.documents q.table) q.pipeline).bind q.rowsOf =
      q.rowsOf (s.documents q.table) := by
  obtain ⟨offset, limit, sort, _, _, rfl⟩ := eq_of_decodeRequest decoded
  rw [show t.config.pipeline = [] from noStages]
  rfl

variable (valid : t.config.validate = .ok ()) (noRaw : t.config.rawFilter = none)
  (fine : ¬∃ fault, t.config.Refuses p fault)

include valid noRaw fine

/-- **Filters that can be read**: the table answers with a page. -/
theorem answer_of_reads (reads : t.config.Reads (searchTerm p)) :
    ∃ q page c, decodeRequest p t.config = .ok q ∧
      (t.answer s.source false p).2 = .done (.ofPage t.renderer q.fields q.search page) ∧
      Stage.condition (compileMatch q).filter = .ok c ∧
      page.rows = (windowOf q.offset q.limit (sortDocuments (q.sort.map SortField.key)
        ((s.documents q.table).filter (c.holds ·)))).map (shown q.fields) := by
  obtain ⟨q, decoded, checked⟩ := exists_query_of_not_refused t valid fine
  have readable := (readable_iff_reads noRaw decoded).mpr reads
  obtain ⟨c, stated, rows⟩ := rowsOf_of_readable readable
  have read := rows (s.documents q.table)
  rw [← rowsOf_behind_pipeline t s noStages decoded] at read
  obtain ⟨left, piped, read⟩ := bind_eq_ok.mp read
  obtain ⟨filtered, ended, _⟩ := execute_of_read s t.config.timeoutMillis q checked piped read
  refine ⟨q, ⟨_, s.size q.table, filtered⟩, c, decoded, ?_, stated, rfl⟩
  rw [answer_of_decoded t s decoded, ended]
  rfl

/-- **Documents that can be ranked**: the page presents what the request asks for. -/
theorem answer_of_ranks (reads : t.config.Reads (searchTerm p))
    (ranks : t.config.Ranks p (s.documents t.config.collection)) :
    ∃ g q, (t.answer s.source false p).2 = .done g ∧ decodeRequest p t.config = .ok q ∧
      g.Presents t.renderer q (s.documents q.table) := by
  obtain ⟨q, page, c, decoded, answered, stated, rows⟩ :=
    answer_of_reads t s noStages valid noRaw fine reads
  have orders : Orders (q.sort.map SortField.key) (s.documents q.table) := by
    obtain ⟨offset, limit, sort, _, order, rfl⟩ := eq_of_decodeRequest decoded
    exact ranks sort order
  have matching := orders.subset (List.filter_subset_self (p := c.holds) _)
  refine ⟨_, q, answered, decoded, c, _, stated, arranges_sortDocuments matching, ?_⟩
  show page.rows.map _ = _
  rw [rows]
  exact List.map_map

/-- **Filters that cannot be read**: the store refuses them. -/
theorem answer_of_not_reads (unread : ¬t.config.Reads (searchTerm p)) :
    ∃ fault, (t.answer s.source false p).2 = .failed (.store (.invalidFilter fault)) := by
  obtain ⟨q, decoded, checked⟩ := exists_query_of_not_refused t valid fine
  have unreadable := mt (readable_iff_reads noRaw decoded).mp unread
  obtain ⟨fault, failed⟩ := exists_fault_of_rows unreadable (s.documents q.table)
  rw [← rowsOf_behind_pipeline t s noStages decoded] at failed
  have ended := execute_of_error s t.config.timeoutMillis q checked (.invalidFilter fault) failed
  rw [answer_of_decoded t s decoded, ended]
  exact ⟨fault, rfl⟩

end OneRequest

/-- **A checked table answers or refuses the input.** Without a raw filter and a pipeline, a request
that is not cancelled ends with a page of what it asks for or with what is wrong with the request by
itself, over every store whose documents it can rank. The one exception are filters that cannot be read,
which the store refuses before anything is counted or sorted: a filtered or searched column with the name
of an operator, or a search term whose pattern is too large. -/
theorem answer_done_or_refused [Regex.Compiler] (t : Table) (valid : t.config.validate = .ok ())
    (noRaw : t.config.rawFilter = none) (noStages : t.config.pipeline = []) (s : Store)
    (p : Web.Params) :
    (t.config.Reads (searchTerm p) → t.config.Ranks p (s.documents t.config.collection) →
      (∃ g q, (t.answer s.source false p).2 = .done g ∧ decodeRequest p t.config = .ok q ∧
        g.Presents t.renderer q (s.documents q.table)) ∨
        ∃ fault, (t.answer s.source false p).2 = .failed (.invalidInput fault)) ∧
    (¬t.config.Reads (searchTerm p) →
      (∃ fault, (t.answer s.source false p).2 = .failed (.store (.invalidFilter fault))) ∨
        ∃ fault, (t.answer s.source false p).2 = .failed (.invalidInput fault)) ∧
    ∀ fault, (t.answer s.source false p).2 = .failed (.invalidInput fault) ↔
      t.config.Refuses p fault := by
  by_cases fine : ∃ fault, t.config.Refuses p fault
  · obtain ⟨fault, refused⟩ := fine
    have ended := answer_of_refused t s refused
    refine ⟨fun _ _ => Or.inr ⟨fault, ended⟩, fun _ => Or.inr ⟨fault, ended⟩, fun other => ?_⟩
    refine ⟨fun again => ?_, answer_of_refused t s⟩
    rw [ended] at again
    cases again
    exact refused
  · have page := answer_of_ranks t s noStages valid noRaw fine
    have invalid := answer_of_not_reads t s noStages valid noRaw fine
    refine ⟨fun reads ranks => Or.inl (page reads ranks), fun unread => Or.inl (invalid unread),
      fun fault => ⟨fun refused => ?_, fun refused => absurd ⟨fault, refused⟩ fine⟩⟩
    by_cases reads : t.config.Reads (searchTerm p)
    · obtain ⟨_, _, _, _, ended, _⟩ := answer_of_reads t s noStages valid noRaw fine reads
      rw [refused] at ended
      cases ended
    · obtain ⟨_, ended⟩ := invalid reads
      rw [refused] at ended
      cases ended

/-- Two accounts, filtered and searched on columns with plain names and in the order of their prices, and
a window that does not fit. -/
theorem answer_done_or_refused_accounts :
    let c : TableConfig :=
      { collection := "accounts", maxRows := 0
        columns := [⟨"name", none⟩, ⟨"plan.price", none⟩], searchFields := ["name"], row := []
        highlightSearch := false, filters := [⟨"plan.price", .intRange 1 50⟩], rawFilter := none
        pipeline := [], timeoutMillis := some 0 }
    let t : Table := ⟨c, .plain⟩
    let docs : List Document :=
      [[("name", .string "A+B"), ("plan", .document [("price", .int32 7)])],
        [("name", .string "Globex"), ("plan", .string "paid")]]
    let accounts : Store := ⟨[("accounts", docs)], ⟨0⟩⟩
    let p : Web.Params := ⟨[("search[value]", "a+"), ("order[0][column]", "1")]⟩
    let late : Web.Params := ⟨[("start", "18446744073709551615")]⟩
    c.validate = .ok () ∧ c.rawFilter = none ∧ c.pipeline = [] ∧ c.Reads (searchTerm p) ∧
      c.Ranks p docs ∧
      (∃ g q, (t.answer accounts.source false p).2 = .done g ∧ decodeRequest p c = .ok q ∧
        g.Presents .plain q docs) ∧
      (t.answer accounts.source false late).2 =
        .failed (.invalidInput (.query (.invalidWindow 18446744073709551615 0))) := by
  intro c t docs accounts p late
  have valid : c.validate = .ok () := rfl
  have reads : c.Reads (searchTerm p) :=
    ⟨by decide, fun _ => by decide, fun _ _ => by decide +kernel⟩
  have ranks : c.Ranks p docs := by
    intro sorts decoded
    obtain rfl : [⟨"plan.price", .asc⟩] = sorts := Except.ok.inj decoded
    refine orders_of_plain ?_
    simp only [docs, List.forall_mem_cons]
    exact ⟨List.forall_mem_singleton.mpr nofun, List.forall_mem_singleton.mpr nofun, nofun⟩
  obtain ⟨answered, _, refused⟩ := answer_done_or_refused t valid rfl rfl accounts p
  have fine : ¬∃ fault, c.Refuses p fault := not_refused_of_query t rfl rfl
  have page := (answered reads ranks).resolve_right fun ⟨fault, wrong⟩ =>
    fine ⟨fault, (refused fault).mp wrong⟩
  obtain ⟨g, q, ended, decoded, presents⟩ := page
  have table : q.table = "accounts" := by
    obtain ⟨_, _, _, _, _, rfl⟩ := eq_of_decodeRequest decoded
    rfl
  rw [table] at presents
  refine ⟨valid, rfl, rfl, reads, ranks, ⟨g, q, ended, decoded, presents⟩, ?_⟩
  exact ((answer_done_or_refused t valid rfl rfl accounts late).2.2 _).mpr
    (Or.inr ⟨_, rfl, rfl, rfl⟩)

/-- A checked table may fail on its own filters: on a filter of a column with the name of an operator,
and on a search for the letter a, two hundred thousand times. -/
theorem answer_fails_on_own_filters :
    let c : TableConfig :=
      { collection := "accounts", maxRows := 0, columns := [⟨"name", none⟩, ⟨"$plan", none⟩]
        searchFields := ["name"], row := [], highlightSearch := false, filters := []
        rawFilter := none, pipeline := [], timeoutMillis := none }
    let paid : TableConfig := { c with filters := [⟨"$plan", .string "paid"⟩] }
    let accounts : Store := ⟨[("accounts",
      [[("name", .string "Acme"), ("$plan", .string "paid")]])], ⟨0⟩⟩
    let long : Web.Params := ⟨[("search[value]", String.ofList (List.replicate 200000 'a'))]⟩
    (paid.validate = .ok () ∧ paid.rawFilter = none ∧ paid.pipeline = [] ∧
      (Table.answer ⟨paid, .plain⟩ accounts.source false ⟨[]⟩).2 =
        .failed (.store (.invalidFilter (.unknownTopLevel "$plan")))) ∧
    c.validate = .ok () ∧ c.rawFilter = none ∧ c.pipeline = [] ∧
      ∃ fault, (Table.answer ⟨c, .plain⟩ accounts.source false long).2 =
        .failed (.store (.invalidFilter fault)) := by
  intro c paid accounts long
  refine ⟨⟨rfl, rfl, rfl, rfl⟩, rfl, rfl, rfl, ?_⟩
  have fine : ¬∃ fault, c.Refuses long fault := not_refused_of_query ⟨c, .plain⟩ rfl rfl
  refine answer_of_not_reads ⟨c, .plain⟩ accounts rfl rfl rfl fine fun reads => ?_
  have letters : (searchTerm long).toList = List.replicate 200000 'a' := String.toList_ofList
  have entered : searchTerm long ≠ "" := Regex.ofList_replicate_ne_empty 'a' 199999
  have fits := reads.fits entered (List.cons_ne_nil _ _)
  unfold TermFits at fits
  rw [letters] at fits
  exact Regex.not_takes_letters fits

end DocTable
