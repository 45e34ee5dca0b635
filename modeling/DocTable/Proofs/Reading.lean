/-
**What a checked query reads from a store.**

Both kinds of plan come down to the same reading: the pipeline leaves some documents (all of them if
there is none), and the query selects, sorts, cuts and projects those.

* `Query.rowsOf`, `Query.matchCount`: the reading and the number of matches, without a plan;
* `rows_explain`: the rows of a plan are the reading behind the pipeline;
* `execute_of_rows`, `execute_of_error`: how a request to a store ends;
* `serves_of_execute`: what stands behind a page.
-/

import DocTable.Proofs.Pipeline
import DocTable.Table.Page

namespace DocTable

namespace Query

/-- The rows that a query makes of the documents that its pipeline leaves. -/
def rowsOf [Regex.Compiler] (q : Query) (docs : List Document) :
    Except StoreError (List Document) := do
  let c ← Stage.condition (compileMatch q).filter
  let sorted ← Store.arrange (compileSort q.sort) (docs.filter (c.holds ·))
  (Store.cut q.offset (some q.limit) sorted).mapM (project · (planProjection q.fields))

/-- The number of those documents that match. -/
def matchCount [Regex.Compiler] (q : Query) (docs : List Document) : Except StoreError Nat :=
  (Stage.condition (compileMatch q).filter).map fun c => (docs.filter (c.holds ·)).length

/-- A query passes its checks if it has a table, sound paths and a window that fits 64 bits with a
sign. -/
theorem validate_eq_ok {q : Query} :
    q.validate = .ok () ↔
      q.table ≠ "" ∧ q.fields.find? (!isValidPath ·) = none ∧
        q.sort.find? (!isValidPath ·.field) = none ∧
        q.filters.find? (!isValidPath ·.field) = none ∧
        q.offset ≤ largestWindow ∧ q.limit ≤ largestWindow := by
  unfold validate
  by_cases table : q.table = ""
  · simp [table]
  · cases fields : q.fields.find? (!isValidPath ·) with
    | some field => simp [table]
    | none =>
      cases sort : q.sort.find? (!isValidPath ·.field) with
      | some sort => simp [table]
      | none =>
        cases filters : q.filters.find? (!isValidPath ·.field) with
        | some filter => simp [table]
        | none => simp [table]

/-- The page window of a checked query fits its stages. -/
theorem window_of_validate {q : Query} (valid : q.validate = .ok ()) :
    q.offset ≤ largestWindow ∧ q.limit ≤ largestWindow :=
  (validate_eq_ok.mp valid).2.2.2.2

/-- A checked query passes its checks with any other window that fits. -/
theorem validate_window {q : Query} (valid : q.validate = .ok ()) {offset limit : UInt64}
    (offsetFits : offset ≤ largestWindow) (limitFits : limit ≤ largestWindow) :
    Query.validate { q with offset, limit } = .ok () := by
  obtain ⟨table, fields, sort, filters, _⟩ := validate_eq_ok.mp valid
  exact validate_eq_ok.mpr ⟨table, fields, sort, filters, offsetFits, limitFits⟩

end Query

/-! ### The rows -/

/-- Zero is no limit, like a missing one. -/
theorem cut_zero (skip : UInt64) (limit : UInt64) (docs : List Document) :
    Store.cut skip (if limit = 0 then none else some limit) docs =
      Store.cut skip (some limit) docs := by
  by_cases unbounded : limit = 0
  · simp only [Store.cut, if_pos unbounded]
  · rw [if_neg unbounded]

/-- Arranging keeps every document. -/
theorem arrange_perm {sort : Option Document} {docs sorted : List Document}
    (arranged : Store.arrange sort docs = .ok sorted) : sorted.Perm docs := by
  cases sort with
  | none =>
    cases arranged
    exact .refl docs
  | some spec =>
    obtain ⟨keys, _, arranged⟩ := bind_eq_ok.mp arranged
    cases arranged
    exact sortDocuments_perm keys docs

section AnyCompiler

variable [Regex.Compiler]

/-- The stages in front of the window: the pipeline, then the selection. -/
theorem runPipeline_matchStages (q : Query) (matched : MatchPlan) (docs : List Document) :
    runPipeline docs (matchStages q matched) = (runPipeline docs q.pipeline).bind fun left =>
      (Stage.condition matched.filter).map fun c => left.filter (c.holds ·) := by
  unfold matchStages
  rw [runPipeline_append]
  congr 1
  funext left
  rw [runPipeline_single, Stage.run_match]

/-- The stages from the sort on do what a find does behind its selection. -/
theorem runPipeline_pageStages {q : Query} (valid : q.validate = .ok ()) (docs : List Document) :
    runPipeline docs (pageStages q) =
      (Store.arrange (compileSort q.sort) docs).bind fun sorted =>
        (Store.cut q.offset (some q.limit) sorted).mapM (project · (planProjection q.fields)) := by
  obtain ⟨offsetFits, limitFits⟩ := Query.window_of_validate valid
  have sorts : runPipeline docs
      ((compileSort q.sort).toList.map fun spec => .single "$sort" (.document spec)) =
      Store.arrange (compileSort q.sort) docs := by
    cases compileSort q.sort with
    | none => rfl
    | some spec =>
      show runPipeline docs [.single "$sort" (.document spec)] = _
      rw [runPipeline_single, Stage.run_sort]
      rfl
  have limits : ∀ left : List Document,
      runPipeline left (if q.limit = 0 then [] else [.single "$limit" (windowValue q.limit)]) =
        .ok (if q.limit = 0 then left else left.take q.limit.toNat) := by
    intro left
    by_cases unbounded : q.limit = 0
    · rw [if_pos unbounded, if_pos unbounded]
      rfl
    · rw [if_neg unbounded, if_neg unbounded, runPipeline_single,
        Stage.run_limit limitFits unbounded]
  unfold pageStages
  rw [runPipeline_append, runPipeline_append, runPipeline_append, sorts]
  cases Store.arrange (compileSort q.sort) docs with
  | error fault => rfl
  | ok sorted =>
    show (((runPipeline sorted [.single "$skip" (windowValue q.offset)]).bind _).bind _) = _
    rw [runPipeline_single, Stage.run_skip offsetFits]
    show ((runPipeline (sorted.drop q.offset.toNat) _).bind _) = _
    rw [limits]
    show runPipeline _ [.single "$project" (.document (planProjection q.fields))] = _
    rw [runPipeline_single, Stage.run_project]
    rfl

/-- **The rows of a plan**, whichever of the two it is: what the query makes of the documents that
its pipeline leaves. -/
theorem rows_explain (s : Store) {q : Query} (valid : q.validate = .ok ()) :
    s.source.rows q.table (explain q).strategy =
      .ofExcept ((runPipeline (s.documents q.table) q.pipeline).bind q.rowsOf) := by
  unfold explain
  by_cases piped : q.usesPipeline
  · rw [if_pos piped]
    show Reply.ofExcept (runPipeline (s.documents q.table)
      (matchStages q (compileMatch q) ++ pageStages q)) = _
    rw [runPipeline_append, runPipeline_matchStages]
    congr 1
    cases runPipeline (s.documents q.table) q.pipeline with
    | error fault => rfl
    | ok left =>
      show ((Stage.condition (compileMatch q).filter).map _).bind _ = q.rowsOf left
      unfold Query.rowsOf
      cases Stage.condition (compileMatch q).filter with
      | error fault => rfl
      | ok c => exact runPipeline_pageStages valid _
  · have empty : q.pipeline = [] := by
      simpa [Query.usesPipeline] using piped
    rw [if_neg piped, empty]
    show Reply.ofExcept (s.find q.table _ _) = Reply.ofExcept (q.rowsOf (s.documents q.table))
    congr 1
    unfold Store.find Store.selected Query.rowsOf
    simp only [cut_zero]
    cases Stage.condition (compileMatch q).filter <;> rfl

/-! ### The count -/

end AnyCompiler

/-- What a counting pipeline gives is read back as the number of documents that it counted. -/
theorem countOfStage_count (docs : List Document) (small : docs.length < 2 ^ 63) :
    countOfStage (List.head?
      (if docs.isEmpty then [] else [[(countKey, .int64 (Int64.ofNat docs.length))]])) =
      docs.length := by
  by_cases empty : docs.isEmpty
  · rw [if_pos empty, List.isEmpty_iff.mp empty]
    rfl
  · rw [if_neg empty]
    show (Int64.ofNat docs.length).toInt.toNat = docs.length
    rw [Int64.toInt_ofNat_of_lt small, Int.toNat_natCast]

/-- What a counting pipeline gives is never read back as more documents than it counted, not even
where the number outgrows 64 bits with a sign. -/
theorem countOfStage_count_le (docs : List Document) :
    countOfStage (List.head?
      (if docs.isEmpty then [] else [[(countKey, .int64 (Int64.ofNat docs.length))]])) ≤
      docs.length := by
  by_cases empty : docs.isEmpty
  · rw [if_pos empty]
    exact Nat.zero_le _
  · rw [if_neg empty]
    show (Int64.ofNat docs.length).toInt.toNat ≤ docs.length
    rw [Int64.toInt_ofNat', Int.toNat_le, Int.bmod_def, ← Int.natCast_emod]
    have wrapped := Nat.mod_le docs.length Int64.size
    split <;> omega

/-- The exact count that a query plans if something narrows its result. -/
def Query.countPlan (q : Query) : CountPlan :=
  if q.usesPipeline then
    .pipeline (matchStages q (compileMatch q) ++ [.single "$count" (.string countKey)])
  else .documents (compileMatch q).filter

theorem count_explain (q : Query) :
    (explain q).count =
      if (compileMatch q).needsExactCount then some q.countPlan else none := by
  unfold explain Query.countPlan
  by_cases piped : q.usesPipeline
  · rw [if_pos piped, if_pos piped]
    rfl
  · rw [if_neg piped, if_neg piped]
    rfl

/-- **The exact count of a plan**, whichever of the two it is, once the rows have gone through: the
number of matches among the documents that the pipeline leaves. A query with a pipeline also counts
by one, which writes its number into 64 bits with a sign; no list in memory outgrows them. -/
theorem exactCount_countPlan [Regex.Compiler] (s : Store) {q : Query} {left : List Document}
    {c : Condition}
    (piped : runPipeline (s.documents q.table) q.pipeline = .ok left)
    (stated : Stage.condition (compileMatch q).filter = .ok c) :
    ∃ n, s.source.exactCount q.table q.countPlan = .answered n ∧
      n ≤ (left.filter (c.holds ·)).length ∧
      ((q.usesPipeline = true → (s.documents q.table).length < 2 ^ 63) →
        n = (left.filter (c.holds ·)).length) := by
  unfold Query.countPlan
  by_cases usesPipeline : q.usesPipeline
  · have ran : runPipeline (s.documents q.table)
        (matchStages q (compileMatch q) ++ [.single "$count" (.string countKey)]) =
        .ok (if (left.filter (c.holds ·)).isEmpty then [] else
          [[(countKey, .int64 (Int64.ofNat (left.filter (c.holds ·)).length))]]) := by
      rw [runPipeline_append, runPipeline_matchStages, piped, stated]
      exact (runPipeline_single _ _).trans (Stage.run_count _)
    rw [if_pos usesPipeline]
    refine ⟨_, ?_, countOfStage_count_le (left.filter (c.holds ·)),
      fun small => countOfStage_count (left.filter (c.holds ·)) ?_⟩
    · show (Reply.ofExcept (runPipeline _ _)).map _ = _
      rw [ran]
      rfl
    · have fewer := length_runPipeline_le piped
      have matching := List.length_filter_le (c.holds ·) left
      have room := small usesPipeline
      omega
  · have empty : q.pipeline = [] := by
      simpa [Query.usesPipeline] using usesPipeline
    rw [empty] at piped
    cases piped
    rw [if_neg usesPipeline]
    refine ⟨((s.documents q.table).filter (c.holds ·)).length, ?_, Nat.le_refl _, fun _ => rfl⟩
    show Reply.ofExcept ((s.selected q.table (compileMatch q).filter).map List.length) = _
    unfold Store.selected
    rw [stated]
    rfl

section Counted

variable [Regex.Compiler] {s : Store} {q : Query} {left rows : List Document} {n : Nat}
  (piped : runPipeline (s.documents q.table) q.pipeline = .ok left)
  (read : q.rowsOf left = .ok rows)
  (counted : s.source.exactCount q.table q.countPlan = .answered n)

include piped read counted

/-- An exact count is the number of matches. -/
theorem matchCount_of_exactCount
    (small : q.usesPipeline = true → (s.documents q.table).length < 2 ^ 63) :
    q.matchCount left = .ok n := by
  obtain ⟨c, stated, _⟩ := bind_eq_ok.mp read
  obtain ⟨number, answered, _, all⟩ := exactCount_countPlan s piped stated
  have same : n = number := Reply.answered.inj (counted.symm.trans answered)
  rw [same, all small]
  unfold Query.matchCount
  rw [stated]
  rfl

/-- An exact count is no more than the collection has. -/
theorem exactCount_le : n ≤ (s.documents q.table).length := by
  obtain ⟨c, stated, _⟩ := bind_eq_ok.mp read
  obtain ⟨number, answered, few, _⟩ := exactCount_countPlan s piped stated
  have same : n = number := Reply.answered.inj (counted.symm.trans answered)
  calc n ≤ (left.filter (c.holds ·)).length := by rw [same]; exact few
    _ ≤ left.length := List.length_filter_le _ left
    _ ≤ (s.documents q.table).length := length_runPipeline_le piped

end Counted

/-! ### The whole request -/

/-- A plan reads the collection of its query. -/
theorem collection_explain (q : Query) : (explain q).collection = q.table := by
  unfold explain
  split <;> rfl

variable [Regex.Compiler]

/-- **A request whose rows cannot be read** fails with the fault of the store. -/
theorem execute_of_error (s : Store) (timeoutMillis : Option UInt64) (q : Query)
    (valid : q.validate = .ok ()) (error : StoreError)
    (failed : (runPipeline (s.documents q.table) q.pipeline).bind q.rowsOf = .error error) :
    (s.source.execute timeoutMillis false q).2 = .failed (.store error) := by
  have rows := rows_explain s valid
  rw [failed] at rows
  unfold Source.execute Source.run
  rw [valid, collection_explain, rows]
  rfl

/-- **A request whose rows can be read** ends with a page of them, beside the size of the collection
and what the exact count answers, if there is one. -/
theorem execute_of_read (s : Store) (timeoutMillis : Option UInt64) (q : Query)
    (valid : q.validate = .ok ()) {left rows : List Document}
    (piped : runPipeline (s.documents q.table) q.pipeline = .ok left)
    (read : q.rowsOf left = .ok rows) :
    ∃ filtered, (s.source.execute timeoutMillis false q).2 =
        .done ⟨rows, s.size q.table, filtered⟩ ∧
      ((compileMatch q).needsExactCount = false → filtered = s.size q.table) ∧
      ((compileMatch q).needsExactCount = true →
        s.source.exactCount q.table q.countPlan = .answered filtered) := by
  obtain ⟨c, stated, _⟩ := bind_eq_ok.mp read
  have answered : s.source.rows q.table (explain q).strategy = .answered rows := by
    rw [rows_explain s valid, piped]
    show Reply.ofExcept (q.rowsOf left) = _
    rw [read]
    rfl
  unfold Source.execute Source.run
  rw [valid, collection_explain, answered, count_explain]
  by_cases narrowed : (compileMatch q).needsExactCount
  · obtain ⟨n, counted, _⟩ := exactCount_countPlan s piped stated
    rw [if_pos narrowed]
    refine ⟨n, ?_, fun not => absurd narrowed (by rw [not]; exact Bool.false_ne_true),
      fun _ => counted⟩
    simp only [counted]
    rfl
  · rw [if_neg narrowed]
    exact ⟨s.size q.table, rfl, fun _ => rfl, fun yes => absurd yes narrowed⟩

/-- The exact count of a page is the number of matches. -/
theorem execute_of_rows (s : Store) (timeoutMillis : Option UInt64) (q : Query)
    (valid : q.validate = .ok ()) {left rows : List Document}
    (piped : runPipeline (s.documents q.table) q.pipeline = .ok left)
    (read : q.rowsOf left = .ok rows) :
    ∃ filtered, (s.source.execute timeoutMillis false q).2 =
        .done ⟨rows, s.size q.table, filtered⟩ ∧
      ((compileMatch q).needsExactCount = false → filtered = s.size q.table) ∧
      ((compileMatch q).needsExactCount = true →
        (q.usesPipeline = true → (s.documents q.table).length < 2 ^ 63) →
        q.matchCount left = .ok filtered) := by
  obtain ⟨filtered, ended, all, exact⟩ := execute_of_read s timeoutMillis q valid piped read
  exact ⟨filtered, ended, all,
    fun narrowed small => matchCount_of_exactCount piped read (exact narrowed) small⟩

/-- What stands behind a page of a query: a pipeline that left some documents, the rows that could be
read of them, the size of the collection, and what the exact count answered, if there was one. -/
structure Store.Serves (s : Store) (q : Query) (left : List Document) (page : Page) : Prop where
  piped : runPipeline (s.documents q.table) q.pipeline = .ok left
  read : q.rowsOf left = .ok page.rows
  total : page.total = s.size q.table
  all : (compileMatch q).needsExactCount = false → page.filtered = s.size q.table
  exact : (compileMatch q).needsExactCount = true →
    s.source.exactCount q.table q.countPlan = .answered page.filtered

/-- **A page** is one of a checked query that was not cancelled. -/
theorem serves_of_execute {s : Store} {timeoutMillis : Option UInt64} {cancelled : Bool} {q : Query}
    {page : Page} (ended : (s.source.execute timeoutMillis cancelled q).2 = .done page) :
    cancelled = false ∧ q.validate = .ok () ∧ ∃ left, s.Serves q left page := by
  cases valid : q.validate with
  | error fault =>
    unfold Source.execute at ended
    rw [valid] at ended
    cases ended
  | ok _ =>
    cases cancelled with
    | true =>
      unfold Source.execute at ended
      rw [valid] at ended
      cases ended
    | false =>
      refine ⟨rfl, rfl, ?_⟩
      cases read : (runPipeline (s.documents q.table) q.pipeline).bind q.rowsOf with
      | error error =>
        rw [execute_of_error s timeoutMillis q valid error read] at ended
        cases ended
      | ok rows =>
        obtain ⟨left, piped, read⟩ := bind_eq_ok.mp read
        obtain ⟨filtered, page_eq, all, exact⟩ := execute_of_read s timeoutMillis q valid piped read
        rw [page_eq] at ended
        cases ended
        exact ⟨left, { piped, read, total := rfl, all, exact }⟩

end DocTable
