/-
**Pages of one result.**

A query's window cuts the rows that the query has without a window, and touches nothing else: not
what matches, not its order, not the counts and no failure.

* `Query.whole`: the query with its whole result on one page;
* `rowsOf_eq_window`: the rows of a query are a window of its whole result;
* `execute_eq_window`: and so is its page;
* `execute_paging`: the windows at the multiples of a page size make up the whole result.
-/

import DocTable.Proofs.Projection
import DocTable.Proofs.Reading
import DocTable.Regex.Room

namespace DocTable

namespace Query

/-- The query with its whole result on one page. -/
def whole (q : Query) : Query := { q with offset := 0, limit := 0 }

/-- The query for one of the pages of a size, numbered from zero. -/
def page (q : Query) (size : UInt64) (number : Nat) : Query :=
  { q with offset := UInt64.ofNat (number * size.toNat), limit := size }

/-- The documents that match a query, in its order. -/
def ranked [Regex.Compiler] (q : Query) (docs : List Document) :
    Except StoreError (List Document) := do
  let c ← Stage.condition (compileMatch q).filter
  Store.arrange (compileSort q.sort) (docs.filter (c.holds ·))

end Query

/-- The rows behind `offset` ones, at most `limit` of them; zero is no limit. -/
def windowOf (offset limit : UInt64) (rows : List Document) : List Document :=
  if limit = 0 then rows.drop offset.toNat else (rows.drop offset.toNat).take limit.toNat

/-- A page cut to a window. The counts on it stay. -/
def Page.window (offset limit : UInt64) (page : Page) : Page :=
  { page with rows := windowOf offset limit page.rows }

/-- The rows of a request that ended with a page. -/
def Outcome.rows : Outcome Page → List Document
  | .done page => page.rows
  | _ => []

/-! ### Windows -/

theorem map_windowOf (f : Document → Document) (offset limit : UInt64) (docs : List Document) :
    (windowOf offset limit docs).map f = windowOf offset limit (docs.map f) := by
  unfold windowOf
  split
  · rw [List.map_drop]
  · rw [List.map_take, List.map_drop]

theorem mem_of_mem_windowOf {offset limit : UInt64} {rows : List Document} {row : Document}
    (member : row ∈ windowOf offset limit rows) : row ∈ rows := by
  unfold windowOf at member
  split at member
  · exact List.mem_of_mem_drop member
  · exact List.mem_of_mem_drop (List.mem_of_mem_take member)

/-- Windows of one size that follow each other make up the front of the list. -/
theorem flatMap_windows {α : Type} (rows : List α) (size count : Nat) :
    (List.range count).flatMap (fun number => (rows.drop (number * size)).take size) =
      rows.take (count * size) := by
  induction count with
  | zero => rw [Nat.zero_mul, List.take_zero]; rfl
  | succ count ih =>
    rw [List.range_succ, List.flatMap_append, ih, List.flatMap_singleton, ← List.take_add,
      Nat.succ_mul]

/-! ### The rows -/

section AnyCompiler

variable [Regex.Compiler]

/-- The rows of a query are those that rank inside its window, as they are shown. -/
theorem rowsOf_eq_ranked (q : Query) (docs : List Document) :
    q.rowsOf docs = (q.ranked docs).map fun sorted =>
      (windowOf q.offset q.limit sorted).map (shown q.fields) := by
  have shows (list : List Document) : list.mapM (project · (planProjection q.fields)) =
      .ok (list.map (shown q.fields)) :=
    mapM_eq_ok_map fun d _ => project_planProjection q.fields d
  unfold Query.rowsOf Query.ranked
  cases Stage.condition (compileMatch q).filter with
  | error fault => rfl
  | ok c =>
    show (Store.arrange _ _).bind _ = Except.map _ (Store.arrange _ _)
    cases Store.arrange (compileSort q.sort) (docs.filter (c.holds ·)) with
    | error fault => rfl
    | ok sorted => exact shows _

/-- Every row of a query is the row of a document. -/
theorem exists_of_mem_rowsOf {q : Query} {docs rows : List Document} (read : q.rowsOf docs = .ok rows)
    {row : Document} (member : row ∈ rows) : ∃ d ∈ docs, shown q.fields d = row := by
  rw [rowsOf_eq_ranked] at read
  obtain ⟨sorted, ranked, rfl⟩ := map_eq_ok.mp read
  obtain ⟨c, _, arranged⟩ := bind_eq_ok.mp ranked
  obtain ⟨d, inside, shows⟩ := List.mem_map.mp member
  have matching : d ∈ docs.filter (c.holds ·) :=
    (arrange_perm arranged).mem_iff.mp (mem_of_mem_windowOf inside)
  exact ⟨d, (List.mem_filter.mp matching).1, shows⟩

/-- **The rows of a query** are a window of its whole result, and fail with it. -/
theorem rowsOf_eq_window (q : Query) (docs : List Document) :
    q.rowsOf docs = (q.whole.rowsOf docs).map (windowOf q.offset q.limit) := by
  rw [rowsOf_eq_ranked q, rowsOf_eq_ranked q.whole]
  show _ = Except.map _ ((q.ranked docs).map fun sorted => sorted.map (shown q.fields))
  cases q.ranked docs with
  | error fault => rfl
  | ok sorted => exact congrArg Except.ok (map_windowOf (shown q.fields) q.offset q.limit sorted)

/-! ### The page -/

omit [Regex.Compiler] in
theorem validate_whole {q : Query} (valid : q.validate = .ok ()) : q.whole.validate = .ok () :=
  Query.validate_window valid (Nat.zero_le _) (Nat.zero_le _)

/-- **The page of a query** is a window of its whole result: the rows are cut and the counts are the
same, and a request fails exactly as the one for the whole result. -/
theorem execute_eq_window (s : Store) (timeoutMillis : Option UInt64) (cancelled : Bool) {q : Query}
    (valid : q.validate = .ok ()) :
    (s.source.execute timeoutMillis cancelled q).2 =
      (s.source.execute timeoutMillis cancelled q.whole).2.map (Page.window q.offset q.limit) := by
  have validWhole := validate_whole valid
  cases cancelled with
  | true =>
    unfold Source.execute
    rw [valid, validWhole]
    rfl
  | false =>
    cases piped : runPipeline (s.documents q.table) q.pipeline with
    | error error =>
      rw [execute_of_error s timeoutMillis q valid error (by rw [piped]; rfl),
        execute_of_error s timeoutMillis q.whole validWhole error
          (show (runPipeline (s.documents q.table) q.pipeline).bind _ = _ by rw [piped]; rfl)]
      rfl
    | ok left =>
      have window := rowsOf_eq_window q left
      cases read : q.whole.rowsOf left with
      | error error =>
        rw [read] at window
        rw [execute_of_error s timeoutMillis q valid error (by rw [piped]; exact window),
          execute_of_error s timeoutMillis q.whole validWhole error
            (show (runPipeline (s.documents q.table) q.pipeline).bind _ = _ by
              rw [piped]; exact read)]
        rfl
      | ok rows =>
        rw [read] at window
        obtain ⟨filtered, ended, all, exact⟩ :=
          execute_of_read s timeoutMillis q valid piped window
        obtain ⟨filtered', ended', all', exact'⟩ :=
          execute_of_read s timeoutMillis q.whole validWhole piped read
        have counts : filtered = filtered' := by
          cases narrowed : (compileMatch q).needsExactCount with
          | false => rw [all narrowed, all' narrowed]; rfl
          | true => exact Reply.answered.inj ((exact narrowed).symm.trans (exact' narrowed))
        rw [ended, ended', counts]
        rfl

/-! ### All pages -/

/-- The page of a number, where its offset fits. -/
theorem execute_page (s : Store) (timeoutMillis : Option UInt64) (cancelled : Bool) {q : Query}
    (valid : q.validate = .ok ()) {whole : Page}
    (ended : (s.source.execute timeoutMillis cancelled q.whole).2 = .done whole) {size : UInt64}
    (positive : 0 < size) (fits : size ≤ Query.largestWindow) {number : Nat}
    (reached : number * size.toNat ≤ Query.largestWindow.toNat) :
    (s.source.execute timeoutMillis cancelled (q.page size number)).2 =
      .done { whole with rows := (whole.rows.drop (number * size.toNat)).take size.toNat } := by
  have offset : (q.page size number).offset.toNat = number * size.toNat :=
    UInt64.toNat_ofNat_of_lt' (Nat.lt_of_le_of_lt reached (UInt64.toNat_lt _))
  have offsetFits : (q.page size number).offset ≤ Query.largestWindow := by
    rw [UInt64.le_iff_toNat_le, offset]
    exact reached
  have validPage : (q.page size number).validate = .ok () :=
    Query.validate_window valid offsetFits fits
  rw [execute_eq_window s timeoutMillis cancelled validPage]
  show (s.source.execute timeoutMillis cancelled q.whole).2.map (Page.window _ size) = _
  rw [ended]
  show Outcome.done { whole with rows := windowOf _ size whole.rows } = _
  rw [windowOf, if_neg (UInt64.pos_iff_ne_zero.mp positive), offset]

/-- Pages whose offsets fit make up the front of the whole result. -/
theorem flatMap_pages (s : Store) (timeoutMillis : Option UInt64) (cancelled : Bool) {q : Query}
    (valid : q.validate = .ok ()) {whole : Page}
    (ended : (s.source.execute timeoutMillis cancelled q.whole).2 = .done whole) {size : UInt64}
    (positive : 0 < size) (fits : size ≤ Query.largestWindow) {count : Nat}
    (reached : ∀ number < count, number * size.toNat ≤ Query.largestWindow.toNat) :
    (List.range count).flatMap (fun number =>
        (s.source.execute timeoutMillis cancelled (q.page size number)).2.rows) =
      whole.rows.take (count * size.toNat) := by
  rw [← flatMap_windows]
  refine List.flatMap_congr fun number member => ?_
  rw [execute_page s timeoutMillis cancelled valid ended positive fits
    (reached number (List.mem_range.mp member))]
  rfl

omit [Regex.Compiler] in
/-- As many pages as a list needs begin inside of it. -/
theorem exists_count {size : Nat} (positive : 0 < size) (length : Nat) :
    ∃ count, length ≤ count * size ∧ ∀ number < count, number * size < length := by
  induction length with
  | zero => exact ⟨0, Nat.zero_le _, fun number small => absurd small (Nat.not_lt_zero number)⟩
  | succ length ih =>
    obtain ⟨count, covers, inside⟩ := ih
    by_cases enough : length + 1 ≤ count * size
    · exact ⟨count, enough, fun number small => Nat.lt_succ_of_lt (inside number small)⟩
    · refine ⟨count + 1, ?_, fun number small => ?_⟩
      · rw [Nat.succ_mul]
        omega
      · rcases Nat.lt_succ_iff_lt_or_eq.mp small with before | rfl
        · exact Nat.lt_succ_of_lt (inside number before)
        · omega

/-- **Paging loses and duplicates nothing.** A checked query ends as the query for its whole result
does: with the same failure, or with the same counts and the window of its rows. Pages of one size
therefore make up the whole result, in its order, as far as their offsets fit; they fit up to the end
of any result whose length fits 64 bits with a sign, which the length of a list in memory does. -/
theorem execute_paging (s : Store) (timeoutMillis : Option UInt64) (cancelled : Bool) (q : Query)
    (valid : q.validate = .ok ()) :
    (s.source.execute timeoutMillis cancelled q).2 =
        (s.source.execute timeoutMillis cancelled q.whole).2.map (Page.window q.offset q.limit) ∧
      ∀ whole, (s.source.execute timeoutMillis cancelled q.whole).2 = .done whole →
        ∀ size : UInt64, 0 < size → size ≤ Query.largestWindow →
          (∀ count, (∀ number < count, number * size.toNat ≤ Query.largestWindow.toNat) →
            (List.range count).flatMap (fun number =>
                (s.source.execute timeoutMillis cancelled (q.page size number)).2.rows) =
              whole.rows.take (count * size.toNat)) ∧
          (whole.rows.length < 2 ^ 63 → ∃ count,
            (∀ number < count, number * size.toNat ≤ Query.largestWindow.toNat) ∧
            (List.range count).flatMap (fun number =>
                (s.source.execute timeoutMillis cancelled (q.page size number)).2.rows) =
              whole.rows) := by
  refine ⟨execute_eq_window s timeoutMillis cancelled valid, fun whole ended size positive fits => ?_⟩
  have pages (count : Nat)
      (reached : ∀ number < count, number * size.toNat ≤ Query.largestWindow.toNat) :=
    flatMap_pages s timeoutMillis cancelled valid ended positive fits reached
  refine ⟨pages, fun small => ?_⟩
  obtain ⟨count, covers, inside⟩ := exists_count (UInt64.lt_iff_toNat_lt.mp positive)
    whole.rows.length
  have reached (number : Nat) (before : number < count) :
      number * size.toNat ≤ Query.largestWindow.toNat := by
    have offset := inside number before
    show _ ≤ 2 ^ 63 - 1
    omega
  refine ⟨count, reached, ?_⟩
  rw [pages count reached, List.take_of_length_le covers]

end AnyCompiler

/-- Three people by age behind a pipeline: the second of them by itself, and all of them on pages of
two. -/
theorem execute_paging_people :
    let people : Store := ⟨[("people",
      [[("name", .string "c"), ("age", .int32 30)], [("name", .string "a"), ("age", .int32 17)],
        [("name", .string "b"), ("age", .int32 30)], [("age", .int32 50)]])], ⟨0⟩⟩
    let q : Query := { (default : Query) with
      table := "people", fields := ["name"], sort := [⟨"age", .desc⟩], offset := 1, limit := 1
      pipeline := [.single "$match" (.document [("name", .document [("$exists", .bool true)])])] }
    let whole : Page :=
      ⟨[[("name", .string "c")], [("name", .string "b")], [("name", .string "a")]], 4, 4⟩
    q.validate = .ok () ∧ (people.source.execute none false q.whole).2 = .done whole ∧
      (people.source.execute none false q).2 = .done { whole with rows := [[("name", .string "b")]] } ∧
      (List.range 2).flatMap
        (fun number => (people.source.execute none false (q.page 2 number)).2.rows) = whole.rows := by
  intro people q whole
  have valid : q.validate = .ok () := rfl
  have ended : (people.source.execute none false q.whole).2 = .done whole := rfl
  have paging := execute_paging people none false q valid
  have window := paging.1
  rw [ended] at window
  have pages := (paging.2 whole ended 2 (by decide) (by decide)).1 2 (by decide)
  exact ⟨valid, ended, window, pages⟩

end DocTable
