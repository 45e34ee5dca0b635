/-
**The counts beside the rows.**

A page shows how many documents match, and that is the length of the whole result if the query
narrows it or its pipeline drops no document. A query that does not narrow what its pipeline leaves
has the size of the collection in its place.

* `matchCount_of_rowsOf`: the rows of a query are as many of the matches as its window holds;
* `matchCount_of_unnarrowed`: where nothing narrows, everything matches;
* `filtered_eq_length_rows`: the count against the whole result.
-/

import DocTable.Proofs.Paging
import DocTable.Proofs.Strategies
import DocTable.Regex.Room

namespace DocTable

/-! ### The number of matches -/

theorem length_windowOf (offset limit : UInt64) (docs : List Document) :
    (windowOf offset limit docs).length =
      if limit = 0 then docs.length - offset.toNat
      else min limit.toNat (docs.length - offset.toNat) := by
  unfold windowOf
  split
  · rw [List.length_drop]
  · rw [List.length_take, List.length_drop]

section AnyCompiler

variable [Regex.Compiler]

/-- **The rows of a query** are as many of the matches as its window holds. -/
theorem matchCount_of_rowsOf {q : Query} {docs rows : List Document}
    (read : q.rowsOf docs = .ok rows) :
    ∃ n, q.matchCount docs = .ok n ∧
      rows.length = if q.limit = 0 then n - q.offset.toNat
        else min q.limit.toNat (n - q.offset.toNat) := by
  rw [rowsOf_eq_ranked] at read
  obtain ⟨sorted, ranked, rfl⟩ := map_eq_ok.mp read
  obtain ⟨c, stated, arranged⟩ := bind_eq_ok.mp ranked
  refine ⟨sorted.length, ?_, ?_⟩
  · unfold Query.matchCount
    rw [stated, (arrange_perm arranged).length_eq]
    rfl
  · rw [List.length_map, length_windowOf]

/-- The whole result of a query has a row for each match. -/
theorem matchCount_of_whole {q : Query} {docs rows : List Document}
    (read : q.whole.rowsOf docs = .ok rows) : q.matchCount docs = .ok rows.length := by
  obtain ⟨n, counted, length⟩ := matchCount_of_rowsOf read
  rw [length]
  exact counted

theorem matchCount_le {q : Query} {docs : List Document} {n : Nat}
    (counted : q.matchCount docs = .ok n) : n ≤ docs.length := by
  obtain ⟨c, _, rfl⟩ := map_eq_ok.mp counted
  exact List.length_filter_le _ docs

/-! ### Queries that do not narrow -/

omit [Regex.Compiler] in
/-- A query that does not narrow its result has an empty filter. -/
theorem filter_of_unnarrowed {q : Query} (unnarrowed : (compileMatch q).needsExactCount = false) :
    (compileMatch q).filter = [] := by
  have both : (!(compileFilters q.filters q.rawFilter).isEmpty ||
      (compileSearch q.search q.searchFields).isSome) = false := unnarrowed
  rw [Bool.or_eq_false_iff, Bool.not_eq_false', List.isEmpty_iff, Option.isSome_eq_false_iff,
    Option.isNone_iff_eq_none] at both
  unfold compileMatch
  rw [both.1, both.2]
  rfl

/-- **Where nothing narrows**, everything matches. -/
theorem matchCount_of_unnarrowed {q : Query}
    (unnarrowed : (compileMatch q).needsExactCount = false) (docs : List Document) :
    q.matchCount docs = .ok docs.length := by
  unfold Query.matchCount
  rw [filter_of_unnarrowed unnarrowed]
  exact congrArg (fun docs => Except.ok (List.length docs)) (List.filter_true docs)

/-! ### The count of a page -/

/-- **The count of a page** is the length of the whole result, if the query narrows it or its
pipeline, should it have one, drops no document. A query that does not narrow its result shows the
size of the collection, however many documents its pipeline leaves. A pipeline counts into 64 bits
with a sign, which no list in memory outgrows. -/
theorem filtered_eq_length_rows (s : Store) (timeoutMillis : Option UInt64) (cancelled : Bool)
    (q : Query) (page : Page)
    (ended : (s.source.execute timeoutMillis cancelled q).2 = .done page)
    (small : q.usesPipeline = true → (s.documents q.table).length < 2 ^ 63) :
    ∃ whole left, (s.source.execute timeoutMillis cancelled q.whole).2 = .done whole ∧
      runPipeline (s.documents q.table) q.pipeline = .ok left ∧
      (q.Narrows ∨ left.length = (s.documents q.table).length →
        page.filtered = whole.rows.length) ∧
      (¬q.Narrows → page.filtered = (s.documents q.table).length ∧
        whole.rows.length = left.length) ∧
      (q.pipeline = [] → page.filtered = whole.rows.length) := by
  obtain ⟨rfl, valid, left, served⟩ := serves_of_execute ended
  have window := rowsOf_eq_window q left
  rw [served.read] at window
  obtain ⟨rows, readWhole, _⟩ := map_eq_ok.mp window.symm
  obtain ⟨filtered, endedWhole, _⟩ :=
    execute_of_read s timeoutMillis q.whole (validate_whole valid) served.piped readWhole
  have matched := matchCount_of_whole readWhole
  have unnarrowed (not : ¬q.Narrows) :
      page.filtered = (s.documents q.table).length ∧ rows.length = left.length := by
    have skipped : (compileMatch q).needsExactCount = false :=
      Bool.eq_false_iff.mpr (mt (needsExactCount_iff q).mp not)
    rw [matchCount_of_unnarrowed skipped left] at matched
    exact ⟨served.all skipped, (Except.ok.inj matched).symm⟩
  have equal (whole : q.Narrows ∨ left.length = (s.documents q.table).length) :
      page.filtered = rows.length := by
    by_cases narrows : q.Narrows
    · have counted := matchCount_of_exactCount served.piped served.read
        (served.exact ((needsExactCount_iff q).mpr narrows)) small
      exact Except.ok.inj (counted.symm.trans matched)
    · obtain ⟨size, length⟩ := unnarrowed narrows
      rw [size, length, whole.resolve_left narrows]
  refine ⟨_, left, endedWhole, served.piped, equal, unnarrowed, fun none => equal (Or.inr ?_)⟩
  have piped := served.piped
  rw [none] at piped
  cases piped
  rfl

end AnyCompiler

/-- Behind a pipeline that drops the retired, a filter counts those that it leaves; without one, both
accounts are counted. -/
theorem filtered_eq_length_rows_accounts :
    let accounts : Store := ⟨[("accounts",
      [[("name", .string "Acme"), ("active", .bool true)],
        [("name", .string "Globex"), ("active", .bool false)]])], ⟨0⟩⟩
    let all : Query := { (default : Query) with
      table := "accounts", fields := ["name"], limit := 10, offset := 1
      pipeline := [.single "$match" (.document [("active", .bool true)])] }
    let named : Query := { all with filters := [⟨"name", .stringSet ["Acme", "Globex"]⟩] }
    named.Narrows ∧ ¬all.Narrows ∧
      (accounts.source.execute none false named).2 = .done ⟨[], 2, 1⟩ ∧
      (∃ whole, (accounts.source.execute none false named.whole).2 = .done whole ∧
        whole.rows.length = 1) ∧
      (accounts.source.execute none false all).2 = .done ⟨[], 2, 2⟩ ∧
      ∃ whole, (accounts.source.execute none false all.whole).2 = .done whole ∧
        whole.rows.length = 1 := by
  intro accounts all named
  have narrows : named.Narrows := Or.inl (List.cons_ne_nil _ _)
  have unnarrowed : ¬all.Narrows := by
    rintro (filters | raw | search)
    · exact filters rfl
    · exact raw rfl
    · exact search.1 rfl
  have namedEnded : (accounts.source.execute none false named).2 = .done ⟨[], 2, 1⟩ := rfl
  have allEnded : (accounts.source.execute none false all).2 = .done ⟨[], 2, 2⟩ := rfl
  obtain ⟨namedWhole, _, namedRead, _, counted, _⟩ :=
    filtered_eq_length_rows accounts none false named _ namedEnded (fun _ => by decide)
  obtain ⟨allWhole, left, allRead, piped, _, sized, _⟩ :=
    filtered_eq_length_rows accounts none false all _ allEnded (fun _ => by decide)
  have one : left.length = 1 := by
    cases piped
    rfl
  exact ⟨narrows, unnarrowed, namedEnded, ⟨namedWhole, namedRead, (counted (Or.inl narrows)).symm⟩,
    allEnded, ⟨allWhole, allRead, (sized unnarrowed).2.trans one⟩⟩

/-- The count is not the length of the whole result where a pipeline drops documents and nothing
else narrows: one active account is shown, and two are counted. -/
theorem filtered_ne_length_rows :
    ¬∀ (s : Store) (q : Query) (page whole : Page), q.validate = .ok () →
      (s.source.execute none false q).2 = .done page →
      (s.source.execute none false q.whole).2 = .done whole →
      page.filtered = whole.rows.length := by
  intro always
  let accounts : Store := ⟨[("accounts",
    [[("name", .string "Acme"), ("active", .bool true)],
      [("name", .string "Globex"), ("active", .bool false)]])], ⟨0⟩⟩
  let q : Query := { (default : Query) with
    table := "accounts", fields := ["name"]
    pipeline := [.single "$match" (.document [("active", .bool true)])] }
  have page : (accounts.source.execute none false q).2 =
      .done ⟨[[("name", .string "Acme")]], 2, 2⟩ := rfl
  exact absurd (always accounts q _ _ rfl page page) (by decide)

end DocTable
