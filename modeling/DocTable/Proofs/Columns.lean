/-
**What a response depends on.**

Two stores whose collections agree on the columns of a table, document by document, are run through
one request side by side. Whatever the request does with documents (select, sort, cut, project, show)
goes by what they have at the columns, so the pairs stay together up to the cells.

* `AgreeOn`: two documents with the same values at some paths;
* `Query.Within`: a query that reads documents at these paths only;
* `rowsOf_agree`, `execute_agree`: one query over both stores;
* `handle_agree`: one request over both stores.
-/

import DocTable.Proofs.Decoding
import DocTable.Proofs.Filtering
import DocTable.Proofs.Projection
import DocTable.Proofs.Reading
import DocTable.Regex.Room

namespace DocTable

/-! ### Documents that agree on some paths -/

/-- Two documents with the same values at some paths, or missing at both. -/
def AgreeOn (paths : List String) (d e : Document) : Prop :=
  ∀ path ∈ paths, d.lookup path = e.lookup path

theorem AgreeOn.symm {paths : List String} {d e : Document} (agree : AgreeOn paths d e) :
    AgreeOn paths e d :=
  fun path member => (agree path member).symm

/-- What a document offers at a path depends on its value there. -/
theorem offers_of_lookup_eq {d e : Document} {path : String}
    (same : d.lookup path = e.lookup path) {wanted : Value → Prop}
    (offers : d.Offers path wanted) : e.Offers path wanted := by
  unfold Document.Offers at offers ⊢
  rw [← same]
  exact offers

/-- Whether a filter accepts a document depends on the value at its path. -/
theorem accepts_of_lookup_eq {d e : Document} {path : String}
    (same : d.lookup path = e.lookup path) {value : FilterValue} (accepts : value.Accepts d path) :
    value.Accepts e path := by
  cases value with
  | null => exact accepts.imp (fun missing => same ▸ missing) (offers_of_lookup_eq same)
  | intRange min max => exact accepts.imp (offers_of_lookup_eq same) (offers_of_lookup_eq same)
  | floatRange min max => exact accepts.imp (offers_of_lookup_eq same) (offers_of_lookup_eq same)
  | _ => exact offers_of_lookup_eq same accepts

theorem arrange_some (spec : Document) (docs : List Document) :
    Store.arrange (some spec) docs = (SortKey.ofDocument spec).map (sortDocuments · docs) := by
  show (SortKey.ofDocument spec).bind _ = _
  cases SortKey.ofDocument spec with
  | error fault => rfl
  | ok keys => rfl

/-- A query that reads documents at some paths only: it has no raw filter and no pipeline. -/
structure Query.Within (q : Query) (paths : List String) : Prop where
  fields : ∀ field ∈ q.fields, field ∈ paths
  filters : ∀ filter ∈ q.filters, filter.field ∈ paths
  search : ∀ field ∈ q.searchFields, field ∈ paths
  sort : ∀ sort ∈ q.sort, sort.field ∈ paths
  raw : q.rawFilter = none
  pipeline : q.pipeline = []

section OneQuery

variable [Regex.Compiler] {q : Query} {paths : List String} (within : q.Within paths)

include within

/-- What a query asks of a document depends on its paths. -/
theorem matches_of_agree {d e : Document} (agree : AgreeOn paths d e) (matched : q.Matches d) :
    q.Matches e := by
  refine ⟨fun searches => ?_, fun filter member => ?_, fun raw member => ?_⟩
  · obtain ⟨field, member, offers⟩ := matched.search searches
    exact ⟨field, member, offers_of_lookup_eq (agree field (within.search field member)) offers⟩
  · obtain ⟨other, inside, same, accepts⟩ := matched.filters filter member
    exact ⟨other, inside, same,
      accepts_of_lookup_eq (agree other.field (within.filters other inside)) accepts⟩
  · rw [within.raw] at member
    cases member

/-- **Selecting.** Documents that agree both match or both do not. -/
theorem holds_congr {c : Condition} (stated : Stage.condition (compileMatch q).filter = .ok c)
    {d e : Document} (agree : AgreeOn paths d e) : c.holds d = c.holds e := by
  have parsed : Condition.ofDocument (compileMatch q).filter = .ok c := by
    unfold Stage.condition at stated
    split at stated
    · next found =>
      cases stated
      exact found
    · cases stated
  rw [Bool.eq_iff_iff, holds_compileMatch_iff parsed, holds_compileMatch_iff parsed]
  exact ⟨matches_of_agree within agree, matches_of_agree within agree.symm⟩

/-- Selecting keeps pairs together. -/
theorem forall₂_selected {c : Condition}
    (stated : Stage.condition (compileMatch q).filter = .ok c) {docs others : List Document}
    (pairs : List.Forall₂ (AgreeOn paths) docs others) :
    List.Forall₂ (AgreeOn paths) (docs.filter (c.holds ·)) (others.filter (c.holds ·)) := by
  induction pairs with
  | nil => exact .nil
  | cons agree _ ih =>
    rw [List.filter_cons, List.filter_cons, holds_congr within stated agree]
    split
    · exact .cons agree ih
    · exact ih

omit [Regex.Compiler] in
/-- **Sorting.** The same arrangement of both lists, or the same fault. -/
theorem arrange_agree {docs others : List Document}
    (pairs : List.Forall₂ (AgreeOn paths) docs others) :
    (∃ error, Store.arrange (compileSort q.sort) docs = .error error ∧
      Store.arrange (compileSort q.sort) others = .error error) ∨
    ∃ left right, Store.arrange (compileSort q.sort) docs = .ok left ∧
      Store.arrange (compileSort q.sort) others = .ok right ∧
      List.Forall₂ (AgreeOn paths) left right := by
  cases compiled : compileSort q.sort with
  | none => exact Or.inr ⟨docs, others, rfl, rfl, pairs⟩
  | some spec =>
    cases read : SortKey.ofDocument spec with
    | error fault =>
      refine Or.inl ⟨fault, ?_, ?_⟩
      · rw [arrange_some, read]
        rfl
      · rw [arrange_some, read]
        rfl
    | ok keys =>
      have inside : ∀ key ∈ keys, key.path ∈ paths := by
        intro key member
        obtain ⟨entry, listed, path⟩ := path_mem_of_ofDocument read key member
        obtain ⟨sort, asked, field⟩ := path_mem_of_compileSort compiled entry listed
        rw [← path, ← field]
        exact within.sort sort asked
      have same {a b d e : Document} (first : AgreeOn paths a b) (second : AgreeOn paths d e) :
          compareBy keys a d = compareBy keys b e :=
        compareBy_congr (fun key member => first key.path (inside key member))
          (fun key member => second key.path (inside key member))
      refine Or.inr ⟨sortDocuments keys docs, sortDocuments keys others, ?_, ?_,
        forall₂_sortDocuments same pairs⟩
      · rw [arrange_some, read]
        rfl
      · rw [arrange_some, read]
        rfl

omit within in
omit [Regex.Compiler] in
/-- **Cutting** keeps pairs together. -/
theorem forall₂_cut (skip : UInt64) (limit : Option UInt64) {docs others : List Document}
    (pairs : List.Forall₂ (AgreeOn paths) docs others) :
    List.Forall₂ (AgreeOn paths) (Store.cut skip limit docs) (Store.cut skip limit others) := by
  have rest := List.forall₂_drop skip.toNat pairs
  unfold Store.cut
  cases limit with
  | none => exact rest
  | some limit =>
    by_cases unbounded : limit = 0
    · simp only [if_pos unbounded]
      exact rest
    · simp only [if_neg unbounded]
      exact List.forall₂_take limit.toNat rest

/-! ### One query over two stores -/

/-- **The rows of a query** over two lists that agree: rows of documents that agree, or the same
fault. -/
theorem rowsOf_agree {docs others : List Document}
    (pairs : List.Forall₂ (AgreeOn paths) docs others) :
    (∃ error, q.rowsOf docs = .error error ∧ q.rowsOf others = .error error) ∨
    ∃ left right, q.rowsOf docs = .ok (left.map (shown q.fields)) ∧
      q.rowsOf others = .ok (right.map (shown q.fields)) ∧
      List.Forall₂ (AgreeOn paths) left right := by
  have shows (list : List Document) : list.mapM (project · (planProjection q.fields)) =
      .ok (list.map (shown q.fields)) :=
    mapM_eq_ok_map fun d _ => project_planProjection q.fields d
  unfold Query.rowsOf
  cases stated : Stage.condition (compileMatch q).filter with
  | error fault => exact Or.inl ⟨fault, rfl, rfl⟩
  | ok c =>
    rcases arrange_agree within (forall₂_selected within stated pairs) with
      ⟨fault, first, second⟩ | ⟨left, right, first, second, sorted⟩
    · refine Or.inl ⟨fault, ?_, ?_⟩
      · show (Store.arrange _ (docs.filter (c.holds ·))).bind _ = _
        rw [first]
        rfl
      · show (Store.arrange _ (others.filter (c.holds ·))).bind _ = _
        rw [second]
        rfl
    · refine Or.inr ⟨Store.cut q.offset (some q.limit) left,
        Store.cut q.offset (some q.limit) right, ?_, ?_, forall₂_cut _ _ sorted⟩
      · show (Store.arrange _ (docs.filter (c.holds ·))).bind _ = _
        rw [first]
        exact shows _
      · show (Store.arrange _ (others.filter (c.holds ·))).bind _ = _
        rw [second]
        exact shows _

/-- As many documents match in two lists that agree. -/
theorem matchCount_agree {docs others : List Document}
    (pairs : List.Forall₂ (AgreeOn paths) docs others) :
    q.matchCount docs = q.matchCount others := by
  unfold Query.matchCount
  cases stated : Stage.condition (compileMatch q).filter with
  | error fault => rfl
  | ok c =>
    exact congrArg Except.ok (forall₂_selected within stated pairs).length_eq

/-- What a renderer shows of rows depends on documents that agree only by their cells. -/
theorem displayed_agree (renderer : Renderer) {left right : List Document}
    (pairs : List.Forall₂ (AgreeOn paths) left right) :
    (left.map (shown q.fields)).map (fun d => renderer.render (rowCells d q.fields) q.search) =
      (right.map (shown q.fields)).map
        (fun d => renderer.render (rowCells d q.fields) q.search) := by
  induction pairs with
  | nil => rfl
  | cons agree _ ih =>
    have cells := rowCells_shown_congr fun path member => agree path (within.fields path member)
    simp only [List.map_cons, cells, ih]

/-- **A query over two stores** that agree ends with the same displayed page. -/
theorem execute_agree (renderer : Renderer) {s s' : Store}
    (pairs : List.Forall₂ (AgreeOn paths) (s.documents q.table) (s'.documents q.table))
    (timeout : Option UInt64) (cancelled : Bool) :
    (s.source.execute timeout cancelled q).2.map (GridPage.ofPage renderer q.fields q.search) =
      (s'.source.execute timeout cancelled q).2.map
        (GridPage.ofPage renderer q.fields q.search) := by
  have whole (docs : List Document) : runPipeline docs q.pipeline = .ok docs := by
    rw [within.pipeline]
    rfl
  have direct : q.usesPipeline = true → False := by
    unfold Query.usesPipeline
    rw [within.pipeline]
    exact Bool.false_ne_true
  cases valid : q.validate with
  | error fault =>
    unfold Source.execute
    rw [valid]
  | ok _ =>
    cases cancelled with
    | true =>
      unfold Source.execute
      rw [valid]
      rfl
    | false =>
      rcases rowsOf_agree within pairs with ⟨fault, first, second⟩ | ⟨left, right, first, second, rows⟩
      · rw [execute_of_error s timeout q valid fault (by rw [whole]; exact first),
          execute_of_error s' timeout q valid fault (by rw [whole]; exact second)]
      · obtain ⟨filtered, ended, all, exact⟩ := execute_of_rows s timeout q valid (whole _) first
        obtain ⟨filtered', ended', all', exact'⟩ :=
          execute_of_rows s' timeout q valid (whole _) second
        have sizes : s.size q.table = s'.size q.table := pairs.length_eq
        have counts : filtered = filtered' := by
          cases narrowed : (compileMatch q).needsExactCount with
          | false => rw [all narrowed, all' narrowed, sizes]
          | true =>
            have one := exact narrowed fun used => (direct used).elim
            have two := exact' narrowed fun used => (direct used).elim
            rw [matchCount_agree within pairs, two] at one
            exact (Except.ok.inj one).symm
        rw [ended, ended', counts, sizes]
        show Outcome.done (GridPage.mk _ _ _) = Outcome.done (GridPage.mk _ _ _)
        rw [displayed_agree within renderer rows]

end OneQuery

/-! ### One request over two stores -/

/-- A request to a table without a raw filter and a pipeline reads documents at the columns only. -/
theorem within_of_decodeRequest {c : TableConfig} {p : Web.Params} {q : Query}
    (valid : c.validate = .ok ()) (noRaw : c.rawFilter = none) (noStages : c.pipeline = [])
    (decoded : decodeRequest p c = .ok q) : q.Within c.fields := by
  have checked := TableConfig.checked_of_validate valid
  obtain ⟨offset, limit, sort, _, order, rfl⟩ := eq_of_decodeRequest decoded
  exact
    { fields := fun _ member => member
      filters := checked.filters
      search := checked.search
      sort := sort_mem_fields order
      raw := noRaw
      pipeline := noStages }

/-- The page that parameters ask for is the same over two stores that agree on the columns. -/
theorem answer_agree [Regex.Compiler] (t : Table) (valid : t.config.validate = .ok ())
    (noRaw : t.config.rawFilter = none) (noStages : t.config.pipeline = []) {s s' : Store}
    (pairs : List.Forall₂ (AgreeOn t.config.fields) (s.documents t.config.collection)
      (s'.documents t.config.collection)) (cancelled : Bool) (p : Web.Params) :
    (t.answer s.source cancelled p).2 = (t.answer s'.source cancelled p).2 := by
  unfold Table.answer
  cases decoded : decodeRequest p t.config with
  | error fault => rfl
  | ok q =>
    have within := within_of_decodeRequest valid noRaw noStages decoded
    have table : q.table = t.config.collection := by
      obtain ⟨offset, limit, sort, _, _, rfl⟩ := eq_of_decodeRequest decoded
      rfl
    rw [← table] at pairs
    exact execute_agree within t.renderer pairs t.config.timeoutMillis cancelled

/-- **No data outside the columns influences a response.** Over two stores whose collections have as
many documents, and documents in the same places that agree on every column, a table without a raw
filter and a pipeline answers every request with the same response. -/
theorem handle_agree [Regex.Compiler] (t : Table) (valid : t.config.validate = .ok ())
    (noRaw : t.config.rawFilter = none) (noStages : t.config.pipeline = []) (s s' : Store)
    (pairs : List.Forall₂ (AgreeOn t.config.fields) (s.documents t.config.collection)
      (s'.documents t.config.collection)) (cancelled : Bool) (r : Web.Request) :
    (t.handle s.source cancelled r).2 = (t.handle s'.source cancelled r).2 := by
  have respond (form : List UInt8) :
      (t.respond s.source cancelled form).2 = (t.respond s'.source cancelled form).2 :=
    congrArg Table.response? (answer_agree t valid noRaw noStages pairs cancelled (.ofForm form))
  unfold Table.handle
  by_cases config : r.method = "GET" ∧ Table.trimmedPath r.target.path = "/config".toList
  · simp only [if_pos config]
  · by_cases asked : r.method = "GET" ∧ Table.trimmedPath r.target.path = "/data".toList
    · simp only [if_neg config, if_pos asked]
      exact respond _
    · by_cases sent : r.method = "POST" ∧ Table.trimmedPath r.target.path = "/data".toList
      · simp only [if_neg config, if_neg asked, if_pos sent]
        exact respond _
      · simp only [if_neg config, if_neg asked, if_neg sent]

/-- Two stores of accounts that differ in what no column shows: identifiers, passwords, an address
that is there or not beside the city. -/
theorem handle_agree_accounts :
    let c : TableConfig :=
      { collection := "accounts", maxRows := 50
        columns := [⟨"name", none⟩, ⟨"status", none⟩, ⟨"address.city", none⟩]
        searchFields := ["name"], row := [], highlightSearch := true
        filters := [⟨"status", .string "active"⟩], rawFilter := none, pipeline := []
        timeoutMillis := none }
    let first : Store := ⟨[("accounts",
      [[("_id", .int32 1), ("name", .string "Bo"), ("status", .string "active"),
          ("address", .document [("city", .string "Oslo"), ("street", .string "High")])],
        [("_id", .int32 2), ("name", .string "Ann"), ("status", .string "active"),
          ("password", .string "secret")]])], ⟨0⟩⟩
    let second : Store := ⟨[("accounts",
      [[("status", .string "active"), ("name", .string "Bo"),
          ("address", .document [("city", .string "Oslo")])],
        [("name", .string "Ann"), ("status", .string "active"), ("address", .null)]])], ⟨0⟩⟩
    let r : Web.Request :=
      { method := "POST", target := ⟨"/data", none⟩
        body := Text.Utf8.encode "search[value]=n&order[0][column]=0" }
    c.validate = .ok () ∧ c.rawFilter = none ∧ c.pipeline = [] ∧
      List.Forall₂ (AgreeOn c.fields) (first.documents c.collection)
        (second.documents c.collection) ∧
      (Table.handle ⟨c, .plain⟩ first.source false r).2 =
        (Table.handle ⟨c, .plain⟩ second.source false r).2 := by
  intro c first second r
  have valid : c.validate = .ok () := rfl
  have pairs : List.Forall₂ (AgreeOn c.fields) (first.documents c.collection)
      (second.documents c.collection) := by
    refine .cons ?_ (.cons ?_ .nil)
    · exact List.forall_mem_cons.mpr ⟨rfl, List.forall_mem_cons.mpr ⟨rfl,
        List.forall_mem_singleton.mpr rfl⟩⟩
    · exact List.forall_mem_cons.mpr ⟨rfl, List.forall_mem_cons.mpr ⟨rfl,
        List.forall_mem_singleton.mpr rfl⟩⟩
  exact ⟨valid, rfl, rfl, pairs, handle_agree ⟨c, .plain⟩ valid rfl rfl first second pairs false r⟩

end DocTable
