/-
**The bounds of an answer.**

What a table answers is bounded by the collection, by its definition and by the request: no more
matches than documents, no more rows than matches behind the offset, no more rows than the bound of
the table or the length that was asked for, and as many cells in each row as columns or templates.

* `ofConfig_of_validate`: a checked definition makes a table;
* `Web.Params.Asks`: the numbers that the parameters of a request write;
* `asks_start_iff`, `asks_length_iff`: the window of a decoded request is the one that it asks for;
* `filtered_le_size`, `length_rows_le`: the bounds of a page;
* `Table.answer_eq_done`: a table displays the page of the query that it decodes;
* `answer_within_bounds`: the bounds of an answer.
-/

import DocTable.Proofs.Counting
import DocTable.Proofs.DecimalText
import DocTable.Proofs.Decoding
import DocTable.Proofs.Rendering
import DocTable.Regex.Room

namespace DocTable

/-! ### The table of a definition -/

/-- A template for each source. -/
theorem length_templates {c : TableConfig} {templates : List Template}
    (read : c.templates = .ok templates) : templates.length = c.row.length :=
  (TableConfig.forall₂_templates read).length_eq.symm

/-- The rows of a table have a cell for each template, or for each column where there are none. -/
def TableConfig.width (c : TableConfig) : Nat :=
  if c.row = [] then c.columns.length else c.row.length

theorem RowTemplate.length_render [Regex.Compiler] (t : RowTemplate) (cells : List Value)
    (search : String) :
    (t.render cells search).length =
      if t.templates = [] then t.columns.length else t.templates.length := by
  unfold RowTemplate.render
  by_cases none : t.templates = []
  · simp [none]
  · simp [none]

/-- **A checked definition** makes a table, all rows of which are as wide as the definition says. -/
theorem ofConfig_of_validate [Regex.Compiler] {c : TableConfig} (valid : c.validate = .ok ()) :
    ∃ t, Table.ofConfig c = .ok t ∧ t.config = c ∧
      ∀ cells search, (t.renderer.render cells search).length = c.width := by
  obtain ⟨shape, shaped⟩ := exists_rowTemplate valid
  obtain ⟨read, columns, _⟩ := parts_of_ofConfig shaped
  refine ⟨⟨c, .template shape⟩, ?_, rfl, fun cells search => ?_⟩
  · unfold Table.ofConfig
    rw [valid, shaped]
    rfl
  · have count := length_templates read
    have none : shape.templates = [] ↔ c.row = [] := by
      rw [← List.length_eq_zero_iff, ← List.length_eq_zero_iff, count]
    show (shape.render cells search).length = c.width
    rw [RowTemplate.length_render, TableConfig.width, columns, List.length_map, count]
    simp only [none]

/-! ### The window of a request -/

/-- What a request asks for by a parameter: the number that its text writes, or zero if it is missing or
one of the words that stand for nothing. -/
def Web.Params.Asks (p : Web.Params) (key : String) (nothing : List String) (n : Nat) : Prop :=
  match p.get? key with
  | none => n = 0
  | some text => if text ∈ nothing then n = 0 else Text.Writes text n

/-- A number that is read is the one that is written. -/
theorem writes_iff_of_decodeNumber {name text : String} {n : UInt64}
    (decoded : decodeNumber name text = .ok n) (m : Nat) : Text.Writes text m ↔ m = n.toNat := by
  have read : readUInt64? (Text.trim text).toList = some n := by
    unfold decodeNumber at decoded
    split at decoded
    · next read => rw [read, Except.ok.inj decoded]
    · cases decoded
  obtain ⟨k, whole, fits⟩ := Option.bind_eq_some_iff.mp read
  rw [Option.ite_none_right_eq_some] at fits
  obtain ⟨small, same⟩ := fits
  obtain rfl := Option.some.inj same
  rw [Text.writes_iff, whole, UInt64.toNat_ofNat_of_lt' small, Option.some.injEq, eq_comm]

/-- A parameter that is read as nothing, or as the number it writes, asks for what is read. -/
theorem asks_iff {p : Web.Params} {key : String} {nothing : List String} {n : UInt64}
    (decoded : (match p.get? key with
      | none => Except.ok 0
      | some text => if text ∈ nothing then Except.ok 0 else decodeNumber key text) = .ok n) (m : Nat) :
    p.Asks key nothing m ↔ m = n.toNat := by
  unfold Web.Params.Asks
  cases given : p.get? key with
  | none =>
    rw [given] at decoded
    cases decoded
    exact Iff.rfl
  | some text =>
    simp only [given] at decoded
    by_cases none : text ∈ nothing
    · simp only [if_pos none] at decoded ⊢
      cases decoded
      exact Iff.rfl
    · simp only [if_neg none] at decoded ⊢
      exact writes_iff_of_decodeNumber decoded m

/-- **The offset** of a decoded request is the start that it asks for. -/
theorem asks_start_iff {p : Web.Params} {offset : UInt64}
    (decoded : decodeStart (p.get? "start") = .ok offset) (n : Nat) :
    p.Asks "start" [""] n ↔ n = offset.toNat := by
  refine asks_iff ?_ n
  simp only [List.mem_singleton]
  exact decoded

/-- **The limit** of a decoded request is the length that it asks for, if it asks for one. -/
theorem asks_length_iff {p : Web.Params} {bound limit : UInt64}
    (decoded : decodeLength (p.get? "length") bound = .ok limit) :
    ∃ requested, (∀ n, p.Asks "length" ["", "-1"] n ↔ n = requested) ∧
      (0 < requested → requested = limit.toNat) := by
  obtain ⟨requested, read, decoded⟩ := bind_eq_ok.mp decoded
  have asks (n : Nat) : p.Asks "length" ["", "-1"] n ↔ n = requested.toNat := by
    refine asks_iff ?_ n
    simp only [List.mem_cons, List.not_mem_nil, or_false]
    exact read
  refine ⟨requested.toNat, asks, fun positive => ?_⟩
  have asked : requested ≠ 0 := by
    rintro rfl
    cases positive
  by_cases unbounded : bound = 0
  · simp only [if_pos unbounded] at decoded
    cases decoded
    rfl
  · by_cases tooLong : bound < requested
    · simp only [if_neg unbounded, if_neg asked, if_pos tooLong] at decoded
      cases decoded
    · simp only [if_neg unbounded, if_neg asked, if_neg tooLong] at decoded
      cases decoded
      rfl

/-! ### The bounds of a page -/

theorem Outcome.map_eq_done {α β : Type} {f : α → β} {outcome : Outcome α} {b : β}
    (mapped : outcome.map f = .done b) : ∃ a, outcome = .done a ∧ f a = b := by
  cases outcome with
  | done a =>
    cases mapped
    exact ⟨a, rfl, rfl⟩
  | failed error => cases mapped
  | waiting => cases mapped

/-- A table that answers displays the page of the query that it decodes. -/
theorem Table.answer_eq_done [Regex.Compiler] {t : Table} {source : Source} {cancelled : Bool}
    {p : Web.Params}
    {g : GridPage} :
    (t.answer source cancelled p).2 = .done g ↔
      ∃ q page, decodeRequest p t.config = .ok q ∧
        (source.execute t.config.timeoutMillis cancelled q).2 = .done page ∧
        GridPage.ofPage t.renderer q.fields q.search page = g := by
  unfold Table.answer
  constructor
  · intro answered
    cases decoded : decodeRequest p t.config with
    | error fault =>
      rw [decoded] at answered
      cases answered
    | ok q =>
      rw [decoded] at answered
      obtain ⟨page, ended, shown⟩ := Outcome.map_eq_done answered
      exact ⟨q, page, rfl, ended, shown⟩
  · rintro ⟨q, page, decoded, ended, rfl⟩
    rw [decoded]
    exact congrArg (Outcome.map (GridPage.ofPage t.renderer q.fields q.search)) ended

theorem length_ofPage [Regex.Compiler] (renderer : Renderer) (fields : List String)
    (search : String) (page : Page) :
    (GridPage.ofPage renderer fields search page).data.length = page.rows.length :=
  List.length_map _

section OnePage

variable [Regex.Compiler] {s : Store} {q : Query} {left : List Document} {page : Page}
  (served : s.Serves q left page)

include served

/-- **No more matches than documents**, whatever a pipeline makes of them. -/
theorem filtered_le_size : page.filtered ≤ s.size q.table := by
  cases narrowed : (compileMatch q).needsExactCount with
  | false => exact Nat.le_of_eq (served.all narrowed)
  | true => exact exactCount_le served.piped served.read (served.exact narrowed)

/-- A page has at most as many rows as its limit. -/
theorem length_rows_le_limit (limited : q.limit ≠ 0) : page.rows.length ≤ q.limit.toNat := by
  obtain ⟨n, _, length⟩ := matchCount_of_rowsOf served.read
  rw [length, if_neg limited]
  exact Nat.min_le_left _ _

/-- **No more rows than matches** behind the offset. -/
theorem length_rows_le
    (small : q.usesPipeline = true → (s.documents q.table).length < 2 ^ 63) :
    page.rows.length ≤ page.filtered - q.offset.toNat := by
  obtain ⟨n, counted, length⟩ := matchCount_of_rowsOf served.read
  have matches_le : n ≤ page.filtered := by
    cases narrowed : (compileMatch q).needsExactCount with
    | false =>
      rw [served.all narrowed]
      exact Nat.le_trans (matchCount_le counted) (length_runPipeline_le served.piped)
    | true =>
      have number := matchCount_of_exactCount served.piped served.read (served.exact narrowed) small
      exact Nat.le_of_eq (Except.ok.inj (counted.symm.trans number))
  rw [length]
  split <;> omega

end OnePage

/-! ### The bounds of an answer -/

/-- **Every answer is within its bounds.** A checked definition makes a table. On each page that it
answers, as many matches are reported as there are documents at most; the rows are no more than the
matches behind the start that the request asks for, than the bound of the table and than the length that
the request asks for, both as its parameters write them; and all rows are as wide as the definition says.
A pipeline counts into 64 bits with a sign, which no list in memory outgrows. -/
theorem answer_within_bounds [Regex.Compiler] (c : TableConfig) (valid : c.validate = .ok ()) :
    ∃ t, Table.ofConfig c = .ok t ∧
      ∀ (s : Store) (cancelled : Bool) (p : Web.Params) (g : GridPage),
        (t.answer s.source cancelled p).2 = .done g →
        ∃ offset requested, (∀ n, p.Asks "start" [""] n ↔ n = offset) ∧
          (∀ n, p.Asks "length" ["", "-1"] n ↔ n = requested) ∧
          g.recordsTotal = s.size c.collection ∧ g.recordsFiltered ≤ g.recordsTotal ∧
          ((c.pipeline ≠ [] → s.size c.collection < 2 ^ 63) →
            g.data.length ≤ g.recordsFiltered - offset) ∧
          (0 < c.maxRows → g.data.length ≤ c.maxRows.toNat) ∧
          (0 < requested → g.data.length ≤ requested) ∧
          ∀ row ∈ g.data, row.length = c.width := by
  obtain ⟨t, made, config, wide⟩ := ofConfig_of_validate valid
  refine ⟨t, made, fun s cancelled p g answered => ?_⟩
  obtain ⟨q, page, decoded, ended, rfl⟩ := Table.answer_eq_done.mp answered
  rw [config] at decoded ended
  obtain ⟨offset, limit, sort, start, length, _, _, rfl⟩ := parts_of_decodeRequest decoded
  obtain ⟨requested, asked, exact⟩ := asks_length_iff length
  obtain ⟨_, _, left, served⟩ := serves_of_execute ended
  have limited (positive : limit ≠ 0) : page.rows.length ≤ limit.toNat :=
    length_rows_le_limit served positive
  refine ⟨offset.toNat, requested, asks_start_iff start, asked, served.total, ?_, ?_⟩
  · show page.filtered ≤ page.total
    rw [served.total]
    exact filtered_le_size served
  rw [length_ofPage]
  refine ⟨fun small => ?_, fun bounded => ?_, fun positive => ?_, fun row member => ?_⟩
  · refine length_rows_le served fun piped => small fun none => ?_
    rw [Query.usesPipeline, none] at piped
    cases piped
  · obtain ⟨one, within⟩ := decodeLength_bounds length bounded
    exact Nat.le_trans (limited (UInt64.pos_iff_ne_zero.mp one)) (UInt64.le_iff_toNat_le.mp within)
  · obtain rfl := exact positive
    refine limited ?_
    rintro rfl
    cases positive
  · obtain ⟨d, _, rfl⟩ := List.mem_map.mp member
    exact wide _ _

/-- Four accounts, of which the pipeline and the filter leave three: one row behind the first of them, as
the request asks for, with one template beside two columns. -/
theorem answer_within_bounds_accounts :
    let c : TableConfig :=
      { collection := "accounts", maxRows := 2, columns := [⟨"name", none⟩, ⟨"plan", none⟩]
        searchFields := [], row := ["<b>\x7b\x7bname\x7d\x7d</b>"], highlightSearch := false
        filters := [⟨"plan", .string "paid"⟩], rawFilter := none
        pipeline := [.single "$match" (.document [("active", .bool true)])]
        timeoutMillis := none }
    let accounts : Store := ⟨[("accounts",
      [[("name", .string "Acme"), ("plan", .string "paid"), ("active", .bool true)],
        [("name", .string "Globex"), ("plan", .string "paid"), ("active", .bool true)],
        [("name", .string "Hooli"), ("plan", .string "paid"), ("active", .bool true)],
        [("name", .string "Initech"), ("plan", .string "paid"), ("active", .bool false)]])], ⟨0⟩⟩
    let t : Table := ⟨c, .template ⟨[⟨"name", none⟩, ⟨"plan", none⟩],
      [⟨[.text ['<', 'b', '>'], .value "name" [], .text ['<', '/', 'b', '>']]⟩], false⟩⟩
    let p : Web.Params := ⟨[("start", "1"), ("length", " +01")]⟩
    let g : GridPage := ⟨[["<b>Globex</b>"]], 4, 3⟩
    c.validate = .ok () ∧ Table.ofConfig c = .ok t ∧
      (t.answer accounts.source false p).2 = .done g ∧
      p.Asks "start" [""] 1 ∧ p.Asks "length" ["", "-1"] 1 ∧
      g.recordsFiltered ≤ g.recordsTotal ∧ g.data.length ≤ g.recordsFiltered - 1 ∧
      g.data.length ≤ c.maxRows.toNat ∧ g.data.length ≤ 1 ∧
      ∀ row ∈ g.data, row.length = c.width := by
  intro c accounts t p g
  have valid : c.validate = .ok () := rfl
  have made : Table.ofConfig c = .ok t := rfl
  have answered : (t.answer accounts.source false p).2 = .done g :=
    Table.answer_eq_done.mpr ⟨{ (default : Query) with
        table := "accounts", fields := ["name", "plan"], filters := c.filters, pipeline := c.pipeline
        offset := 1, limit := 1 },
      ⟨[[("name", .string "Globex"), ("plan", .string "paid")]], 4, 3⟩, rfl, rfl, rfl⟩
  have start : Text.Writes "1" 1 := Text.writes_iff.mpr rfl
  have length : Text.Writes " +01" 1 := Text.writes_iff.mpr rfl
  obtain ⟨table, made', bounds⟩ := answer_within_bounds c valid
  rw [made] at made'
  obtain rfl := Except.ok.inj made'
  obtain ⟨offset, requested, first, many, _, few, behind, bounded, within, wide⟩ :=
    bounds accounts false p g answered
  obtain rfl := (first 1).mp start
  obtain rfl := (many 1).mp length
  exact ⟨valid, made, answered, start, length, few, behind fun _ => by decide, bounded (by decide),
    within (by decide), wide⟩

end DocTable
