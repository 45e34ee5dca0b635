/-
**Cells in their own columns.**

Without templates a row has one text for each column. The cells get there through a document that has a
key for each column: its path with underscores in place of the dots. Columns whose paths differ in nothing
else share a key, and all of them show the cell of the last one. Every other column shows its own cell.

* `TableConfig.IsLast`: a column behind which no other one has its key;
* `get?_context`: the value under a key is that of the last column;
* `getElem?_render`: the text of a column is that of the cell of the last column with its key;
* `isLast_iff_alone`: a text depends on its own cell alone exactly if its column is the last one;
* `render_own_cell`: the texts of a row of a table that passed its checks.
-/

import DocTable.Proofs.Rendering
import DocTable.Regex.Room
import Mathlib.Data.List.Nodup

namespace DocTable

/-! ### Documents with one entry for each item -/

section Entries

variable {α : Type} (key : α → String) (value : α → Value)

/-- Entries with other keys change nothing. -/
theorem Document.get?_foldl_insert_of_ne {items : List α} {name : String}
    (apart : ∀ item ∈ items, key item ≠ name) (d : Document) :
    (items.foldl (fun d item => Document.insert d (key item) (value item)) d).get? name =
      d.get? name := by
  induction items generalizing d with
  | nil => rfl
  | cons item rest ih =>
    obtain ⟨first, later⟩ := List.forall_mem_cons.mp apart
    rw [List.foldl_cons, ih later, Document.get?_insert_of_ne d (value item) first]

/-- Of entries with one key the last counts. -/
theorem Document.get?_foldl_insert {items : List α} {j : Nat} {last : α}
    (found : items[j]? = some last)
    (apart : ∀ k item, j < k → items[k]? = some item → key item ≠ key last) (d : Document) :
    (items.foldl (fun d item => Document.insert d (key item) (value item)) d).get? (key last) =
      some (value last) := by
  induction items generalizing j d with
  | nil => cases found
  | cons item rest ih =>
    rw [List.foldl_cons]
    cases j with
    | zero =>
      obtain rfl : item = last := Option.some.inj found
      have others : ∀ other ∈ rest, key other ≠ key item := by
        intro other member
        obtain ⟨k, place⟩ := List.mem_iff_getElem?.mp member
        exact apart (k + 1) other (Nat.succ_pos k) place
      rw [Document.get?_foldl_insert_of_ne key value others, Document.get?_insert_self]
    | succ j =>
      exact ih found (fun k other behind place =>
        apart (k + 1) other (Nat.succ_lt_succ behind) place) _

end Entries

/-! ### The last column of a key -/

/-- A column of a table behind which no other one has its key. -/
def TableConfig.IsLast (c : TableConfig) (j : Nat) (column : Column) : Prop :=
  c.columns[j]? = some column ∧
    ∀ k other, j < k → c.columns[k]? = some other → contextKey other.name ≠ contextKey column.name

/-- Every column has one with its key that is the last. -/
theorem TableConfig.exists_isLast {c : TableConfig} {i : Nat} {column : Column}
    (found : c.columns[i]? = some column) :
    ∃ j source, i ≤ j ∧ c.IsLast j source ∧ contextKey source.name = contextKey column.name := by
  by_cases later : ∃ k other, i < k ∧ c.columns[k]? = some other ∧
      contextKey other.name = contextKey column.name
  · obtain ⟨k, other, behind, place, same⟩ := later
    obtain ⟨j, source, reached, last, again⟩ := exists_isLast place
    exact ⟨j, source, Nat.le_trans (Nat.le_of_lt behind) reached, last, again.trans same⟩
  · exact ⟨i, column, Nat.le_refl i, ⟨found, fun k other behind place same =>
      later ⟨k, other, behind, place, same⟩⟩, rfl⟩
termination_by c.columns.length - i
decreasing_by
  obtain ⟨inside, _⟩ := List.getElem?_eq_some_iff.mp place
  omega

/-! ### The texts of columns -/

/-- The text of a cell: formatted as its column does, and written as the column that shows it does. -/
def shownText [Regex.Compiler] (highlight : Bool) (search : String) (own source : Option Format)
    (cell : Value) :
    String :=
  String.ofList (displayed (if highlight then Highlighter.ofTerm? search else none)
    (RowTemplate.columnText ⟨"", own⟩ (RowTemplate.formatted ⟨"", source⟩ cell)))

section Render

variable {c : TableConfig} {t : RowTemplate} (built : RowTemplate.ofConfig c = .ok t)
  {cells : List Value} {j : Nat} {source : Column} {cell : Value}

include built

/-- The value under a key is that of the last column. -/
theorem get?_context (last : c.IsLast j source) (there : cells[j]? = some cell) :
    (t.context cells).get? (contextKey source.name) =
      some (RowTemplate.formatted (.ofColumn source) cell) := by
  obtain ⟨_, columns, _⟩ := parts_of_ofConfig built
  obtain ⟨found, apart⟩ := last
  unfold RowTemplate.context
  rw [columns]
  have pair (k : Nat) (shown : RowColumn) (v : Value) :
      ((c.columns.map RowColumn.ofColumn).zip cells)[k]? = some (shown, v) ↔
        (∃ column, c.columns[k]? = some column ∧ RowColumn.ofColumn column = shown) ∧
          cells[k]? = some v := by
    rw [List.getElem?_zip_eq_some, List.getElem?_map, Option.map_eq_some_iff]
  refine Document.get?_foldl_insert (fun pair : RowColumn × Value => pair.1.key)
    (fun pair => RowTemplate.formatted pair.1 pair.2)
    ((pair j _ cell).mpr ⟨⟨source, found, rfl⟩, there⟩) ?_ []
  rintro k ⟨shown, v⟩ behind place
  obtain ⟨⟨other, listed, rfl⟩, _⟩ := (pair k shown v).mp place
  exact apart k other behind listed

/-- The text of a column is that of the cell of the last column with its key. -/
theorem getElem?_render [Regex.Compiler] (plain : c.row = []) {i : Nat} {column : Column}
    (found : c.columns[i]? = some column) (last : c.IsLast j source)
    (same : contextKey source.name = contextKey column.name) (there : cells[j]? = some cell)
    (search : String) :
    (t.render cells search)[i]? =
      some (shownText c.highlightSearch search column.format source.format cell) := by
  obtain ⟨read, columns, highlight⟩ := parts_of_ofConfig built
  have none : t.templates = [] := by
    have sources := TableConfig.forall₂_templates read
    rw [plain, List.forall₂_nil_left_iff] at sources
    exact sources
  unfold RowTemplate.render
  simp only [none, List.isEmpty_nil, if_true, columns, List.getElem?_map, found, Option.map_some]
  unfold RowTemplate.renderColumn
  rw [show (RowColumn.ofColumn column).key = contextKey source.name from same.symm,
    get?_context built last there, highlight]
  rfl

end Render

/-- A text is not formatted. -/
theorem shownText_of_string [Regex.Compiler] (highlight : Bool) (own source : Option Format)
    (s : String) :
    shownText highlight "" own source (.string s) = String.ofList (Text.htmlEscape s.toList) := by
  cases own <;> cases highlight <;> rcases source with _ | _ | _ <;> rfl

/-! ### Names with different keys -/

/-- A name without dots is its key. -/
theorem contextKey_of_no_dot {name : String} (undotted : '.' ∉ name.toList) :
    contextKey name = name := by
  have same : name.toList.map (fun c => if c = '.' then '_' else c) = name.toList.map id := by
    refine List.map_congr_left fun c member => if_neg ?_
    rintro rfl
    exact undotted member
  rw [contextKey, same, List.map_id, String.ofList_toList]

/-- A name without underscores can be read off its key. -/
theorem toList_of_contextKey {name : String} (plain : '_' ∉ name.toList) :
    (contextKey name).toList.map (fun c => if c = '_' then '.' else c) = name.toList := by
  rw [contextKey, String.toList_ofList, List.map_map]
  refine (List.map_congr_left fun c member => ?_).trans (List.map_id _)
  have other : c ≠ '_' := by
    rintro rfl
    exact plain member
  by_cases dot : c = '.' <;> simp [dot, other]

/-- Where no name has an underscore, or none has a dot, every column is the last with its key. -/
theorem TableConfig.isLast_of_names {c : TableConfig} (distinct : c.fields.Nodup)
    (names : (∀ field ∈ c.fields, '_' ∉ field.toList) ∨ ∀ field ∈ c.fields, '.' ∉ field.toList)
    {i : Nat} {column : Column} (found : c.columns[i]? = some column) : c.IsLast i column := by
  refine ⟨found, fun k other behind place same => ?_⟩
  have field {j : Nat} {one : Column} (here : c.columns[j]? = some one) :
      c.fields[j]? = some one.name := by
    rw [TableConfig.fields, List.getElem?_map, here, Option.map_some]
  have listed := List.mem_of_getElem? (field found)
  have listedOther := List.mem_of_getElem? (field place)
  have equal : other.name = column.name := by
    rcases names with plain | undotted
    · rw [← String.toList_inj, ← toList_of_contextKey (plain _ listedOther), same,
        toList_of_contextKey (plain _ listed)]
    · rw [← contextKey_of_no_dot (undotted _ listedOther), same,
        contextKey_of_no_dot (undotted _ listed)]
  obtain ⟨inside, _⟩ := List.getElem?_eq_some_iff.mp (field place)
  refine List.nodup_iff_getElem?_ne_getElem?.mp distinct i k behind inside ?_
  rw [field found, field place, equal]

/-! ### Rows -/

section Rows

variable [Regex.Compiler] {c : TableConfig} {t : RowTemplate} (built : RowTemplate.ofConfig c = .ok t)
  (plain : c.row = []) {i j : Nat} {column source : Column} (found : c.columns[i]? = some column)

include built plain found

/-- In a row with a cell for each column every text is that of a cell. -/
theorem exists_cell_of_render (last : c.IsLast j source)
    (same : contextKey source.name = contextKey column.name) {cells : List Value}
    (length : cells.length = c.columns.length) (search : String) :
    ∃ cell, cells[j]? = some cell ∧ (t.render cells search)[i]? =
      some (shownText c.highlightSearch search column.format source.format cell) := by
  have inside : j < cells.length := length ▸ (List.getElem?_eq_some_iff.mp last.1).1
  have there : cells[j]? = some cells[j] := List.getElem?_eq_getElem inside
  exact ⟨_, there, getElem?_render built plain found last same there search⟩

/-- Replacing the cell of another column changes a text if that column is the last with the key. -/
theorem exists_rows_apart (last : c.IsLast j source)
    (same : contextKey source.name = contextKey column.name) (apart : j ≠ i) :
    ∃ cells others : List Value, cells.length = c.columns.length ∧
      others.length = c.columns.length ∧ cells[i]? = others[i]? ∧
      (t.render cells "")[i]? ≠ (t.render others "")[i]? := by
  have inside : j < c.columns.length := (List.getElem?_eq_some_iff.mp last.1).1
  refine ⟨List.replicate c.columns.length (.string ""),
    (List.replicate c.columns.length (.string "")).set j (.string "x"), List.length_replicate,
    by rw [List.length_set, List.length_replicate], (List.getElem?_set_ne apart).symm, ?_⟩
  rw [getElem?_render built plain found last same (List.getElem?_replicate_of_lt inside),
    getElem?_render built plain found last same (List.getElem?_set_self (by simpa using inside)),
    shownText_of_string, shownText_of_string]
  decide

/-- **A text depends on its own cell alone** exactly if its column is the last with the key. -/
theorem isLast_iff_alone :
    c.IsLast i column ↔ ∀ (cells others : List Value) (search : String),
      cells.length = c.columns.length → others.length = c.columns.length →
      cells[i]? = others[i]? → (t.render cells search)[i]? = (t.render others search)[i]? := by
  constructor
  · intro last cells others search length size here
    obtain ⟨cell, there, shown⟩ := exists_cell_of_render built plain found last rfl length search
    obtain ⟨other, place, shownOther⟩ := exists_cell_of_render built plain found last rfl size search
    cases there.symm.trans (here.trans place)
    rw [shown, shownOther]
  · intro alone
    obtain ⟨j, source, _, last, same⟩ := TableConfig.exists_isLast found
    by_cases apart : j = i
    · subst apart
      cases last.1.symm.trans found
      exact last
    · obtain ⟨cells, others, length, size, here, differ⟩ :=
        exists_rows_apart built plain found last same apart
      exact absurd (alone cells others "" length size here) differ

end Rows

/-- **Each cell in its own column.** A table without templates shows in each column the cell of the last
column with the same key, in the format of that column, and nothing else of the row goes into the text.
So a text depends on the cell of its own column alone exactly if no later column has the key. In a
definition that passed its checks this is so for all columns if no name has an underscore, or none has a
dot. -/
theorem render_own_cell [Regex.Compiler] (c : TableConfig) (valid : c.validate = .ok ())
    (plain : c.row = []) :
    ∃ t, RowTemplate.ofConfig c = .ok t ∧
      ∀ i column, c.columns[i]? = some column →
        (∃ j source, i ≤ j ∧ c.IsLast j source ∧ contextKey source.name = contextKey column.name) ∧
        (∀ j source, c.IsLast j source → contextKey source.name = contextKey column.name →
          ∀ cells search, cells.length = c.columns.length → ∃ cell, cells[j]? = some cell ∧
            (t.render cells search)[i]? =
              some (shownText c.highlightSearch search column.format source.format cell)) ∧
        (c.IsLast i column ↔ ∀ (cells others : List Value) (search : String),
          cells.length = c.columns.length → others.length = c.columns.length →
          cells[i]? = others[i]? → (t.render cells search)[i]? = (t.render others search)[i]?) ∧
        ((∀ field ∈ c.fields, '_' ∉ field.toList) ∨ (∀ field ∈ c.fields, '.' ∉ field.toList) →
          c.IsLast i column) := by
  obtain ⟨t, built⟩ := exists_rowTemplate valid
  refine ⟨t, built, fun i column found => ⟨TableConfig.exists_isLast found, ?_,
    isLast_iff_alone built plain found, fun names => ?_⟩⟩
  · intro j source last same cells search length
    exact exists_cell_of_render built plain found last same length search
  · exact TableConfig.isLast_of_names (TableConfig.checked_of_validate valid).distinct names found

/-- A name, a city and a length of time, in a search for letters of the name. -/
theorem render_own_cell_people :
    let c : TableConfig :=
      { collection := "people", maxRows := 0
        columns := [⟨"name", none⟩, ⟨"address.city", none⟩, ⟨"worked", some .duration⟩]
        searchFields := [], row := [], highlightSearch := true, filters := [], rawFilter := none
        pipeline := [], timeoutMillis := none }
    c.validate = .ok () ∧ c.row = [] ∧ ∃ t, RowTemplate.ofConfig c = .ok t ∧
      t.render [.string "Bo", .string "Ghent", .int32 5400] "bo" =
        ["<span class=\"textHighlighted\">Bo</span>", "Ghent", "1h 30m 0s"] ∧
      c.IsLast 1 ⟨"address.city", none⟩ ∧
      ∀ name seconds : Value,
        (t.render [name, .string "Ghent", seconds] "")[1]? =
          (t.render [.null, .string "Ghent", .null] "")[1]? := by
  intro c
  have valid : c.validate = .ok () := rfl
  obtain ⟨t, built, texts⟩ := render_own_cell c valid rfl
  obtain ⟨_, _, alone, names⟩ := texts 1 ⟨"address.city", none⟩ rfl
  have last : c.IsLast 1 ⟨"address.city", none⟩ := names (.inl (by decide))
  refine ⟨valid, rfl, t, built, ?_, last, fun name seconds => alone.mp last _ _ "" rfl rfl rfl⟩
  cases built
  decide +kernel

/-- Two columns that passed the checks and have one key: the first shows the cell of the second. -/
theorem render_namesake_cell :
    ¬∀ (c : TableConfig) (t : RowTemplate), c.validate = .ok () → c.row = [] →
      RowTemplate.ofConfig c = .ok t → ∀ (cells others : List Value) (search : String) (i : Nat),
        cells.length = c.columns.length → others.length = c.columns.length →
        cells[i]? = others[i]? → (t.render cells search)[i]? = (t.render others search)[i]? := by
  intro own
  let c : TableConfig :=
    { collection := "people", maxRows := 0
      columns := [⟨"address.city", none⟩, ⟨"address_city", none⟩]
      searchFields := [], row := [], highlightSearch := false, filters := [], rawFilter := none
      pipeline := [], timeoutMillis := none }
  let t : RowTemplate := ⟨[⟨"address_city", none⟩, ⟨"address_city", none⟩], [], false⟩
  have valid : c.validate = .ok () := rfl
  have built : RowTemplate.ofConfig c = .ok t := rfl
  have ghent : t.render [.string "Berlin", .string "Ghent"] "" = ["Ghent", "Ghent"] := by
    decide +kernel
  have oslo : t.render [.string "Berlin", .string "Oslo"] "" = ["Oslo", "Oslo"] := by
    decide +kernel
  have texts := own c t valid rfl built [.string "Berlin", .string "Ghent"]
    [.string "Berlin", .string "Oslo"] "" 0 rfl rfl rfl
  rw [ghent, oslo] at texts
  exact absurd texts (by decide)

end DocTable
