/-
**What a client can put into a query.**

A request chooses a window, a term and an order; all paths of its query are those of the definition.

* `sort_mem_fields`: every field to sort by is a column, whatever the order entries say;
* `decodeLength_bounds`: the size of a page keeps within the bound of the table;
* `decodeRequest_from_config`: the whole contract, refusals included.
-/

import DocTable.Proofs.Checked
import DocTable.Regex.Room
import DocTable.Table.Grid

namespace DocTable

open Web (Params)

/-! ### The order -/

theorem mem_addSort {sorts : List SortField} {sort other : SortField}
    (member : other ∈ addSort sorts sort) : other ∈ sorts ∨ other = sort := by
  unfold addSort at member
  split at member
  · exact Or.inl member
  · rcases List.mem_append.mp member with old | new
    · exact Or.inl old
    · exact Or.inr (List.mem_singleton.mp new)

/-- The column that an order entry names stands in the definition at its place. -/
theorem getElem?_of_decodeOrderColumn {c : TableConfig} {raw : String} {place : Nat × Column}
    (decoded : decodeOrderColumn c raw = .ok place) : c.columns[place.1]? = some place.2 := by
  obtain ⟨index, _, decoded⟩ := bind_eq_ok.mp decoded
  cases found : c.columns[index.toNat]? with
  | none =>
    simp only [found] at decoded
    cases decoded
  | some column =>
    simp only [found] at decoded
    cases decoded
    exact found

/-- **One order entry** adds no field but a column. -/
theorem sort_mem_fields_of_addOrderEntry {p : Params} {c : TableConfig} {sorts more : List SortField}
    {entry : Nat} {raw : String} (known : ∀ sort ∈ sorts, sort.field ∈ c.fields)
    (added : addOrderEntry p c sorts entry raw = .ok more) :
    ∀ sort ∈ more, sort.field ∈ c.fields := by
  obtain ⟨⟨index, column⟩, decoded, added⟩ := bind_eq_ok.mp added
  have place := getElem?_of_decodeOrderColumn decoded
  by_cases unorderable : isUnorderable p index
  · simp only [if_pos unorderable] at added
    cases added
    exact known
  · simp only [if_neg unorderable] at added
    obtain ⟨direction, _, added⟩ := bind_eq_ok.mp added
    cases added
    intro sort member
    rcases mem_addSort member with old | rfl
    · exact known sort old
    · exact List.mem_map.mpr ⟨column, List.mem_of_getElem? place, rfl⟩

/-- **All order entries**: every field to sort by is a column. -/
theorem sort_mem_fields {p : Params} {c : TableConfig} {sorts : List SortField}
    (decoded : decodeOrder p c = .ok sorts) : ∀ sort ∈ sorts, sort.field ∈ c.fields := by
  have entries : ∀ (fuel entry : Nat) (before : List SortField),
      (∀ sort ∈ before, sort.field ∈ c.fields) →
      decodeOrderFrom p c fuel entry before = .ok sorts → ∀ sort ∈ sorts, sort.field ∈ c.fields := by
    intro fuel
    induction fuel with
    | zero =>
      intro entry before known ended
      cases ended
      exact known
    | succ fuel ih =>
      intro entry before known read
      unfold decodeOrderFrom at read
      cases named : p.get? (numberedKey "order" entry "column") with
      | none =>
        simp only [named] at read
        cases read
        exact known
      | some raw =>
        by_cases empty : raw = ""
        · simp only [named, if_pos empty] at read
          cases read
          exact known
        · simp only [named, if_neg empty] at read
          obtain ⟨more, added, read⟩ := bind_eq_ok.mp read
          exact ih (entry + 1) more (sort_mem_fields_of_addOrderEntry known added) read
  exact entries (p.entries.length + 1) 0 [] (fun sort member => absurd member List.not_mem_nil) decoded

/-! ### The window -/

theorem one_le_of_ne_zero {n : UInt64} (notZero : n ≠ 0) : 1 ≤ n := by
  have counted : n.toNat ≠ 0 := fun zero => notZero (UInt64.toNat_inj.mp zero)
  exact UInt64.le_iff_toNat_le.mpr (Nat.one_le_iff_ne_zero.mpr counted)

/-- **The size of a page** keeps within the bound of the table, and a bounded page has a row. -/
theorem decodeLength_bounds {length : Option String} {bound limit : UInt64}
    (decoded : decodeLength length bound = .ok limit) (bounded : 0 < bound) :
    1 ≤ limit ∧ limit ≤ bound := by
  have notZero : bound ≠ 0 := UInt64.pos_iff_ne_zero.mp bounded
  obtain ⟨requested, _, decoded⟩ := bind_eq_ok.mp decoded
  simp only [if_neg notZero] at decoded
  by_cases all : requested = 0
  · simp only [if_pos all] at decoded
    cases decoded
    exact ⟨one_le_of_ne_zero notZero, UInt64.le_refl _⟩
  · by_cases tooLong : bound < requested
    · simp only [if_neg all, if_pos tooLong] at decoded
      cases decoded
    · simp only [if_neg all, if_neg tooLong] at decoded
      cases decoded
      exact ⟨one_le_of_ne_zero all, UInt64.not_lt.mp tooLong⟩

/-! ### The query -/

/-- A decoded query: the definition gives all paths and filters, the request gives the window, the
order and the term. -/
theorem parts_of_decodeRequest {p : Params} {c : TableConfig} {q : Query}
    (decoded : decodeRequest p c = .ok q) :
    ∃ offset limit sort, decodeStart (p.get? "start") = .ok offset ∧
      decodeLength (p.get? "length") c.maxRows = .ok limit ∧ checkColumns p c = .ok () ∧
      decodeOrder p c = .ok sort ∧
      q = { table := c.collection, fields := c.fields, filters := c.filters
            rawFilter := c.rawFilter, sort, limit, offset
            search := (p.get? "search[value]").getD "", searchFields := c.searchFields
            pipeline := c.pipeline } := by
  obtain ⟨offset, start, decoded⟩ := bind_eq_ok.mp decoded
  obtain ⟨limit, length, decoded⟩ := bind_eq_ok.mp decoded
  obtain ⟨_, columns, decoded⟩ := bind_eq_ok.mp decoded
  obtain ⟨sort, order, decoded⟩ := bind_eq_ok.mp decoded
  cases decoded
  exact ⟨offset, limit, sort, start, length, columns, order, rfl⟩

/-- The parts that the names and the bound of a definition have a say in. -/
theorem eq_of_decodeRequest {p : Params} {c : TableConfig} {q : Query}
    (decoded : decodeRequest p c = .ok q) :
    ∃ offset limit sort, decodeLength (p.get? "length") c.maxRows = .ok limit ∧
      decodeOrder p c = .ok sort ∧
      q = { table := c.collection, fields := c.fields, filters := c.filters
            rawFilter := c.rawFilter, sort, limit, offset
            search := (p.get? "search[value]").getD "", searchFields := c.searchFields
            pipeline := c.pipeline } := by
  obtain ⟨offset, limit, sort, _, length, _, order, same⟩ := parts_of_decodeRequest decoded
  exact ⟨offset, limit, sort, length, order, same⟩

/-- **The field-name contract.** A query that a request is decoded to has the collection, the paths,
the filters and the pipeline of the definition and sorts by columns only; its page keeps within the
bound of the table, and its checks fail at most by its window. A request that is not decoded is
refused for its input, before any read. -/
theorem decodeRequest_from_config [Regex.Compiler] (c : TableConfig) (p : Params)
    (valid : c.validate = .ok ()) :
    (∀ q, decodeRequest p c = .ok q →
      q.table = c.collection ∧ q.fields = c.fields ∧ q.filters = c.filters ∧
      q.rawFilter = c.rawFilter ∧ q.searchFields = c.searchFields ∧ q.pipeline = c.pipeline ∧
      (∀ sort ∈ q.sort, sort.field ∈ c.fields) ∧
      (0 < c.maxRows → 1 ≤ q.limit ∧ q.limit ≤ c.maxRows) ∧
      (q.validate = .ok () ∨ q.validate = .error (.invalidWindow q.offset q.limit))) ∧
    (∀ fault, decodeRequest p c = .error fault → ∀ renderer s cancelled,
      Table.answer ⟨c, renderer⟩ s cancelled p = ([], .failed (.invalidInput fault))) := by
  have checked := TableConfig.checked_of_validate valid
  constructor
  · intro q decoded
    obtain ⟨offset, limit, sort, length, order, rfl⟩ := eq_of_decodeRequest decoded
    have columns := sort_mem_fields order
    refine ⟨rfl, rfl, rfl, rfl, rfl, rfl, columns, decodeLength_bounds length, ?_⟩
    exact Query.validate_of_paths checked.collection checked.paths
      (fun sort member => checked.paths _ (columns sort member))
      (fun filter member => checked.paths _ (checked.filters filter member))
  · intro fault refused renderer s cancelled
    unfold Table.answer
    rw [refused]

/-- A column named by an odd spelling of its place, and one named by a path that is no place. -/
theorem decodeRequest_from_config_accounts :
    let c : TableConfig :=
      { collection := "accounts", maxRows := 50
        columns := [⟨"name", none⟩, ⟨"status", none⟩, ⟨"address.city", some .duration⟩]
        searchFields := ["name"], row := ["\x7b\x7bname\x7d\x7d"], highlightSearch := true
        filters := [⟨"status", .string "active"⟩], rawFilter := none, pipeline := []
        timeoutMillis := none }
    let odd : Params :=
      ⟨[("length", "-1"), ("order[0][column]", " +02"), ("order[0][dir]", "desc")]⟩
    let q : Query := { (default : Query) with
      table := "accounts", fields := c.fields, filters := c.filters, searchFields := ["name"]
      sort := [⟨"address.city", .desc⟩], limit := 50 }
    let foreign : Params := ⟨[("order[0][column]", "password")]⟩
    let fault : InputFault := .notANumber "order column" "password"
    c.validate = .ok () ∧ decodeRequest odd c = .ok q ∧
      decodeRequest foreign c = .error fault ∧
      (∀ sort ∈ q.sort, sort.field ∈ c.fields) ∧
      (0 < c.maxRows → 1 ≤ q.limit ∧ q.limit ≤ c.maxRows) ∧
      (q.validate = .ok () ∨ q.validate = .error (.invalidWindow q.offset q.limit)) ∧
      Table.answer ⟨c, .plain⟩ (Store.empty ⟨0⟩).source false foreign =
        ([], .failed (.invalidInput fault)) := by
  intro c odd q foreign fault
  have valid : c.validate = .ok () := rfl
  have decoded : decodeRequest odd c = .ok q := rfl
  have refused : decodeRequest foreign c = .error fault := rfl
  obtain ⟨_, _, _, _, _, _, columns, window, checked⟩ :=
    (decodeRequest_from_config c odd valid).1 q decoded
  exact ⟨valid, decoded, refused, columns, window, checked,
    (decodeRequest_from_config c foreign valid).2 fault refused _ _ _⟩

end DocTable
