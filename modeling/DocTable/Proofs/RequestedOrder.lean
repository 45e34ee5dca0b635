/-
**The order that a request asks for.**

The order entries of a request are read up to the first one without a column. Each names a column by its
place, and unless the request takes this column out of sorting it asks for its field in some direction. Of
the entries that ask for one field the first one counts.

* `fields_foldl_addSort`, `find?_of_mem_foldl_addSort`: what keeping the first of each field makes;
* `addOrderEntry_ok_iff`, `decodeOrderFrom_ok_iff`: reading one entry, and some;
* `sort_of_order_entries`: the fields that a decoded request sorts by.
-/

import DocTable.Proofs.Decoding
import DocTable.Proofs.Numbered
import Mathlib.Data.List.Induction

namespace DocTable

open Web (Params)

/-! ### The first of each field -/

theorem addSort_eq (sorts : List SortField) (sort : SortField) :
    addSort sorts sort =
      if sort.field ∈ sorts.map (·.field) then sorts else sorts ++ [sort] := by
  simp [addSort]

theorem eraseDups_append_singleton (fields : List String) (field : String) :
    (fields ++ [field]).eraseDups =
      if field ∈ fields then fields.eraseDups else fields.eraseDups ++ [field] := by
  rw [List.eraseDups_append, List.removeAll]
  by_cases known : field ∈ fields <;> simp [known, List.eraseDups_cons]

/-- The fields that are kept stand in the order of their first appearance. -/
theorem fields_foldl_addSort (sorts : List SortField) :
    (sorts.foldl addSort []).map (·.field) = (sorts.map (·.field)).eraseDups := by
  induction sorts using List.reverseRecOn with
  | nil => rfl
  | append_singleton sorts sort ih =>
    rw [List.foldl_append, List.map_append, List.map_singleton, eraseDups_append_singleton, ← ih]
    show (addSort (sorts.foldl addSort []) sort).map (·.field) = _
    rw [addSort_eq, ih]
    simp only [List.mem_eraseDups]
    split
    · exact ih
    · rw [List.map_append, ih]
      rfl

/-- One more sort is kept if its field is a new one. -/
theorem foldl_addSort_append_singleton (sorts : List SortField) (sort : SortField) :
    (sorts ++ [sort]).foldl addSort [] =
      if sort.field ∈ sorts.map (·.field) then sorts.foldl addSort []
      else sorts.foldl addSort [] ++ [sort] := by
  rw [List.foldl_append]
  show addSort (sorts.foldl addSort []) sort = _
  rw [addSort_eq, fields_foldl_addSort]
  simp only [List.mem_eraseDups]

/-- No field is kept twice. -/
theorem nodup_foldl_addSort (sorts : List SortField) :
    ((sorts.foldl addSort []).map (·.field)).Nodup := by
  induction sorts using List.reverseRecOn with
  | nil => exact List.nodup_nil
  | append_singleton sorts sort ih =>
    rw [foldl_addSort_append_singleton]
    split
    · exact ih
    · next fresh =>
      rw [← List.mem_eraseDups, ← fields_foldl_addSort] at fresh
      rw [List.map_append]
      exact List.nodup_append_comm.mp (List.nodup_cons.mpr ⟨fresh, ih⟩)

/-- A sort that is kept is the first one of its field. -/
theorem find?_of_mem_foldl_addSort {sorts : List SortField} {sort : SortField}
    (member : sort ∈ sorts.foldl addSort []) : sorts.find? (·.field == sort.field) = some sort := by
  induction sorts using List.reverseRecOn with
  | nil => cases member
  | append_singleton sorts last ih =>
    rw [foldl_addSort_append_singleton] at member
    rw [List.find?_append]
    split at member
    · rw [ih member]
      rfl
    · next fresh =>
      rcases List.mem_append.mp member with old | new
      · rw [ih old]
        rfl
      · rw [List.mem_singleton.mp new]
        have absent : sorts.find? (·.field == last.field) = none := by simpa using fresh
        simp [absent]

/-! ### Order entries -/

/-- A list of order entries ends where there is no column, or an empty one. -/
def EndsOrder (p : Params) (entry : Nat) : Prop :=
  p.get? (numberedKey "order" entry "column") = none ∨
    p.get? (numberedKey "order" entry "column") = some ""

instance (p : Params) (entry : Nat) : Decidable (EndsOrder p entry) :=
  inferInstanceAs (Decidable (p.get? _ = none ∨ p.get? _ = some ""))

/-- The place that an order entry names, however it is written. -/
def orderPlace? (p : Params) (entry : Nat) : Option Nat :=
  (p.get? (numberedKey "order" entry "column")).bind fun raw =>
    (readUInt64? (Text.trim raw).toList).map UInt64.toNat

/-- The directions that order entries may have, by their texts; ascending is the default. -/
def directions : List (Option String × Direction) :=
  [(none, .asc), (some "", .asc), (some "asc", .asc), (some "desc", .desc)]

/-- The direction of an order entry. -/
def orderDirection? (p : Params) (entry : Nat) : Option Direction :=
  directions.lookup (p.get? (numberedKey "order" entry "dir"))

/-- A request takes the column at a place out of sorting. -/
def Unorderable (p : Params) (place : Nat) : Prop :=
  p.get? (numberedKey "columns" place "orderable") = some "false"

instance (p : Params) (place : Nat) : Decidable (Unorderable p place) :=
  inferInstanceAs (Decidable (p.get? _ = some "false"))

/-- An order entry that can be read: it names a column of the definition and, if this column can be
sorted by, a direction. -/
def ReadsOrder (p : Params) (c : TableConfig) (entry : Nat) : Prop :=
  ∃ place column, orderPlace? p entry = some place ∧ c.columns[place]? = some column ∧
    (Unorderable p place ∨ (orderDirection? p entry).isSome)

/-- What an order entry asks for: nothing if its column is taken out of sorting. -/
def askedSort? (p : Params) (c : TableConfig) (entry : Nat) : Option SortField := do
  let place ← orderPlace? p entry
  let column ← c.columns[place]?
  if Unorderable p place then none
  else
    let direction ← orderDirection? p entry
    return ⟨column.name, direction⟩

/-- What the first order entries ask for. -/
def askedSorts (p : Params) (c : TableConfig) (n : Nat) : List SortField :=
  (List.range n).filterMap (askedSort? p c)

variable {p : Params} {c : TableConfig}

theorem decodeOrderColumn_ok_iff {entry : Nat} {raw : String} {found : Nat × Column}
    (named : p.get? (numberedKey "order" entry "column") = some raw) :
    decodeOrderColumn c raw = .ok found ↔
      orderPlace? p entry = some found.1 ∧ c.columns[found.1]? = some found.2 := by
  obtain ⟨place, column⟩ := found
  constructor
  · intro decoded
    refine ⟨?_, getElem?_of_decodeOrderColumn decoded⟩
    obtain ⟨index, read, decoded⟩ := bind_eq_ok.mp decoded
    have same : index.toNat = place := by
      split at decoded
      · exact congrArg Prod.fst (Except.ok.inj decoded)
      · cases decoded
    unfold decodeNumber at read
    split at read
    · next number =>
      cases read
      simp [orderPlace?, named, number, same]
    · cases read
  · rintro ⟨placed, configured⟩
    simp only [orderPlace?, named, Option.bind_some, Option.map_eq_some_iff] at placed
    obtain ⟨index, number, rfl⟩ := placed
    simp only [decodeOrderColumn, decodeNumber, number, bind, Except.bind, configured]
    rfl

theorem decodeDirection_ok_iff {entry : Nat} {direction : Direction} :
    decodeDirection (p.get? (numberedKey "order" entry "dir")) = .ok direction ↔
      orderDirection? p entry = some direction := by
  unfold decodeDirection orderDirection? directions
  cases p.get? (numberedKey "order" entry "dir") with
  | none => simp
  | some raw =>
    by_cases empty : raw = ""
    · simp [List.lookup_cons, empty]
    · by_cases ascending : raw = "asc"
      · simp [List.lookup_cons, ascending]
      · by_cases descending : raw = "desc"
        · simp [List.lookup_cons, descending]
        · simp [List.lookup_cons, empty, ascending, descending, beq_false_of_ne]

/-- What an entry for a column asks for. -/
theorem askedSort?_eq {entry place : Nat} {column : Column}
    (placed : orderPlace? p entry = some place) (configured : c.columns[place]? = some column) :
    askedSort? p c entry =
      if Unorderable p place then none
      else (orderDirection? p entry).map fun direction => ⟨column.name, direction⟩ := by
  simp [askedSort?, placed, configured, Option.map_eq_bind]

/-- What an entry asks for is the name of a column that can be sorted by. -/
theorem exists_of_askedSort? {entry : Nat} {sort : SortField}
    (asked : askedSort? p c entry = some sort) :
    ∃ place column, c.columns[place]? = some column ∧ ¬Unorderable p place ∧
      column.name = sort.field := by
  obtain ⟨place, placed, column, configured, asked⟩ : ∃ place, orderPlace? p entry = some place ∧
      ∃ column, c.columns[place]? = some column ∧ askedSort? p c entry = some sort := by
    obtain ⟨place, placed, later⟩ := Option.bind_eq_some_iff.mp asked
    obtain ⟨column, configured, _⟩ := Option.bind_eq_some_iff.mp later
    exact ⟨place, placed, column, configured, asked⟩
  rw [askedSort?_eq placed configured] at asked
  split at asked
  · cases asked
  · next orderable =>
    obtain ⟨direction, _, rfl⟩ := Option.map_eq_some_iff.mp asked
    exact ⟨place, column, configured, orderable, rfl⟩

/-- **One order entry** adds what it asks for, if it can be read. -/
theorem addOrderEntry_ok_iff {entry : Nat} {raw : String} {sorts more : List SortField}
    (named : p.get? (numberedKey "order" entry "column") = some raw) :
    addOrderEntry p c sorts entry raw = .ok more ↔
      ReadsOrder p c entry ∧ more = (askedSort? p c entry).toList.foldl addSort sorts := by
  have unorderable_iff (place : Nat) : isUnorderable p place = true ↔ Unorderable p place := by
    simp [isUnorderable, Unorderable]
  constructor
  · intro added
    obtain ⟨⟨place, column⟩, decoded, added⟩ := bind_eq_ok.mp added
    obtain ⟨placed, configured⟩ := (decodeOrderColumn_ok_iff named).mp decoded
    rw [askedSort?_eq placed configured]
    by_cases unorderable : Unorderable p place
    · simp only [unorderable_iff, if_pos unorderable] at added
      cases added
      exact ⟨⟨place, column, placed, configured, Or.inl unorderable⟩, by simp [unorderable]⟩
    · simp only [unorderable_iff, if_neg unorderable] at added
      obtain ⟨direction, directed, added⟩ := bind_eq_ok.mp added
      cases added
      have asked := decodeDirection_ok_iff.mp directed
      exact ⟨⟨place, column, placed, configured, Or.inr (by simp [asked])⟩,
        by simp [unorderable, asked]⟩
  · rintro ⟨⟨place, column, placed, configured, readable⟩, rfl⟩
    refine bind_eq_ok.mpr
      ⟨(place, column), (decodeOrderColumn_ok_iff named).mpr ⟨placed, configured⟩, ?_⟩
    rw [askedSort?_eq placed configured]
    by_cases unorderable : Unorderable p place
    · simp only [unorderable_iff, if_pos unorderable]
      rfl
    · obtain ⟨direction, asked⟩ :=
        Option.isSome_iff_exists.mp (readable.resolve_left unorderable)
      simp only [unorderable_iff, if_neg unorderable, asked]
      exact bind_eq_ok.mpr ⟨direction, decodeDirection_ok_iff.mpr asked, rfl⟩

/-- Reading stops at the end of the list. -/
theorem decodeOrderFrom_of_ends {fuel first : Nat} {before : List SortField}
    (ends : EndsOrder p first) : decodeOrderFrom p c (fuel + 1) first before = .ok before := by
  unfold decodeOrderFrom
  rcases ends with missing | empty
  · rw [missing]
  · rw [empty]
    rfl

/-- Reading goes on behind an entry that can be read. -/
theorem decodeOrderFrom_succ_ok_iff {fuel first : Nat} {before sorts : List SortField}
    (goesOn : ¬EndsOrder p first) :
    decodeOrderFrom p c (fuel + 1) first before = .ok sorts ↔
      ReadsOrder p c first ∧
        decodeOrderFrom p c fuel (first + 1)
          ((askedSort? p c first).toList.foldl addSort before) = .ok sorts := by
  obtain ⟨raw, named⟩ := Option.ne_none_iff_exists'.mp fun missing => goesOn (Or.inl missing)
  have nonempty : raw ≠ "" := fun empty => goesOn (Or.inr (empty ▸ named))
  rw [decodeOrderFrom, named]
  simp only [if_neg nonempty]
  constructor
  · intro read
    obtain ⟨more, added, read⟩ := bind_eq_ok.mp read
    obtain ⟨readable, rfl⟩ := (addOrderEntry_ok_iff named).mp added
    exact ⟨readable, read⟩
  · rintro ⟨readable, read⟩
    exact bind_eq_ok.mpr ⟨_, (addOrderEntry_ok_iff named).mpr ⟨readable, rfl⟩, read⟩

/-- **Some order entries** from one on, up to the end of their list, add what they ask for, if each of
them can be read. -/
theorem decodeOrderFrom_ok_iff {n fuel first : Nat} {before sorts : List SortField}
    (goesOn : ∀ i < n, ¬EndsOrder p (first + i)) (ends : EndsOrder p (first + n))
    (enough : n < fuel) :
    decodeOrderFrom p c fuel first before = .ok sorts ↔
      (∀ i < n, ReadsOrder p c (first + i)) ∧
        ((List.range n).filterMap fun i => askedSort? p c (first + i)).foldl addSort before =
          sorts := by
  induction n generalizing fuel first before with
  | zero =>
    obtain ⟨fuel, rfl⟩ := Nat.exists_eq_add_one.mpr enough
    have here : EndsOrder p first := ends
    rw [decodeOrderFrom_of_ends here]
    simp
  | succ n ih =>
    obtain ⟨fuel, rfl⟩ := Nat.exists_eq_add_one.mpr (Nat.zero_lt_of_lt enough)
    have next (i : Nat) : first + 1 + i = first + (i + 1) := by omega
    have here : ¬EndsOrder p first := goesOn 0 (Nat.succ_pos n)
    rw [decodeOrderFrom_succ_ok_iff here,
      ih (fun i below => next i ▸ goesOn (i + 1) (Nat.succ_lt_succ below)) (next n ▸ ends)
        (Nat.lt_of_succ_lt_succ enough),
      Nat.forall_lt_succ_left, and_assoc, List.range_succ_eq_map, List.filterMap_cons]
    simp only [next, List.filterMap_map, Function.comp_def, Nat.add_zero]
    cases askedSort? p c first <;> rfl

/-- **The order of a request** is what its entries ask for, the first one of each field counting. -/
theorem exists_decodeOrder_ok_iff (p : Params) (c : TableConfig) :
    ∃ n, IsLeast {entry | EndsOrder p entry} n ∧ ∀ sorts, decodeOrder p c = .ok sorts ↔
      (∀ entry < n, ReadsOrder p c entry) ∧ (askedSorts p c n).foldl addSort [] = sorts := by
  have named (entry : Nat) (goesOn : ¬EndsOrder p entry) :
      (p.get? (numberedKey "order" entry "column")).isSome :=
    Option.ne_none_iff_isSome.mp fun missing => goesOn (Or.inl missing)
  obtain ⟨n, bounded, least⟩ := exists_isLeast_end named
  refine ⟨n, least, fun sorts => ?_⟩
  have goesOn : ∀ i < n, ¬EndsOrder p (0 + i) := fun i below ends =>
    Nat.not_lt.mpr (least.2 (Nat.zero_add i ▸ ends)) below
  have ends : EndsOrder p (0 + n) := (Nat.zero_add n).symm ▸ least.1
  unfold decodeOrder
  rw [decodeOrderFrom_ok_iff goesOn ends (Nat.lt_succ_of_le bounded)]
  simp only [Nat.zero_add]
  rfl

/-! ### The order of a query -/

/-- **The order that a request asks for.** The order entries of a decoded request, up to the first one
without a column or with an empty one, name columns of the definition. Its query sorts by no field twice
and by no column that the request takes out of sorting, whatever text named its place. It sorts by what the
other entries ask for, in the order in which their fields first appear, and in the direction that the
first entry of a field asks for. -/
theorem sort_of_order_entries {q : Query} (valid : c.validate = .ok ())
    (decoded : decodeRequest p c = .ok q) :
    ∃ n, IsLeast {entry | EndsOrder p entry} n ∧ (∀ entry < n, ReadsOrder p c entry) ∧
      (q.sort.map (·.field)).Nodup ∧
      (∀ place column, c.columns[place]? = some column → Unorderable p place →
        column.name ∉ q.sort.map (·.field)) ∧
      q.sort.map (·.field) = ((askedSorts p c n).map (·.field)).eraseDups ∧
      ∀ sort ∈ q.sort, (askedSorts p c n).find? (·.field == sort.field) = some sort := by
  obtain ⟨_, _, sorts, _, _, _, order, rfl⟩ := parts_of_decodeRequest decoded
  obtain ⟨n, least, read⟩ := exists_decodeOrder_ok_iff p c
  obtain ⟨readable, rfl⟩ := (read sorts).mp order
  refine ⟨n, least, readable, nodup_foldl_addSort _, ?_, fields_foldl_addSort _,
    fun sort member => find?_of_mem_foldl_addSort member⟩
  intro place column configured unorderable kept
  obtain ⟨sort, member, same⟩ := List.mem_map.mp kept
  obtain ⟨entry, _, asked⟩ :=
    List.mem_filterMap.mp (List.mem_of_find?_eq_some (find?_of_mem_foldl_addSort member))
  obtain ⟨other, named, there, orderable, name⟩ := exists_of_askedSort? asked
  have here : c.fields[place]? = some sort.field := by simp [TableConfig.fields, configured, same]
  have also : c.fields[other]? = some sort.field := by simp [TableConfig.fields, there, name]
  obtain ⟨inside, _⟩ := List.getElem?_eq_some_iff.mp here
  have distinct := (TableConfig.checked_of_validate valid).distinct
  exact orderable ((List.getElem?_inj inside distinct).mp (here.trans also.symm) ▸ unorderable)

/-- Odd spellings of places, a column that is taken out of sorting, one that is named twice, and an entry
behind the end. -/
theorem sort_of_order_entries_accounts :
    let c : TableConfig :=
      { collection := "accounts", maxRows := 50
        columns := [⟨"name", none⟩, ⟨"status", none⟩, ⟨"address.city", none⟩]
        searchFields := [], row := [], highlightSearch := false, filters := []
        rawFilter := none, pipeline := [], timeoutMillis := none }
    let p : Params :=
      ⟨[("order[0][column]", " +02"), ("order[0][dir]", "desc"), ("order[1][column]", "00"),
        ("order[1][dir]", "up"), ("columns[0][orderable]", "false"), ("order[2][column]", "1"),
        ("order[3][column]", "2"), ("order[3][dir]", "asc"), ("order[4][column]", ""),
        ("order[5][column]", "9")]⟩
    let q : Query := { (default : Query) with
      table := "accounts", fields := ["name", "status", "address.city"], limit := 50
      sort := [⟨"address.city", .desc⟩, ⟨"status", .asc⟩] }
    let asked : List SortField := [⟨"address.city", .desc⟩, ⟨"status", .asc⟩, ⟨"address.city", .asc⟩]
    c.validate = .ok () ∧ decodeRequest p c = .ok q ∧ askedSorts p c 4 = asked ∧
      IsLeast {entry | EndsOrder p entry} 4 ∧ (∀ entry < 4, ReadsOrder p c entry) ∧
      "name" ∉ q.sort.map (·.field) ∧ q.sort.map (·.field) = (asked.map (·.field)).eraseDups ∧
      ∀ sort ∈ q.sort, asked.find? (·.field == sort.field) = some sort := by
  intro c p q asked
  have valid : c.validate = .ok () := rfl
  have decoded : decodeRequest p c = .ok q := rfl
  have all : askedSorts p c 4 = asked := rfl
  have before : ∀ entry < 4, ¬EndsOrder p entry := by decide +kernel
  have end_of_list : IsLeast {entry | EndsOrder p entry} 4 :=
    ⟨Or.inr rfl, fun entry ends => Nat.le_of_not_lt fun below => before entry below ends⟩
  obtain ⟨n, least, readable, _, orderable, fields, firsts⟩ := sort_of_order_entries valid decoded
  obtain rfl : n = 4 := least.unique end_of_list
  rw [all] at fields firsts
  exact ⟨valid, decoded, all, least, readable, orderable 0 ⟨"name", none⟩ rfl rfl, fields, firsts⟩

end DocTable
