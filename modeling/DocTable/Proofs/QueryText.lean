/-
**Queries survive their JSON texts.**

A query without documents and without binary64 numbers is made of texts, whole numbers of 64 bits, truth
values and names. Its tree is read back from its text, and the readers find in the tree what the writers put
there, kind by kind.

* `list_map`, `int64_int`, `uint64_nat`, `record_of_names`: readers of what has been written;
* `FilterValue.ofJson?_toJson`, `Query.ofJson?_toJson`: filter values and queries from their trees;
* `ofText?_print`: all of it together, from the texts.
-/

import DocTable.Proofs.JsonReading
import DocTable.Query.Json

namespace DocTable

open Json

/-! ### Readers of what has been written -/

namespace Json

/-- A list is read back if its items are. -/
theorem list_map {α : Type} {item : Reader α} {f : α → Json} {room : Nat} {items : List α}
    (each : ∀ a ∈ items, item room (f a) = some a) :
    Json.list item (room + 1) (.array (items.map f)) = some items := by
  show (items.map f).mapM (item room) = some items
  induction items with
  | nil => rfl
  | cons a rest ih =>
    obtain ⟨first, later⟩ := List.forall_mem_cons.mp each
    rw [List.map_cons, List.mapM_cons, first, ih later]
    rfl

theorem list_ofTexts (texts : List String) (room : Nat) :
    Json.list text (room + 1) (.ofTexts texts) = some texts :=
  list_map fun _ _ => rfl

/-- A whole number of 64 bits is read back. -/
theorem integer_int {n : Int} (low : -2 ^ 63 ≤ n) (high : n < 2 ^ 64) (room : Nat) :
    integer room (.int n) = some n :=
  Numeral.toInt?_ofLiteral?_toString low high

theorem int64_int (n : Int64) (room : Nat) : int64 room (.int n.toInt) = some n := by
  have low := n.le_toInt
  have high := n.toInt_lt
  unfold int64
  rw [integer_int low (by omega), Option.bind_some]
  unfold toInt64?
  rw [if_pos ⟨low, high⟩, Int64.ofInt_toInt]

theorem uint64_nat (n : UInt64) (room : Nat) : uint64 room (.nat n.toNat) = some n := by
  have high := n.toNat_lt
  have read : integer room (.nat n.toNat) = some (n.toNat : Int) :=
    integer_int (n := (n.toNat : Int)) (by omega) (by omega) room
  unfold uint64 natural
  rw [read, Option.bind_some, if_pos (by omega), Option.map_some, Int.toNat_natCast, UInt64.ofNat_toNat]

/-- The members of an object are the fields of a record whose names are their keys. -/
theorem record_of_names {names : List String} {members : List (String × Json)}
    (keys : members.map Prod.fst = names) (distinct : areDistinct names = true) (room : Nat) :
    record names (room + 1) (.object members) = some ⟨members, room⟩ := by
  have known : (members.filter fun member => names.contains member.1) = members := by
    refine List.filter_eq_self.mpr fun member inside => List.elem_iff.mpr ?_
    exact keys ▸ List.mem_map_of_mem inside
  unfold record
  simp only [known, keys, distinct, if_true]
  rfl

/-- An array is legible if its items are. -/
theorem Legible.map {α : Type} {f : α → Json} {items : List α} (each : ∀ a ∈ items, Legible (f a)) :
    Legible (.array (items.map f)) := by
  refine .array _ fun item member => ?_
  obtain ⟨a, inside, rfl⟩ := List.mem_map.mp member
  exact each a inside

theorem legible_pair {key other : String} {j k : Json} (first : Legible j) (second : Legible k) :
    Legible (.object [(key, j), (other, k)]) :=
  .object _ (List.forall_mem_cons.mpr ⟨first, List.forall_mem_singleton.mpr second⟩)

theorem legible_ofTexts (texts : List String) : Legible (.ofTexts texts) :=
  .map fun text _ => .string text

end Json

/-! ### Filter values -/

namespace FilterValue

/-- Filter values without binary64 numbers. -/
def isExact : FilterValue → Bool
  | .float _ => false
  | .floatRange _ _ => false
  | _ => true

/-- The kind of a filter value tells whether it holds binary64 numbers. -/
theorem isExact_eq (v : FilterValue) :
    v.isExact = (v.kind != "float" && v.kind != "float_range") := by
  cases v <;> rfl

theorem legible_toJson {v : FilterValue} (exact : v.isExact = true) : Legible v.toJson := by
  cases v with
  | string s => exact legible_pair (.string _) (.string s)
  | int n => exact legible_pair (.string _) (.int n.toInt)
  | float x => cases exact
  | bool b => exact legible_pair (.string _) (.bool b)
  | intRange min max =>
    exact legible_pair (.string _) (legible_pair (.int min.toInt) (.int max.toInt))
  | floatRange min max => cases exact
  | stringSet texts => exact legible_pair (.string _) (legible_ofTexts texts)
  | null => exact .object _ (List.forall_mem_singleton.mpr (.string _))

/-- The tree of a filter value is one that texts are made of. -/
theorem written_toJson (v : FilterValue) : Written v.toJson := by
  cases v with
  | float x => exact written_pair (.string _) x.written_toJson
  | floatRange min max =>
    exact written_pair (.string _) (written_pair min.written_toJson max.written_toJson)
  | _ => exact (legible_toJson rfl).written

/-- The tree of a filter value shows its kind. -/
theorem kind_eq {v w : FilterValue} (same : v.toJson = w.toJson) : v.kind = w.kind :=
  Json.string.inj (Prod.mk.inj (List.cons.inj (Json.object.inj same)).1).2

/-- The bounds of a range are found in their object. -/
theorem boundsOfJson?_int64 (min max : Int64) (room : Nat) :
    boundsOfJson? Json.int64 (room + 1)
      (.object [("min", .int min.toInt), ("max", .int max.toInt)]) = some (min, max) := by
  unfold boundsOfJson?
  rw [record_of_names (by rfl) (by decide), Option.bind_eq_bind, Option.bind_some]
  simp [Fields.required, Fields.get?, int64_int]

/-- A kind in front of its content is read before it. -/
theorem ofJson?_pair (kind : String) (content : Json) (room : Nat) :
    ofJson? (room + 1) (.object [("type", .string kind), ("value", content)]) =
      ofContent? kind room content := by
  unfold ofJson?
  dsimp only
  rw [record_of_names (by rfl) (by decide), Option.bind_eq_bind, Option.bind_some]
  simp [Fields.required, Fields.get?, choice]

/-- **A filter value** is found in its tree. -/
theorem ofJson?_toJson {v : FilterValue} (exact : v.isExact = true) (room : Nat) :
    ofJson? (room + 2) v.toJson = some v := by
  cases v with
  | string s => exact ofJson?_pair _ _ _
  | int n =>
    refine (ofJson?_pair _ _ _).trans ?_
    simp only [kind, ofContent?, int64_int, Option.map_some]
  | float x => cases exact
  | bool b => exact ofJson?_pair _ _ _
  | intRange min max =>
    refine (ofJson?_pair _ _ _).trans ?_
    simp only [kind, ofContent?, boundsOfJson?_int64, Option.map_some]
  | floatRange min max => cases exact
  | stringSet texts =>
    refine (ofJson?_pair _ _ _).trans ?_
    simp only [kind, ofContent?, list_ofTexts, Option.map_some]
  | null => rfl

end FilterValue

/-! ### Queries -/

theorem Filter.ofJson?_toJson {f : Filter} (exact : f.value.isExact = true) (room : Nat) :
    Filter.ofJson? (room + 3) f.toJson = some f := by
  unfold Filter.ofJson? toJson
  rw [record_of_names (by rfl) (by decide), Option.bind_eq_bind, Option.bind_some]
  simp [Fields.required, Fields.get?, text, FilterValue.ofJson?_toJson exact]

theorem SortField.ofJson?_toJson (s : SortField) (room : Nat) :
    SortField.ofJson? (room + 1) s.toJson = some s := by
  obtain ⟨field, direction⟩ := s
  cases direction with
  | asc => rfl
  | desc => rfl

namespace Query

/-- Queries without documents and without binary64 numbers. -/
structure Exact (q : Query) : Prop where
  filters : ∀ f ∈ q.filters, f.value.isExact = true
  rawFilter : q.rawFilter = none
  pipeline : q.pipeline = []

theorem legible_toJson {q : Query} (exact : q.Exact) : Legible q.toJson := by
  have filters : Legible (.array (q.filters.map Filter.toJson)) :=
    .map fun f member =>
      legible_pair (.string f.field) (FilterValue.legible_toJson (exact.filters f member))
  have sort : Legible (.array (q.sort.map SortField.toJson)) :=
    .map fun s _ => legible_pair (.string s.field) (.string s.direction.name)
  unfold toJson
  rw [exact.rawFilter, exact.pipeline]
  refine .object _ ?_
  simp only [List.forall_mem_cons]
  exact ⟨.string _, legible_ofTexts _, filters, .null, sort, .int q.limit.toNat, .int q.offset.toNat,
    .string _, legible_ofTexts _, .array _ nofun, nofun⟩

/-- **A query** is found in its tree. -/
theorem ofJson?_toJson {q : Query} (exact : q.Exact) (room : Nat) :
    ofJson? (room + 5) q.toJson = some q := by
  obtain ⟨table, fields, filters, rawFilter, sort, limit, offset, search, searchFields, pipeline⟩ := q
  obtain ⟨values, rfl, rfl⟩ := exact
  change ∀ f ∈ filters, f.value.isExact = true at values
  have raw : Json.optional Document.ofJson? (room + 4) .null = some none := rfl
  have stages : Json.list Document.ofJson? (room + 4) (.array []) = some [] := rfl
  unfold ofJson? toJson
  rw [record_of_names (by rfl) (by decide), Option.bind_eq_bind, Option.bind_some]
  simp only [Fields.required, Fields.withDefault, Fields.get?, ofOption, ofDocuments]
  simp [text, raw, stages, list_ofTexts, uint64_nat,
    list_map fun f member => Filter.ofJson?_toJson (values f member) room,
    list_map fun s (_ : s ∈ sort) => SortField.ofJson?_toJson s (room + 2)]

/-- A query is read back from its text. -/
theorem ofText?_of_exact {q : Query} (exact : q.Exact) : ofText? q.toJson.print = some q := by
  unfold ofText?
  rw [(legible_toJson exact).parse?_print, Option.bind_some]
  exact ofJson?_toJson exact 122

end Query

/-- A filter value is read back from its text. -/
theorem FilterValue.ofText?_of_exact {v : FilterValue} (exact : v.isExact = true) :
    ofText? v.toJson.print = some v := by
  unfold ofText?
  rw [(legible_toJson exact).parse?_print, Option.bind_some]
  exact ofJson?_toJson exact 125

/-- Filter values with one text are the same, if one of them holds no binary64 numbers. -/
theorem FilterValue.eq_of_print {v w : FilterValue} (exact : v.isExact = true)
    (same : v.toJson.print = w.toJson.print) : v = w := by
  have tree := v.written_toJson.eq_of_print w.written_toJson same
  have other : w.isExact = true := by rw [isExact_eq, ← kind_eq tree, ← isExact_eq, exact]
  have read := ofText?_of_exact exact
  rw [same, ofText?_of_exact other] at read
  exact (Option.some.inj read).symm

/-- **Queries survive their texts**, whatever texts, whole numbers and sort fields they hold. So do filter
values, and different ones have different texts. -/
theorem ofText?_print :
    (∀ q : Query, q.Exact → Query.ofText? q.toJson.print = some q) ∧
      (∀ v : FilterValue, v.isExact = true → FilterValue.ofText? v.toJson.print = some v) ∧
      ∀ v w : FilterValue, v.isExact = true → v ≠ w → v.toJson.print ≠ w.toJson.print :=
  ⟨fun _ exact => Query.ofText?_of_exact exact, fun _ exact => FilterValue.ofText?_of_exact exact,
    fun _ _ exact different same => different (FilterValue.eq_of_print exact same)⟩

/-- A query with escaped letters, both ends of 64 bits and every kind of exact filter value. -/
def widestQuery : Query where
  table := "tab\"le\\"
  fields := ["naïve\u0001", "", "\n\t/", "🜁.𝄞"]
  filters := [⟨"s", .string "\u2028\"\u001f"⟩, ⟨"n", .int (-9223372036854775808)⟩, ⟨"b", .bool true⟩,
    ⟨"r", .intRange 9223372036854775807 (-9223372036854775808)⟩,
    ⟨"set", .stringSet ["a,b", "\"]\x7d", ""]⟩, ⟨"nothing", .null⟩]
  rawFilter := none
  sort := [⟨"age", .desc⟩, ⟨"age", .asc⟩]
  limit := 18446744073709551615
  offset := 9223372036854775808
  search := "\\u0041 \u007f"
  searchFields := ["s", "type"]
  pipeline := []

theorem widestQuery_exact : widestQuery.Exact := ⟨by decide, rfl, rfl⟩

theorem ofText?_print_widest :
    Query.ofText? widestQuery.toJson.print = some widestQuery ∧
      (∀ f ∈ widestQuery.filters, FilterValue.ofText? f.value.toJson.print = some f.value) ∧
      (FilterValue.stringSet ["a", "b"]).toJson.print ≠ (FilterValue.stringSet ["a,b"]).toJson.print :=
  ⟨ofText?_print.1 widestQuery widestQuery_exact,
    fun f member => ofText?_print.2.1 f.value (widestQuery_exact.filters f member),
    ofText?_print.2.2 _ _ rfl (by decide)⟩

end DocTable
