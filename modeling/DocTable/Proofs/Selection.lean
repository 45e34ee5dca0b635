/-
**What a projected row has.**

The row of a document is built one path after the other: each path that leads somewhere in the
document is set in the row. Paths may go on from each other in any order. A longer one behind a shorter
one sets what is there already, and a shorter one behind a longer one sets the whole that the longer
one is a part of.

* `Document.SelectedFrom`: a document that has what another one has at some paths, and nothing else;
* `SelectedFrom.copyAt`, `selectedFrom_foldl`: one path, and all of them;
* `selectedFrom_shown`: the rows of a query are such documents;
* `rowCells_project`: the cells of a row are those of its document;
* `project_requested`: when a row has nothing but what was asked for.
-/

import DocTable.Proofs.Paths
import DocTable.Proofs.Projection

namespace DocTable

open Projection

namespace Document

/-- Sets in a document what another one has at a path, if it has anything there. -/
def copyAt (d out : Document) (path : List String) : Document :=
  match d.follow path with
  | some value => out.setAt path value
  | none => out

/-- **A selection** has at some paths what a document has there. Whatever it has lies at one of these
paths, on the way to it, or behind it. -/
structure SelectedFrom (out d : Document) (paths : List (List String)) : Prop where
  agrees : ∀ path ∈ paths, out.follow path = d.follow path
  traced : ∀ path, (out.follow path).isSome →
    ∃ source ∈ paths, (d.follow source).isSome ∧ (source <+: path ∨ path <+: source)

/-- Documents that agree at a path agree behind it. -/
theorem follow_eq_of_front {out d : Document} {front path : List String} (nonempty : front ≠ [])
    (isFront : front <+: path) (agree : out.follow front = d.follow front) :
    out.follow path = d.follow path := by
  obtain ⟨rest, rfl⟩ := isFront
  rw [follow_append out nonempty, follow_append d nonempty, agree]

namespace SelectedFrom

variable {out d : Document} {paths : List (List String)} {path : List String}

/-- A selection has nothing where the document has nothing. -/
theorem isSome_of_isSome (selected : out.SelectedFrom d paths) (nonempty : path ≠ [])
    (found : (out.follow path).isSome) : (d.follow path).isSome := by
  obtain ⟨source, member, there, behind | before⟩ := selected.traced path found
  · have inside : source ≠ [] := by
      rintro rfl
      cases there
    rw [← follow_eq_of_front inside behind (selected.agrees source member)]
    exact found
  · exact follow_isSome_of_front nonempty before there

/-- What agrees with the document goes on doing so when another path is copied, be it a part of what has
been copied already. -/
theorem follow_copyAt {other : List String} (nonempty : path ≠ [])
    (agree : out.follow other = d.follow other) :
    (d.copyAt out path).follow other = d.follow other := by
  unfold Document.copyAt
  cases found : d.follow path with
  | none => exact agree
  | some value =>
    by_cases behind : path <+: other
    · have same : (out.setAt path value).follow path = d.follow path := by
        rw [follow_setAt_self out nonempty, found]
      exact follow_eq_of_front nonempty behind same
    · by_cases before : other <+: path
      · cases other with
        | nil => rfl
        | cons key other =>
          have there : out.follow path = some value := by
            rw [follow_eq_of_front (List.cons_ne_nil key other) before agree, found]
          rw [← agree]
          exact congrArg (follow · (key :: other)) (setAt_of_follow there)
      · exact (follow_setAt_of_apart out value behind before).trans agree

/-- **One path** more. -/
theorem copyAt (selected : out.SelectedFrom d paths) (nonempty : path ≠ []) :
    (d.copyAt out path).SelectedFrom d (paths ++ [path]) := by
  refine ⟨fun other member => ?_, fun other found => ?_⟩
  · rcases List.mem_append.mp member with old | new
    · exact follow_copyAt nonempty (selected.agrees other old)
    · rw [List.mem_singleton.mp new]
      unfold Document.copyAt
      cases there : d.follow path with
      | some value => exact follow_setAt_self out nonempty value
      | none =>
        refine Option.not_isSome_iff_eq_none.mp fun found => ?_
        have other := selected.isSome_of_isSome nonempty found
        rw [there] at other
        cases other
  · have older (found : (out.follow other).isSome) : ∃ source ∈ paths ++ [path],
        (d.follow source).isSome ∧ (source <+: other ∨ other <+: source) := by
      obtain ⟨source, member, there, near⟩ := selected.traced other found
      exact ⟨source, List.mem_append_left _ member, there, near⟩
    unfold Document.copyAt at found
    cases there : d.follow path with
    | none =>
      rw [there] at found
      exact older found
    | some value =>
      have last : path ∈ paths ++ [path] := List.mem_append_right _ List.mem_cons_self
      have some_value : (d.follow path).isSome := by rw [there]; rfl
      rw [there] at found
      by_cases behind : path <+: other
      · exact ⟨path, last, some_value, Or.inl behind⟩
      · by_cases before : other <+: path
        · exact ⟨path, last, some_value, Or.inr before⟩
        · rw [show (out.setAt path value).follow other = out.follow other from
            follow_setAt_of_apart out value behind before] at found
          exact older found

end SelectedFrom

/-- **All paths**, in any order. -/
theorem selectedFrom_foldl {out d : Document} {seen paths : List (List String)}
    (selected : out.SelectedFrom d seen) (nonempty : ∀ path ∈ paths, path ≠ []) :
    (paths.foldl d.copyAt out).SelectedFrom d (seen ++ paths) := by
  induction paths generalizing out seen with
  | nil =>
    rw [List.append_nil]
    exact selected
  | cons path paths ih =>
    have next := ih (selected.copyAt (nonempty path List.mem_cons_self))
      fun other member => nonempty other (List.mem_cons_of_mem path member)
    rw [List.append_assoc] at next
    exact next

/-- Nothing is selected at no path. -/
theorem selectedFrom_nil (d : Document) : SelectedFrom [] d [] :=
  ⟨fun _ member => absurd member List.not_mem_nil, fun path found => by
    rw [follow_empty] at found
    cases found⟩

end Document

/-! ### The rows of a query -/

/-- The paths that a query selects: all its fields but the identifier. -/
def selectedPaths (fields : List String) : List (List String) :=
  (keptEntries fields).map fun entry => segments entry.1

theorem mem_selectedPaths {fields : List String} {path : List String} :
    path ∈ selectedPaths fields ↔ ∃ field ∈ fields, field ≠ idKey ∧ segments field = path := by
  have keys : path ∈ selectedPaths fields ↔
      ∃ field ∈ (keptEntries fields).map Prod.fst, segments field = path := by
    unfold selectedPaths
    rw [← List.mem_map, List.map_map]
    rfl
  simp only [keys, mem_keys_keptEntries, and_assoc]

/-- A row is its document copied at the selected paths. -/
theorem shown_eq_foldl {fields : List String} (some_field : keptEntries fields ≠ [])
    (d : Document) : shown fields d = (selectedPaths fields).foldl d.copyAt [] := by
  unfold shown selectedPaths
  rw [if_neg some_field, planProjection_eq, List.foldl_append, List.foldl_map]
  show includeEntry d _ (idKey, .int32 0) = _
  unfold includeEntry
  rw [if_pos rfl]
  refine List.foldl_ext _ _ _ fun out entry member => ?_
  obtain ⟨_, apart, one⟩ := mem_keptEntries member
  rw [if_neg apart, one]
  rfl

/-- **The row of a document** is selected from it. -/
theorem selectedFrom_shown {fields : List String} (some_field : keptEntries fields ≠ [])
    (d : Document) : (shown fields d).SelectedFrom d (selectedPaths fields) := by
  rw [shown_eq_foldl some_field]
  refine Document.selectedFrom_foldl d.selectedFrom_nil fun path member => ?_
  obtain ⟨field, _, _, rfl⟩ := mem_selectedPaths.mp member
  exact segments_ne_nil field

/-! ### The cells of a row -/

/-- A cell shows what is stored at its path, and null where nothing is. -/
theorem Document.cell_eq_lookup (d : Document) (path : String) :
    d.cell path = (d.lookup path).getD .null := by
  unfold Document.cell
  rw [Document.walk?_eq_lookup]

theorem Document.cell_eq_null_iff (d : Document) (path : String) :
    d.cell path = .null ↔ d.lookup path = none ∨ d.lookup path = some .null := by
  rw [Document.cell_eq_lookup]
  cases d.lookup path with
  | none => simp
  | some v => simp

/-- A row has at every field but the identifier what its document has there. -/
theorem lookup_shown {fields : List String} {field : String} (member : field ∈ fields)
    (apart : field ≠ idKey) (d : Document) : (shown fields d).lookup field = d.lookup field := by
  have some_field : keptEntries fields ≠ [] := by
    intro nothing
    exact apart (keptEntries_eq_nil.mp nothing field member)
  exact (selectedFrom_shown some_field d).agrees _
    (mem_selectedPaths.mpr ⟨field, member, apart, rfl⟩)

/-- **Projecting does not change the cells.** The projection to some fields, in whatever order they
stand and however they overlap, gives a row of every document, and the cell of each field but the
identifier is the same in the row and in the document: null where the document has nothing or null. -/
theorem rowCells_project (d : Document) (fields : List String) :
    ∃ row, project d (planProjection fields) = .ok row ∧
      ∀ field ∈ fields, field ≠ idKey →
        rowCells row [field] = rowCells d [field] ∧
        (rowCells row [field] = [.null] ↔
          d.lookup field = none ∨ d.lookup field = some .null) := by
  refine ⟨shown fields d, project_planProjection fields d, fun field member apart => ?_⟩
  have same : rowCells (shown fields d) [field] = rowCells d [field] := by
    show [Document.cell _ field] = [d.cell field]
    rw [Document.cell_eq_lookup, Document.cell_eq_lookup, lookup_shown member apart]
  refine ⟨same, ?_⟩
  rw [same, ← d.cell_eq_null_iff field]
  exact List.singleton_inj

/-- An address with its city, asked for in parts, as a whole and again in parts, beside a field that
is null and one that is missing. -/
theorem rowCells_project_address :
    let d : Document :=
      [("_id", .int32 7), ("address", .document [("street", .string "High"), ("city", .string "Oslo")]),
        ("phone", .null)]
    let fields := ["address.city", "_id", "address", "address.city.part", "phone", "address.street"]
    ∃ row, project d (planProjection fields) = .ok row ∧
      ("address.city" ∈ fields ∧ "address.city" ≠ idKey ∧
        rowCells row ["address.city"] = [.string "Oslo"]) ∧
      ("phone" ∈ fields ∧ "phone" ≠ idKey ∧ rowCells row ["phone"] = [.null]) ∧
      rowCells row ["address.city.part"] = [.null] := by
  intro d fields
  obtain ⟨row, projected, cells⟩ := rowCells_project d fields
  have city := cells "address.city" (by decide) (by decide)
  have phone := cells "phone" (by decide) (by decide)
  have part := cells "address.city.part" (by decide) (by decide)
  exact ⟨row, projected, ⟨by decide, by decide, city.1.trans rfl⟩,
    ⟨by decide, by decide, phone.2.mpr (Or.inr rfl)⟩, part.2.mpr (Or.inl rfl)⟩

/-! ### What was asked for -/

/-- Some field but the identifier lies at a path, on the way to it, or behind it. -/
def Requested (fields : List String) (path : List String) : Prop :=
  ∃ field ∈ fields, field ≠ idKey ∧ (segments field <+: path ∨ path <+: segments field)

/-- A row with a path selected has nothing but what was asked for. -/
theorem requested_of_shown {fields : List String} (some_field : keptEntries fields ≠ []) {d : Document}
    {path : List String} (found : ((shown fields d).follow path).isSome) : Requested fields path := by
  obtain ⟨source, member, _, near⟩ := (selectedFrom_shown some_field d).traced path found
  obtain ⟨field, listed, apart, rfl⟩ := mem_selectedPaths.mp member
  exact ⟨field, listed, apart, near⟩

/-- A document in which no path leads anywhere is empty. -/
theorem Document.eq_nil_of_follow {d : Document} (nowhere : ∀ path, (d.follow path).isSome = false) :
    d = [] := by
  cases d with
  | nil => rfl
  | cons entry rest =>
    have first : (Document.follow (entry :: rest) [entry.1]).isSome := by
      show (Document.get? (entry :: rest) entry.1).isSome
      simp [Document.get?]
    rw [nowhere] at first
    cases first

/-- **What a query asks for.** The projection to some fields gives a row of every document. It has what
the document has at each field but the identifier. It has nothing but what was asked for, exactly if some
field is not the identifier or the document has nothing else: where no field but the identifier is asked
for, the row is all that the document has beside it. -/
theorem project_requested (d : Document) (fields : List String) :
    ∃ row, project d (planProjection fields) = .ok row ∧
      (∀ field ∈ fields, field ≠ idKey → row.lookup field = d.lookup field) ∧
      ((∀ path, (row.follow path).isSome → Requested fields path) ↔
        (∃ field ∈ fields, field ≠ idKey) ∨ d.erase idKey = []) ∧
      ((∀ field ∈ fields, field = idKey) → row = d.erase idKey) := by
  refine ⟨shown fields d, project_planProjection fields d, ?_, ?_, ?_⟩
  · intro field member apart
    exact lookup_shown member apart d
  · by_cases nothing : keptEntries fields = []
    · have onlyId := keptEntries_eq_nil.mp nothing
      have unasked (path : List String) : ¬Requested fields path :=
        fun ⟨field, member, apart, _⟩ => apart (onlyId field member)
      have rest : shown fields d = d.erase idKey := if_pos nothing
      rw [rest]
      constructor
      · intro within
        refine Or.inr (Document.eq_nil_of_follow fun path => Bool.eq_false_iff.mpr fun found => ?_)
        exact unasked path (within path found)
      · rintro (⟨field, member, apart⟩ | empty) path found
        · exact absurd (onlyId field member) apart
        · rw [empty, Document.follow_empty] at found
          cases found
    · have some_field : ∃ field ∈ fields, field ≠ idKey := by
        have not_all := mt keptEntries_eq_nil.mpr nothing
        simpa using not_all
      exact iff_of_true (fun _ found => requested_of_shown nothing found) (Or.inl some_field)
  · intro onlyId
    exact if_pos (keptEntries_eq_nil.mpr onlyId)

/-- The city of an address, and the identifier alone, asked of the same document. -/
theorem project_requested_city :
    let d : Document :=
      [("_id", .int32 7), ("address", .document [("street", .string "High"), ("city", .string "Oslo")])]
    let fields := ["address.city", "_id"]
    (∃ row, project d (planProjection fields) = .ok row ∧
      ("address.city" ∈ fields ∧ "address.city" ≠ idKey ∧
        row.lookup "address.city" = some (.string "Oslo")) ∧
      ∀ path, (row.follow path).isSome → Requested fields path) ∧
    project d (planProjection [idKey]) = .ok (d.erase idKey) ∧ d.erase idKey ≠ [] := by
  intro d fields
  obtain ⟨row, projected, asked, within, _⟩ := project_requested d fields
  obtain ⟨all, projectedAll, _, _, rest⟩ := project_requested d [idKey]
  have city : "address.city" ∈ fields ∧ "address.city" ≠ idKey := by decide
  refine ⟨⟨row, projected, ⟨city.1, city.2, ?_⟩, ?_⟩, ?_, List.cons_ne_nil _ _⟩
  · exact (asked _ city.1 city.2).trans rfl
  · exact within.mpr (Or.inl ⟨_, city⟩)
  · rw [projectedAll, rest fun field member => List.mem_singleton.mp member]

/-- A row may have what was not asked for. -/
theorem unrequested_shown :
    ¬∀ (d row : Document) (fields : List String), project d (planProjection fields) = .ok row →
      ∀ path, (row.lookup path).isSome → Requested fields (segments path) := by
  intro always
  obtain ⟨field, member, apart, _⟩ :=
    always [("_id", .int32 1), ("name", .string "Ada")] [("name", .string "Ada")] [idKey] rfl "name"
      (by decide +kernel)
  exact apart (List.mem_singleton.mp member)

end DocTable
