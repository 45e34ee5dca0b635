/-
**One value at a path.**

The store cuts a path at its first dot and goes on below the document that it finds there. A cell goes
through the pieces of its path one after the other, and a template has the pieces of its placeholder ready.
All of them end at the same value, whatever the path looks like. So the cell of a path is what filters test,
what sorts compare and what projections keep there; only whether there is a value at all is not seen in it.

* `Document.lookup_eq_cut`: following a path by cutting it at its first dot;
* `ValueTest`: what a filter can ask of the value at a path;
* `ValueTest.holds_of_cell`, `SortKey.compare_of_cells`: filters and sorts go by cells;
* `exists_project_single`: projecting to one path;
* `one_value_at_path`: all of it together.
-/

import DocTable.Proofs.KeptIdentifier
import DocTable.Proofs.Selection

namespace DocTable

/-! ### Cutting a path at its first dot -/

/-- The pieces of a text are those in front of the first separator and those behind it. -/
theorem Text.splitOn_eq_cut {α : Type} [DecidableEq α] (sep : α) (chars : List α) :
    splitOn sep chars = match splitOnce? [sep] chars with
      | none => [chars]
      | some (front, back) => front :: splitOn sep back := by
  induction chars with
  | nil => rfl
  | cons c rest ih =>
    obtain ⟨piece, more, pieces⟩ := List.exists_cons_of_ne_nil (splitOn_ne_nil sep rest)
    by_cases here : c = sep
    · subst here
      simp [splitOnce?, pieces, cutStep]
    · have apart : ¬sep = c := fun same => here same.symm
      rw [splitOn_cons, ih]
      cases cut : splitOnce? [sep] rest with
      | none => simp [splitOnce?, cut, cutStep, here, apart]
      | some parts => simp [splitOnce?, cut, cutStep, here, apart]

/-- **Cutting a path** at its first dot: a path without a dot is a key, and any other one leads into the
document under its first key and goes on there. -/
theorem Document.lookup_eq_cut (d : Document) (path : String) :
    d.lookup path = match Text.splitOnce? ['.'] path.toList with
      | none => d.get? path
      | some (front, back) =>
        ((d.get? (String.ofList front)).bind Value.entries?).bind
          (·.lookup (String.ofList back)) := by
  unfold lookup segments Text.pieces
  rw [Text.splitOn_eq_cut]
  cases Text.splitOnce? ['.'] path.toList with
  | none =>
    show d.get? (String.ofList path.toList) = d.get? path
    rw [String.ofList_toList]
  | some parts =>
    obtain ⟨front, back⟩ := parts
    obtain ⟨piece, more, pieces⟩ := List.exists_cons_of_ne_nil (Text.splitOn_ne_nil '.' back)
    simp only [String.toList_ofList, pieces, List.map_cons]
    rfl

/-- The pieces of a path, the first one apart from the others, lead where the path does. -/
theorem Document.get?_bind_at? (d : Document) {path key : String} {rest : List String}
    (pieces : segments path = key :: rest) : (d.get? key).bind (·.at? rest) = d.lookup path := by
  unfold lookup
  rw [pieces, follow_cons]

/-! ### Documents that hold one cell -/

/-- The key of a cell that stands alone. -/
def cellKey : String := "cell"

/-- The cell of a path as a document of its own. -/
def Document.cellAlone (d : Document) (path : String) : Document := [(cellKey, d.cell path)]

theorem Document.lookup_cellAlone (d : Document) (path : String) :
    (d.cellAlone path).lookup cellKey = some ((d.lookup path).getD .null) := by
  rw [← cell_eq_lookup]
  rfl

/-! ### Filters -/

/-- What a filter can ask of the value at a path. -/
inductive ValueTest where
  | equal (operand : Value)
  | compared (comparison : Comparison) (operand : Value)
  | oneOf (operands : List Value)
  | likePattern (pattern : Pattern)

/-- The condition that asks it. -/
def ValueTest.condition (path : String) : ValueTest → Condition
  | .equal operand => .equal path operand
  | .compared comparison operand => .compared comparison path operand
  | .oneOf operands => .oneOf path operands
  | .likePattern pattern => .likePattern path pattern

/-- For some tests a missing value and null are one case. -/
theorem testUnlessNull_getD (found : Option Value) (atNull : Bool) (test : Value → Bool) :
    testUnlessNull (some (found.getD .null)) atNull test = testUnlessNull found atNull test := by
  cases found <;> rfl

/-- A test that null does not pass does not tell it from a missing value either. -/
theorem testFound_getD (found : Option Value) {test : Value → Bool} (null : test .null = false) :
    testFound (some (found.getD .null)) test = testFound found test := by
  cases found with
  | none => exact null
  | some v => rfl

/-- **Filters** go by cells: a document meets a condition on the value at a path exactly if the cell of the
path does. -/
theorem ValueTest.holds_of_cell (t : ValueTest) (d : Document) (path : String) :
    (t.condition path).holds d = (t.condition cellKey).holds (d.cellAlone path) := by
  cases t with
  | equal operand =>
    simp only [ValueTest.condition, Condition.holds, Document.lookup_cellAlone, testUnlessNull_getD]
  | compared comparison operand =>
    have null : comparison.test operand .null = false := rfl
    simp only [ValueTest.condition, Condition.holds, Document.lookup_cellAlone, testFound_getD _ null]
  | oneOf operands =>
    simp only [ValueTest.condition, Condition.holds, Document.lookup_cellAlone, testUnlessNull_getD]
  | likePattern pattern =>
    have null : pattern.test .null = false := rfl
    simp only [ValueTest.condition, Condition.holds, Document.lookup_cellAlone, testFound_getD _ null]

/-! ### Sorts -/

/-- A missing value sorts as null. -/
theorem sortCompare_getD (a b : Option Value) :
    sortCompare (some (a.getD .null)) (some (b.getD .null)) = sortCompare a b := by
  cases a with
  | none => cases b with
    | none => rfl
    | some w => cases w <;> rfl
  | some v => cases b with
    | none => cases v <;> rfl
    | some w => rfl

/-- **Sorts** go by cells: a key compares two documents as it compares their cells. -/
theorem SortKey.compare_of_cells (path : String) (descending : Bool) (d e : Document) :
    SortKey.compare ⟨path, descending⟩ d e =
      SortKey.compare ⟨cellKey, descending⟩ (d.cellAlone path) (e.cellAlone path) := by
  unfold SortKey.compare
  simp only [Document.lookup_cellAlone, sortCompare_getD]

/-! ### Projections -/

/-- The identifier of a document, alone, has nothing where the document has nothing. -/
theorem lookup_idOnly_eq_none {d : Document} {path : String} (missing : d.lookup path = none) :
    (Projection.idOnly d).lookup path = none := by
  obtain ⟨key, rest, pieces⟩ := List.exists_cons_of_ne_nil (segments_ne_nil path)
  rw [← Document.get?_bind_at? d pieces] at missing
  rw [← Document.get?_bind_at? _ pieces]
  by_cases identifier : key = idKey
  · subst identifier
    rw [get?_idOnly, missing]
  · have absent : (Projection.idOnly d).get? key = none := by
      unfold Projection.idOnly
      cases d.get? idKey with
      | none => rfl
      | some id => exact if_neg fun same => identifier same.symm
    rw [absent]
    rfl

/-- **Projecting** to one path keeps the value there. -/
theorem exists_project_single (d : Document) (path : String) :
    ∃ row, project d [(path, .int32 1)] = .ok row ∧ row.lookup path = d.lookup path := by
  by_cases identifier : path = idKey
  · subst identifier
    exact ⟨d, rfl, rfl⟩
  · have mode : Projection.modeOf none true [(path, .int32 1)] = .ok (some .keep, true) := by
      simp only [Projection.modeOf]
      exact if_neg identifier
    refine ⟨Projection.includeEntry d (Projection.idOnly d) (path, .int32 1), ?_, ?_⟩
    · unfold project
      rw [mode]
      rfl
    · have taken : Projection.valueOf d path (.int32 1) = d.lookup path := rfl
      simp only [Projection.includeEntry, if_neg identifier, taken]
      cases found : d.lookup path with
      | none => exact lookup_idOnly_eq_none found
      | some value => exact Document.follow_setAt_self _ (segments_ne_nil path) value

/-! ### All together -/

/-- **One value at a path.** Cutting a path at its first dot, going through its pieces and following the
pieces of a placeholder lead to the same value, whatever the document and the path. The cell of the path
shows that value, or null where there is none, and a placeholder shows it, or nothing. A filter on the value
at the path and a sort by it go by the cell, and a projection to the path keeps it. -/
theorem one_value_at_path (d : Document) (path : String) :
    (d.lookup path = match Text.splitOnce? ['.'] path.toList with
      | none => d.get? path
      | some (front, back) =>
        ((d.get? (String.ofList front)).bind Value.entries?).bind
          (·.lookup (String.ofList back))) ∧
      rowCells d [path] = [(d.lookup path).getD .null] ∧
      (∃ key rest, segments path = key :: rest ∧ (d.get? key).bind (·.at? rest) = d.lookup path ∧
        ∀ highlighter, (Segment.value key rest).render d highlighter =
          ((d.lookup path).map fun v => displayed highlighter v.cellText).getD []) ∧
      (∀ t : ValueTest, (t.condition path).holds d = (t.condition cellKey).holds (d.cellAlone path)) ∧
      (∀ descending e, SortKey.compare ⟨path, descending⟩ d e =
        SortKey.compare ⟨cellKey, descending⟩ (d.cellAlone path) (e.cellAlone path)) ∧
      ∃ row, project d [(path, .int32 1)] = .ok row ∧ row.lookup path = d.lookup path := by
  refine ⟨d.lookup_eq_cut path, congrArg (fun cell => [cell]) (d.cell_eq_lookup path), ?_,
    fun t => t.holds_of_cell d path, fun descending e => SortKey.compare_of_cells path descending d e,
    exists_project_single d path⟩
  obtain ⟨key, rest, pieces⟩ := List.exists_cons_of_ne_nil (segments_ne_nil path)
  have found := d.get?_bind_at? pieces
  refine ⟨key, rest, pieces, found, fun highlighter => ?_⟩
  simp only [Segment.render, found]
  cases d.lookup path with
  | none => rfl
  | some v => rfl

end DocTable
