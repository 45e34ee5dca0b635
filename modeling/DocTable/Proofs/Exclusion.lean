/-
**Projections that drop.**

Reading a projection settles whether it keeps or drops the paths that it names, and whether it keeps the
identifier. One whose entries all drop never fails, and removes all the paths that it names, the identifier
like any other: whatever a document has there or behind is gone, and all else is still there.

* `Projection.Settles`, `settles_of_modeOf`: what the mode of a projection says about its entries;
* `project_eq_map`: the row that a mode gives;
* `project_of_drops`: entries that all drop;
* `project_exclusion`: what is left of a document.
-/

import DocTable.Proofs.Except
import DocTable.Proofs.Removal
import DocTable.Store.Projection

namespace DocTable

namespace Projection

/-! ### The mode of a projection -/

/-- What the mode of entries says about them, where a mode and a word on the identifier were known
before. -/
structure Settles (before : Option ProjectionMode) (keptBefore : Bool) (entries : List (String × Value))
    (mode : Option ProjectionMode) (keepId : Bool) : Prop where
  stays : ∀ m, before = some m → mode = some m
  agreed : ∀ entry ∈ entries, entry.1 ≠ idKey → ∃ m, mode = some m ∧ entryMode entry.2 = .ok m
  stated : mode = before ∨ ∃ entry ∈ entries, entry.1 ≠ idKey
  identifier : (keepId = keptBefore ∧ ∀ entry ∈ entries, entry.1 ≠ idKey) ∨
    ∃ entry ∈ entries, entry.1 = idKey ∧ entryMode entry.2 = .ok (if keepId then .keep else .drop)

/-- One entry more: the identifier has a mode of its own, and the paths have to agree on theirs. -/
theorem modeOf_cons {spec : Value} {m : ProjectionMode} (first : entryMode spec = .ok m)
    (before : Option ProjectionMode) (keptBefore : Bool) (path : String) (rest : List (String × Value)) :
    modeOf before keptBefore ((path, spec) :: rest) =
      if path = idKey then modeOf before (m == .keep) rest
      else match before with
        | none => modeOf (some m) keptBefore rest
        | some agreed =>
          if agreed = m then modeOf (some agreed) keptBefore rest
          else .error (.invalidPipeline (.mixedProjection path)) := by
  rw [modeOf, first]
  show (if path = idKey then _ else _) = _
  split
  · rfl
  · cases before <;> rfl

/-- **Reading the entries** one after the other. -/
theorem settles_of_modeOf {before mode : Option ProjectionMode} {keptBefore keepId : Bool}
    {entries : List (String × Value)}
    (read : modeOf before keptBefore entries = .ok (mode, keepId)) :
    Settles before keptBefore entries mode keepId := by
  induction entries generalizing before keptBefore with
  | nil =>
    cases read
    exact ⟨fun _ same => same, fun _ member => absurd member List.not_mem_nil, Or.inl rfl,
      Or.inl ⟨rfl, fun _ member => absurd member List.not_mem_nil⟩⟩
  | cons entry rest ih =>
    obtain ⟨path, spec⟩ := entry
    obtain ⟨one, first, _⟩ := bind_eq_ok.mp read
    rw [modeOf_cons first] at read
    by_cases here : path = idKey
    · rw [if_pos here] at read
      obtain ⟨stays, agreed, stated, identifier⟩ := ih read
      refine ⟨stays, ?_, ?_, ?_⟩
      · intro entry member apart
        rcases List.mem_cons.mp member with rfl | later
        · exact absurd here apart
        · exact agreed entry later apart
      · exact stated.imp id fun ⟨other, later, apart⟩ =>
          ⟨other, List.mem_cons_of_mem _ later, apart⟩
      · refine Or.inr ?_
        rcases identifier with ⟨rfl, _⟩ | ⟨other, later, same, mode⟩
        · refine ⟨(path, spec), List.mem_cons_self, here, first.trans ?_⟩
          cases one <;> rfl
        · exact ⟨other, List.mem_cons_of_mem _ later, same, mode⟩
    · have next : modeOf (some one) keptBefore rest = .ok (mode, keepId) ∧
          ∀ m, before = some m → m = one := by
        rw [if_neg here] at read
        cases before with
        | none => exact ⟨read, fun _ same => by cases same⟩
        | some agreed =>
          by_cases same : agreed = one
          · simp only [if_pos same] at read
            rw [same] at read
            exact ⟨read, fun m known => (Option.some.inj known).symm.trans same⟩
          · simp only [if_neg same] at read
            cases read
      obtain ⟨stays, agreed, _, identifier⟩ := ih next.1
      refine ⟨?_, ?_, Or.inr ⟨_, List.mem_cons_self, here⟩, ?_⟩
      · intro m known
        rw [next.2 m known]
        exact stays one rfl
      · intro entry member apart
        rcases List.mem_cons.mp member with rfl | later
        · exact ⟨one, stays one rfl, first⟩
        · exact agreed entry later apart
      · rcases identifier with ⟨same, none⟩ | ⟨other, later, same, mode⟩
        · exact Or.inl ⟨same, List.forall_mem_cons.mpr ⟨here, none⟩⟩
        · exact Or.inr ⟨other, List.mem_cons_of_mem _ later, same, mode⟩

/-- Entries of one mode are always read. -/
theorem exists_modeOf {m : ProjectionMode} {entries : List (String × Value)}
    (same : ∀ entry ∈ entries, entryMode entry.2 = .ok m) {before : Option ProjectionMode}
    (start : before = none ∨ before = some m) (keptBefore : Bool) :
    ∃ read, modeOf before keptBefore entries = .ok read := by
  induction entries generalizing before keptBefore with
  | nil => exact ⟨_, rfl⟩
  | cons entry rest ih =>
    obtain ⟨path, spec⟩ := entry
    obtain ⟨first, later⟩ := List.forall_mem_cons.mp same
    rw [modeOf_cons first]
    by_cases here : path = idKey
    · rw [if_pos here]
      exact ih later start (m == .keep)
    · rw [if_neg here]
      have next := ih later (Or.inr rfl) keptBefore
      rcases start with rfl | rfl
      · exact next
      · show ∃ read, (if m = m then modeOf (some m) keptBefore rest else _) = .ok read
        rw [if_pos rfl]
        exact next

/-! ### The row of a mode -/

/-- The paths that a projection names. -/
def paths (projection : Document) : List (List String) := projection.map fun entry => segments entry.1

/-- The row of a document for a mode. -/
def rowOf (d projection : Document) (keepId : Bool) : Option ProjectionMode → Document
  | some .keep => projection.foldl (includeEntry d) (if keepId then idOnly d else [])
  | some .drop => (paths projection).foldl Document.removeAt d
  | none => if keepId then d else d.erase idKey

end Projection

open Projection

/-- **The row of a document** is the one for the mode of the projection. -/
theorem project_eq_map (d projection : Document) :
    project d projection =
      (modeOf none true projection).map fun read => rowOf d projection read.2 read.1 := by
  cases projection with
  | nil => rfl
  | cons entry rest =>
    show (modeOf none true (entry :: rest)).bind _ = _
    cases modeOf none true (entry :: rest) with
    | error fault => rfl
    | ok read =>
      obtain ⟨mode, keepId⟩ := read
      cases mode with
      | none => rfl
      | some m =>
        cases m with
        | keep => rfl
        | drop =>
          show Except.ok _ = Except.ok (List.foldl _ d (List.map _ _))
          rw [List.foldl_map]
          rfl

/-- **A projection whose entries all drop** removes every path that it names. -/
theorem project_of_drops (d : Document) {projection : Document}
    (drops : ∀ entry ∈ projection, entryMode entry.2 = .ok .drop) :
    project d projection = .ok ((paths projection).foldl Document.removeAt d) := by
  obtain ⟨⟨mode, keepId⟩, read⟩ := exists_modeOf drops (Or.inl rfl) true
  obtain ⟨_, agreed, stated, identifier⟩ := settles_of_modeOf read
  rw [project_eq_map, read]
  refine congrArg Except.ok ?_
  show rowOf d projection keepId mode = _
  cases mode with
  | some m =>
    obtain ⟨entry, member, apart⟩ := stated.resolve_left (Option.some_ne_none m)
    obtain ⟨other, same, dropped⟩ := agreed entry member apart
    cases same
    rw [Except.ok.inj (dropped.symm.trans (drops entry member))]
    rfl
  | none =>
    have alone : ∀ entry ∈ projection, entry.1 = idKey := by
      intro entry member
      by_contra apart
      obtain ⟨_, impossible, _⟩ := agreed entry member apart
      cases impossible
    have named : ∀ path ∈ paths projection, path = [idKey] := by
      intro path member
      obtain ⟨entry, inside, rfl⟩ := List.mem_map.mp member
      simp only [alone entry inside]
      rfl
    rcases identifier with ⟨rfl, none⟩ | ⟨entry, member, _, dropped⟩
    · cases projection with
      | nil => rfl
      | cons entry rest =>
        exact absurd (alone entry List.mem_cons_self) (none entry List.mem_cons_self)
    · have some_path : paths projection ≠ [] := List.ne_nil_of_mem (List.mem_map_of_mem member)
      rw [Document.foldl_removeAt_key d some_path named]
      rw [drops entry member] at dropped
      cases keepId with
      | false => rfl
      | true => cases dropped

/-! ### What is left -/

theorem Projection.forall_mem_paths {projection : Document} {wanted : List String → Prop} :
    (∀ path ∈ paths projection, wanted path) ↔ ∀ entry ∈ projection, wanted (segments entry.1) :=
  List.forall_mem_map

/-- **What an exclusion leaves.** A projection whose entries all drop never fails. Nothing is left at the
paths that it names and behind them, and nothing else is lost; what lies apart from them is as it was. The
order of the entries does not matter. -/
theorem project_exclusion (d : Document) {projection : Document}
    (drops : ∀ entry ∈ projection, entryMode entry.2 = .ok .drop) :
    ∃ row, project d projection = .ok row ∧
      (∀ path, (row.lookup path).isSome ↔
        (d.lookup path).isSome ∧ ∀ entry ∈ projection, ¬segments entry.1 <+: segments path) ∧
      (∀ path, (∀ entry ∈ projection,
          ¬segments entry.1 <+: segments path ∧ ¬segments path <+: segments entry.1) →
        row.lookup path = d.lookup path) ∧
      ∀ other, other.Perm projection → project d other = .ok row := by
  refine ⟨_, project_of_drops d drops, ?_, ?_, ?_⟩
  · intro path
    have nonempty : ∀ segs ∈ paths projection, segs ≠ [] :=
      forall_mem_paths.mpr fun entry _ => segments_ne_nil entry.1
    have unnamed : (∀ segs ∈ paths projection, ¬segs <+: segments path) ↔
        ∀ entry ∈ projection, ¬segments entry.1 <+: segments path := forall_mem_paths
    rw [← unnamed]
    exact Document.isSome_follow_foldl_removeAt_iff d nonempty (segments path)
  · intro path apart
    exact Document.follow_foldl_removeAt_of_apart d (forall_mem_paths.mpr apart)
  · intro other same
    have dropsOther : ∀ entry ∈ other, entryMode entry.2 = .ok .drop :=
      fun entry member => drops entry (same.mem_iff.mp member)
    rw [project_of_drops d dropsOther]
    exact congrArg Except.ok (Document.foldl_removeAt_perm d (same.map _))

/-- A person without an identifier, a street and an address that holds it, in two orders. -/
theorem project_exclusion_person :
    let person : Document :=
      [("_id", .int32 7), ("name", .string "Ada"),
        ("home", .document [("city", .string "Oslo"), ("address", .document [("street", .string "High")])])]
    let projection : Document :=
      [("home.address.street", .int32 0), ("_id", .bool false), ("home.address", .double Double.zero)]
    (∀ entry ∈ projection, entryMode entry.2 = .ok .drop) ∧
      ∃ row, project person projection = .ok row ∧ project person projection.reverse = .ok row ∧
        (row.lookup "_id").isSome = false ∧ (row.lookup "home.address.street").isSome = false ∧
        (row.lookup "home").isSome = true ∧ row.lookup "home.city" = some (.string "Oslo") := by
  intro person projection
  have drops : ∀ entry ∈ projection, entryMode entry.2 = .ok .drop := by
    simp only [projection, List.forall_mem_cons]
    exact ⟨rfl, rfl, rfl, fun _ member => absurd member List.not_mem_nil⟩
  obtain ⟨row, projected, left, apart, orders⟩ := project_exclusion person drops
  refine ⟨drops, row, projected, orders _ projection.reverse_perm, ?_, ?_, ?_, ?_⟩
  · exact Bool.eq_false_iff.mpr (mt (left "_id").mp (by decide +kernel))
  · exact Bool.eq_false_iff.mpr (mt (left "home.address.street").mp (by decide +kernel))
  · exact (left "home").mpr (by decide +kernel)
  · exact (apart "home.city" (by decide +kernel)).trans rfl

end DocTable
