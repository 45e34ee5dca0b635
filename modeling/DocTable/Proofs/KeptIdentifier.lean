/-
**The identifier behind a projection.**

A projection that does not name the identifier, or asks to keep it, keeps it, with two exceptions. An
exclusion removes every path that it names, the identifier too if it has an entry for it that asks to keep
it. And an entry for a path inside the identifier does there what it says: it may drop a part of the
identifier, or put there what it refers to. Without such entries the identifier is the document's own.

* `Projection.LeavesAsIs`: an entry that asks for nothing but what is there;
* `get?_id_foldl_includeEntry`, `get?_id_foldl_removeAt`: both kinds of projections with such entries;
* `Projection.Settles.keeps`, `Projection.Settles.drops_iff`: what the mode of such a projection is;
* `id_of_project`: what becomes of the identifier;
* `id_lost_beside_exclusion`: asking to keep it is not always enough.
-/

import DocTable.Proofs.Exclusion
import DocTable.Proofs.Identifier

namespace DocTable

open Projection

/-- An entry that drops nothing that the document has, and puts nothing at its path but what the document
has there. -/
structure Projection.LeavesAsIs (d : Document) (entry : String × Value) : Prop where
  dropped : entryMode entry.2 = .ok .drop → d.lookup entry.1 = none
  kept : ∀ v, valueOf d entry.1 entry.2 = some v → d.lookup entry.1 = some v

/-- The identifier of a document that has what another one has at its identifier. -/
theorem Document.lookup_of_isInsideId {out d : Document} (same : out.get? idKey = d.get? idKey)
    {field : String} (inside : IsInsideId field) : out.lookup field = d.lookup field :=
  Document.follow_eq_of_front (List.cons_ne_nil idKey []) inside.2 same

/-! ### Projections that keep -/

/-- Setting a path loses no key. -/
theorem Document.contains_setAt {d : Document} {other : String} (known : d.contains other = true)
    {path : List String} (nonempty : path ≠ []) (value : Value) :
    (d.setAt path value).contains other = true := by
  obtain ⟨key, path, rfl⟩ := List.exists_cons_of_ne_nil nonempty
  unfold Document.contains at known ⊢
  by_cases same : key = other
  · subst same
    cases path with
    | nil =>
      show ((d.insert key value).get? key).isSome = true
      rw [Document.get?_insert_self]
      rfl
    | cons next path =>
      rw [Document.setAt_cons d key (List.cons_ne_nil next path), Document.get?_insert_self]
      rfl
  · rw [Document.get?_setAt_of_ne d same]
    exact known

theorem get?_idOnly (d : Document) : (idOnly d).get? idKey = d.get? idKey := by
  unfold idOnly
  cases d.get? idKey with
  | none => rfl
  | some id => rfl

/-- **Keeping paths** keeps an identifier. -/
theorem contains_id_foldl_includeEntry (d projection : Document) {out : Document}
    (known : out.contains idKey = true) :
    (projection.foldl (includeEntry d) out).contains idKey = true := by
  refine List.foldlRecOn (motive := fun out : Document => out.contains idKey = true) projection _ known ?_
  intro before known entry _
  unfold includeEntry
  split
  · exact known
  · split
    · exact Document.contains_setAt known (segments_ne_nil entry.1) _
    · exact known

/-- **Keeping paths** that leave the identifier as it is. -/
theorem get?_id_foldl_includeEntry {d projection out : Document}
    (same : out.get? idKey = d.get? idKey)
    (leaves : ∀ entry ∈ projection, IsInsideId entry.1 → LeavesAsIs d entry) :
    (projection.foldl (includeEntry d) out).get? idKey = d.get? idKey := by
  refine List.foldlRecOn (motive := fun out : Document => out.get? idKey = d.get? idKey) projection _ same ?_
  intro before same entry member
  unfold includeEntry
  split
  · exact same
  · next apart =>
    split
    · next v found =>
      by_cases front : [idKey] <+: segments entry.1
      · have inside : IsInsideId entry.1 := ⟨apart, front⟩
        have there : before.lookup entry.1 = some v :=
          (Document.lookup_of_isInsideId same inside).trans ((leaves entry member inside).kept v found)
        rw [show before.setPath entry.1 v = before from Document.setAt_of_follow there]
        exact same
      · have behind : ¬segments entry.1 <+: [idKey] := fun back => apart (eq_idKey_of_front back)
        exact (Document.follow_setAt_of_apart before v behind front).trans same
    · exact same

/-! ### Projections that drop -/

/-- **Dropping paths** loses the identifier if it is named. -/
theorem contains_id_foldl_removeAt (d projection : Document) :
    ((paths projection).foldl Document.removeAt d).contains idKey = true ↔
      d.contains idKey = true ∧ ∀ entry ∈ projection, entry.1 ≠ idKey := by
  have nonempty : ∀ path ∈ paths projection, path ≠ [] :=
    forall_mem_paths.mpr fun entry _ => segments_ne_nil entry.1
  have named (entry : String × Value) : ¬segments entry.1 <+: [idKey] ↔ entry.1 ≠ idKey := by
    refine not_congr ⟨eq_idKey_of_front, ?_⟩
    intro same
    rw [same]
    exact List.prefix_rfl
  rw [Document.contains_iff_follow, Document.isSome_follow_foldl_removeAt_iff d nonempty,
    Document.contains_iff_follow]
  refine and_congr Iff.rfl (forall_mem_paths.trans ?_)
  exact forall₂_congr fun entry _ => named entry

/-- **Dropping a path** inside the identifier that leads somewhere changes the identifier. -/
theorem get?_id_foldl_removeAt_ne {d projection : Document} {entry : String × Value}
    (member : entry ∈ projection) (inside : IsInsideId entry.1) (there : d.lookup entry.1 ≠ none) :
    ((paths projection).foldl Document.removeAt d).get? idKey ≠ d.get? idKey := by
  intro same
  have nonempty : ∀ path ∈ paths projection, path ≠ [] :=
    forall_mem_paths.mpr fun other _ => segments_ne_nil other.1
  have found : (((paths projection).foldl Document.removeAt d).lookup entry.1).isSome := by
    rw [Document.lookup_of_isInsideId same inside]
    exact Option.isSome_iff_ne_none.mpr there
  have unnamed := ((Document.isSome_follow_foldl_removeAt_iff d nonempty _).mp found).2
  exact unnamed _ (List.mem_map_of_mem member) List.prefix_rfl

/-- **Dropping paths** that leave the identifier as it is. -/
theorem get?_id_foldl_removeAt {d projection : Document}
    (unnamed : ∀ entry ∈ projection, entry.1 ≠ idKey)
    (leaves : ∀ entry ∈ projection, IsInsideId entry.1 → d.lookup entry.1 = none) :
    ((paths projection).foldl Document.removeAt d).get? idKey = d.get? idKey := by
  refine List.foldlRecOn (motive := fun out : Document => out.get? idKey = d.get? idKey)
    (paths projection) _ rfl ?_
  intro before same path member
  obtain ⟨entry, listed, rfl⟩ := List.mem_map.mp member
  have apart := unnamed entry listed
  by_cases front : [idKey] <+: segments entry.1
  · have inside : IsInsideId entry.1 := ⟨apart, front⟩
    have missing : before.lookup entry.1 = none :=
      (Document.lookup_of_isInsideId same inside).trans (leaves entry listed inside)
    rw [Document.removeAt_of_follow_eq_none missing]
    exact same
  · have behind : ¬segments entry.1 <+: [idKey] := fun back => apart (eq_idKey_of_front back)
    exact (Document.follow_removeAt_of_apart before behind front).trans same

/-! ### All projections -/

section Reading

variable {projection : Document} {mode : Option ProjectionMode} {keepId : Bool}
  (settled : Projection.Settles none true projection mode keepId)
  (kept : ∀ entry ∈ projection, entry.1 = idKey → entryMode entry.2 = .ok .keep)

include settled kept

/-- The identifier is kept where no entry says otherwise. -/
theorem Projection.Settles.keeps : keepId = true := by
  rcases settled.identifier with ⟨same, _⟩ | ⟨entry, member, here, same⟩
  · exact same
  · rw [kept entry member here] at same
    cases keepId with
    | true => rfl
    | false => cases same

/-- Only a projection that drops has an entry that does. -/
theorem Projection.Settles.drops_iff :
    mode = some .drop ↔ ∃ entry ∈ projection, entryMode entry.2 = .ok .drop := by
  constructor
  · rintro rfl
    obtain ⟨entry, member, apart⟩ := settled.stated.resolve_left (Option.some_ne_none _)
    obtain ⟨m, same, one⟩ := settled.agreed entry member apart
    cases same
    exact ⟨entry, member, one⟩
  · rintro ⟨entry, member, dropped⟩
    have apart : entry.1 ≠ idKey := by
      intro here
      rw [kept entry member here] at dropped
      cases dropped
    obtain ⟨m, rfl, one⟩ := settled.agreed entry member apart
    rw [Except.ok.inj (one.symm.trans dropped)]

/-- **A projection that does not drop** keeps the identifier, as it is if the entries leave it so. -/
theorem id_of_rowOf_kept {d : Document} (known : d.contains idKey = true) (keeping : mode ≠ some .drop) :
    (rowOf d projection keepId mode).contains idKey = true ∧
      ((∀ entry ∈ projection, IsInsideId entry.1 → LeavesAsIs d entry) →
        (rowOf d projection keepId mode).get? idKey = d.get? idKey) := by
  rw [settled.keeps kept]
  cases mode with
  | none => exact ⟨known, fun _ => rfl⟩
  | some m =>
    cases m with
    | drop => exact absurd rfl keeping
    | keep =>
      have start : (idOnly d).contains idKey = true := by
        unfold Document.contains
        rw [get?_idOnly]
        exact known
      exact ⟨contains_id_foldl_includeEntry d projection start,
        get?_id_foldl_includeEntry (get?_idOnly d)⟩

end Reading

/-- **The identifier** of a document that has one, behind a projection that does not name it or asks to keep
it. It is lost exactly where an entry that asks to keep it stands beside an exclusion. Otherwise it is the
document's own if the entries for paths inside it ask for nothing but what is there. One that drops
something there changes it. -/
theorem id_of_project {d projection row : Document} (known : d.contains idKey = true)
    (kept : ∀ entry ∈ projection, entry.1 = idKey → entryMode entry.2 = .ok .keep)
    (projected : project d projection = .ok row) :
    (row.contains idKey = false ↔
      (∃ entry ∈ projection, entry.1 = idKey) ∧
        ∃ entry ∈ projection, entryMode entry.2 = .ok .drop) ∧
    (row.contains idKey = true →
      (∀ entry ∈ projection, IsInsideId entry.1 → LeavesAsIs d entry) →
        row.get? idKey = d.get? idKey) ∧
    ∀ entry ∈ projection, IsInsideId entry.1 → entryMode entry.2 = .ok .drop →
      d.lookup entry.1 ≠ none → row.get? idKey ≠ d.get? idKey := by
  rw [project_eq_map] at projected
  obtain ⟨⟨mode, keepId⟩, one, rfl⟩ := map_eq_ok.mp projected
  have settled := settles_of_modeOf one
  by_cases dropping : mode = some .drop
  · have exclusion := (settled.drops_iff kept).mp dropping
    subst dropping
    refine ⟨?lost, ?same, ?changed⟩
    case lost =>
      rw [and_iff_left exclusion, Bool.eq_false_iff, Ne]
      refine (not_congr (contains_id_foldl_removeAt d projection)).trans ?_
      simp [known]
    case same =>
      intro present leaves
      have unnamed := ((contains_id_foldl_removeAt d projection).mp present).2
      refine get?_id_foldl_removeAt unnamed fun entry member inside => ?_
      obtain ⟨m, same, drops⟩ := settled.agreed entry member inside.1
      cases same
      exact (leaves entry member inside).dropped drops
    case changed =>
      intro entry member inside _ there
      exact get?_id_foldl_removeAt_ne member inside there
  · have none_drops := mt (settled.drops_iff kept).mpr dropping
    obtain ⟨present, same⟩ := id_of_rowOf_kept settled kept known dropping
    refine ⟨iff_of_false ?_ fun both => none_drops both.2, fun _ => same, ?_⟩
    · exact fun lost => Bool.false_ne_true (lost.symm.trans present)
    · exact fun entry member _ dropped => absurd ⟨entry, member, dropped⟩ none_drops

/-- An account whose identifier has two parts. They are kept by a projection for the name and one of them,
changed where that part is dropped, and lost where the identifier is to be kept and the name dropped. -/
theorem id_of_project_account :
    let account : Document :=
      [("_id", .document [("region", .string "eu"), ("number", .int32 7)]), ("name", .string "Acme")]
    let kept (projection : Document) : Prop :=
      ∀ entry ∈ projection, entry.1 = idKey → entryMode entry.2 = .ok .keep
    let named : Document := [("name", .int32 1), ("_id.region", .bool true)]
    let parted : Document := [("_id.region", .int32 0), ("name", .bool false)]
    let beside : Document := [("name", .int32 0), ("_id", .int64 1)]
    account.contains idKey = true ∧ kept named ∧ kept parted ∧ kept beside ∧
      (∃ row, project account named = .ok row ∧ row.get? idKey = account.get? idKey) ∧
      (∃ row, project account parted = .ok row ∧
        row.contains idKey = true ∧ row.get? idKey ≠ account.get? idKey) ∧
      ∃ row, project account beside = .ok row ∧ row.contains idKey = false := by
  intro account kept named parted beside
  have known : account.contains idKey = true := by decide +kernel
  have keptNamed : kept named := by
    simp only [kept, named, List.forall_mem_cons]
    exact ⟨fun _ => rfl, fun _ => rfl, fun _ member => absurd member List.not_mem_nil⟩
  have keptParted : kept parted := by
    simp only [kept, parted, List.forall_mem_cons]
    exact ⟨fun here => absurd here (by decide), fun here => absurd here (by decide),
      fun _ member => absurd member List.not_mem_nil⟩
  have keptBeside : kept beside := by
    simp only [kept, beside, List.forall_mem_cons]
    exact ⟨fun here => absurd here (by decide), fun _ => rfl,
      fun _ member => absurd member List.not_mem_nil⟩
  have leaves : ∀ entry ∈ named, IsInsideId entry.1 → LeavesAsIs account entry := by
    simp only [named, List.forall_mem_cons]
    exact ⟨fun _ => ⟨fun dropped => (nomatch dropped), fun _ found => found⟩,
      fun _ => ⟨fun dropped => (nomatch dropped), fun _ found => found⟩,
      fun _ member => absurd member List.not_mem_nil⟩
  have ofNamed := id_of_project known keptNamed rfl
  have ofParted := id_of_project known keptParted rfl
  have ofBeside := id_of_project known keptBeside rfl
  refine ⟨known, keptNamed, keptParted, keptBeside, ⟨_, rfl, ?_⟩, ⟨_, rfl, ?_, ?_⟩, ⟨_, rfl, ?_⟩⟩
  · exact ofNamed.2.1 (by decide +kernel) leaves
  · decide +kernel
  · refine ofParted.2.2 _ List.mem_cons_self ⟨by decide, by decide +kernel⟩ rfl ?_
    exact Option.some_ne_none (Value.string "eu")
  · exact ofBeside.1.mpr ⟨⟨_, List.mem_cons_of_mem _ List.mem_cons_self, rfl⟩,
      _, List.mem_cons_self, rfl⟩

/-- Asking to keep the identifier, and nothing in its place, is not enough. -/
theorem id_lost_beside_exclusion :
    ¬∀ d projection row : Document, d.contains idKey = true →
      (∀ entry ∈ projection, entry.1 = idKey →
        entryMode entry.2 = .ok .keep ∧ entry.2.reference? = none) →
      project d projection = .ok row → row.get? idKey = d.get? idKey := by
  intro always
  let person : Document := [("_id", .int32 7), ("name", .string "Ada"), ("age", .int32 36)]
  let projection : Document := [("_id", .int32 1), ("name", .int32 0)]
  have kept : ∀ entry ∈ projection, entry.1 = idKey →
      entryMode entry.2 = .ok .keep ∧ entry.2.reference? = none := by
    simp only [projection, List.forall_mem_cons]
    exact ⟨fun _ => ⟨rfl, rfl⟩, fun here => absurd here (by decide),
      fun _ member => absurd member List.not_mem_nil⟩
  have same := always person projection [("age", .int32 36)] (by decide +kernel) kept rfl
  exact absurd (congrArg Option.isSome same) (by decide +kernel)

end DocTable
