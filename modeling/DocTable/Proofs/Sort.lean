/-
**What sorting keeps and what it reads.**

* `sortDocuments_perm`: sorting neither loses nor makes documents;
* `forall₂_sortDocuments`: lists that the keys cannot tell apart are sorted alike;
* `path_mem_of_compileSort`: the keys of a query are its sort fields;
* `compileSort_ne_nil`: there is one at least in a sort document of a query.
-/

import DocTable.Proofs.Document
import DocTable.Proofs.Except
import DocTable.Query.Compile
import DocTable.Store.Sort

namespace DocTable

theorem insertBehind_perm (keys : List SortKey) (d : Document) (sorted : List Document) :
    (insertBehind keys d sorted).Perm (d :: sorted) := by
  induction sorted with
  | nil => exact List.Perm.refl _
  | cons last rest ih =>
    unfold insertBehind
    split
    · exact (ih.cons last).trans (List.Perm.swap d last rest)
    · exact List.Perm.refl _

/-- **Sorting rearranges**: it neither loses nor makes documents. -/
theorem sortDocuments_perm (keys : List SortKey) (docs : List Document) :
    (sortDocuments keys docs).Perm docs := by
  have inserted : ∀ sorted, (docs.foldl (fun sorted d => insertBehind keys d sorted) sorted).Perm
      (docs ++ sorted) := by
    induction docs with
    | nil => exact fun sorted => List.Perm.refl _
    | cons d rest ih =>
      intro sorted
      have placed := (insertBehind_perm keys d sorted).append_left rest
      exact (ih _).trans (placed.trans List.perm_middle)
  have all := inserted []
  rw [List.append_nil] at all
  exact (List.reverse_perm _).trans all

/-! ### Sorting two lists side by side -/

section SideBySide

variable {R : Document → Document → Prop} {keys : List SortKey}
  (same : ∀ {a b d e}, R a b → R d e → compareBy keys a d = compareBy keys b e)

include same

/-- One document is put at the same place of both lists. -/
theorem forall₂_insertBehind {d e : Document} (related : R d e) {left right : List Document}
    (pairs : List.Forall₂ R left right) :
    List.Forall₂ R (insertBehind keys d left) (insertBehind keys e right) := by
  induction pairs with
  | nil => exact .cons related .nil
  | cons last rest ih =>
    unfold insertBehind
    rw [same related last]
    split
    · exact .cons last ih
    · exact .cons related (.cons last rest)

/-- **Lists that the keys cannot tell apart** are sorted alike. -/
theorem forall₂_sortDocuments {left right : List Document} (pairs : List.Forall₂ R left right) :
    List.Forall₂ R (sortDocuments keys left) (sortDocuments keys right) := by
  have inserted : ∀ {first second}, List.Forall₂ R first second →
      List.Forall₂ R (left.foldl (fun sorted d => insertBehind keys d sorted) first)
        (right.foldl (fun sorted d => insertBehind keys d sorted) second) := by
    induction pairs with
    | nil => exact id
    | cons related _ ih => exact fun sorted => ih (forall₂_insertBehind same related sorted)
  exact List.rel_reverse (inserted .nil)

end SideBySide

/-- The order of documents goes by what they have at the paths of the keys. -/
theorem compareBy_congr {keys : List SortKey} {a b d e : Document}
    (left : ∀ key ∈ keys, a.lookup key.path = b.lookup key.path)
    (right : ∀ key ∈ keys, d.lookup key.path = e.lookup key.path) :
    compareBy keys a d = compareBy keys b e := by
  induction keys with
  | nil => rfl
  | cons key rest ih =>
    have first : key.compare a d = key.compare b e := by
      unfold SortKey.compare
      rw [left key List.mem_cons_self, right key List.mem_cons_self]
    unfold compareBy
    rw [first, ih (fun other member => left other (List.mem_cons_of_mem key member))
      (fun other member => right other (List.mem_cons_of_mem key member))]

/-! ### The keys of a query -/

/-- The keys of a sort document are its paths. -/
theorem path_mem_of_ofDocument {spec : Document} {keys : List SortKey}
    (read : SortKey.ofDocument spec = .ok keys) : ∀ key ∈ keys, ∃ entry ∈ spec, entry.1 = key.path := by
  have pairs : List.Forall₂ (fun entry : String × Value => fun key : SortKey =>
      SortKey.ofEntry entry.1 entry.2 = .ok key) spec keys := by
    cases spec with
    | nil => cases read
    | cons entry rest => exact mapM_eq_ok.mp read
  clear read
  induction pairs with
  | nil => exact fun key member => absurd member List.not_mem_nil
  | @cons entry key _ _ head _ ih =>
    have path : entry.1 = key.path := by
      unfold SortKey.ofEntry at head
      split at head
      · cases head
        rfl
      · cases head
    intro other member
    rcases List.mem_cons.mp member with rfl | later
    · exact ⟨entry, List.mem_cons_self, path⟩
    · obtain ⟨found, inside, same⟩ := ih other later
      exact ⟨found, List.mem_cons_of_mem entry inside, same⟩

/-- **The keys of a query** are its sort fields. -/
theorem path_mem_of_compileSort {sorts : List SortField} {spec : Document}
    (compiled : compileSort sorts = some spec) :
    ∀ entry ∈ spec, ∃ sort ∈ sorts, sort.field = entry.1 := by
  have one (d : Document) (sort : SortField) (entry : String × Value)
      (member : entry ∈ addSortField d sort) : entry ∈ d ∨ sort.field = entry.1 := by
    unfold addSortField at member
    split at member
    · exact Or.inl member
    · rcases Document.mem_of_mem_insert member with rfl | old
      · exact Or.inr rfl
      · exact Or.inl old
  unfold compileSort at compiled
  split at compiled
  · cases compiled
  · cases compiled
    intro entry member
    exact (Document.mem_of_mem_foldl one member).resolve_left List.not_mem_nil

/-- Adding sort fields to a sort document never leaves it empty. -/
theorem foldl_addSortField_ne_nil (sorts : List SortField) {spec : Document} (some_key : spec ≠ []) :
    sorts.foldl addSortField spec ≠ [] := by
  induction sorts generalizing spec with
  | nil => exact some_key
  | cons sort rest ih =>
    refine ih ?_
    unfold addSortField
    split
    · exact some_key
    · exact Document.insert_ne_nil _ _ _

/-- A compiled sort document is not empty. -/
theorem compileSort_ne_nil {sorts : List SortField} {spec : Document}
    (compiled : compileSort sorts = some spec) : spec ≠ [] := by
  cases sorts with
  | nil => cases compiled
  | cons sort rest =>
    have first : addSortField [] sort ≠ [] := List.cons_ne_nil _ _
    rw [← Option.some.inj compiled]
    exact foldl_addSortField_ne_nil rest first

end DocTable
