/-
**What sorting gives.**

Keys order documents as a dictionary orders words: the first key that tells two documents apart decides.
A list has one arrangement at most that keeps its documents, puts them in the order of the keys and leaves
those that tie in their places to each other. Where the order is transitive, and this it is where no key
leads to a double, sorting gives this arrangement, and so does every other way of sorting that is stable.

* `Ties`, `InOrder`: documents that no key tells apart, and those that the keys do not turn around;
* `Orders`: keys in whose order what is in order in two steps is in order at once;
* `orders_of_plain`: this is so for documents without doubles at the keys;
* `Inserted`: what holds of the part that is sorted so far;
* `Arranges.eq`: there is one arrangement only;
* `sortDocuments_arranges`: and sorting gives it.
-/

import DocTable.Proofs.Order
import DocTable.Proofs.Sort
import Mathlib.Data.List.Induction

namespace DocTable

open Std (OrientedCmp TransCmp)

/-! ### The order of documents -/

/-- Documents that no key tells apart. -/
def Ties (keys : List SortKey) (a b : Document) : Prop :=
  ∀ key ∈ keys, sortCompare (a.lookup key.path) (b.lookup key.path) = .eq

instance decidable_ties (keys : List SortKey) (a b : Document) : Decidable (Ties keys a b) :=
  inferInstanceAs (Decidable (∀ key ∈ keys, _))

/-- A key admits a document in front of another one: what it finds there is not behind, or not before if
the key is descending. -/
def SortKey.Admits (key : SortKey) (a b : Document) : Prop :=
  if key.descending then sortCompare (a.lookup key.path) (b.lookup key.path) ≠ .lt
  else sortCompare (a.lookup key.path) (b.lookup key.path) ≠ .gt

/-- Two documents are in the order of the keys: each key admits them that comes after ties only. -/
def InOrder (keys : List SortKey) (a b : Document) : Prop :=
  ∀ before key after, keys = before ++ key :: after → Ties before a b → key.Admits a b

theorem Ties.refl (keys : List SortKey) (a : Document) : Ties keys a a :=
  fun _ _ => sortCompare_self _

theorem Ties.symm {keys : List SortKey} {a b : Document} (tied : Ties keys a b) : Ties keys b a := by
  intro key member
  rw [sortCompare_swap, tied key member]
  rfl

theorem SortKey.compare_eq_iff {key : SortKey} {a b : Document} :
    key.compare a b = .eq ↔ sortCompare (a.lookup key.path) (b.lookup key.path) = .eq := by
  unfold SortKey.compare
  cases key.descending
  · exact Iff.rfl
  · exact Ordering.swap_eq_eq

theorem SortKey.compare_ne_gt_iff {key : SortKey} {a b : Document} :
    key.compare a b ≠ .gt ↔ key.Admits a b := by
  unfold SortKey.compare SortKey.Admits
  cases key.descending
  · exact Iff.rfl
  · exact not_congr Ordering.swap_eq_gt

/-- Documents compare equal if they tie. -/
theorem compareBy_eq_iff {keys : List SortKey} {a b : Document} :
    compareBy keys a b = .eq ↔ Ties keys a b := by
  induction keys with
  | nil => exact ⟨fun _ => nofun, fun _ => rfl⟩
  | cons key rest ih =>
    unfold compareBy
    rw [Ordering.then_eq_eq, ih, SortKey.compare_eq_iff, Ties, Ties, List.forall_mem_cons]

theorem inOrder_cons {key : SortKey} {rest : List SortKey} {a b : Document} :
    InOrder (key :: rest) a b ↔
      key.Admits a b ∧
        (sortCompare (a.lookup key.path) (b.lookup key.path) = .eq → InOrder rest a b) := by
  constructor
  · intro ordered
    refine ⟨ordered [] key rest rfl nofun, fun tied before other after parts ties => ?_⟩
    exact ordered (key :: before) other after (congrArg (key :: ·) parts)
      (List.forall_mem_cons.mpr ⟨tied, ties⟩)
  · rintro ⟨first, later⟩ before other after parts ties
    cases before with
    | nil =>
      cases parts
      exact first
    | cons front before =>
      cases parts
      obtain ⟨tied, ties⟩ := List.forall_mem_cons.mp ties
      exact later tied before other after rfl ties

/-- **Documents that do not compare as turned around** are in the order of the keys. -/
theorem compareBy_ne_gt_iff {keys : List SortKey} {a b : Document} :
    compareBy keys a b ≠ .gt ↔ InOrder keys a b := by
  induction keys with
  | nil => exact ⟨fun _ before _ _ parts => absurd parts (by simp), fun _ => nofun⟩
  | cons key rest ih =>
    rw [inOrder_cons, ← ih, ← SortKey.compare_eq_iff, ← SortKey.compare_ne_gt_iff]
    rw [compareBy]
    cases key.compare a b <;> simp

/-! ### Documents that keys put in order -/

theorem SortKey.compare_swap (key : SortKey) (a b : Document) :
    key.compare a b = (key.compare b a).swap := by
  unfold SortKey.compare
  rw [sortCompare_swap]
  cases key.descending <;> rfl

/-- The sides of a comparison can be changed. -/
theorem compareBy_swap (keys : List SortKey) (a b : Document) :
    compareBy keys a b = (compareBy keys b a).swap := by
  induction keys with
  | nil => rfl
  | cons key rest ih => rw [compareBy, compareBy, Ordering.swap_then, ← ih, key.compare_swap]

/-- Documents tie that are in the order of the keys both ways round. -/
theorem ties_iff_inOrder {keys : List SortKey} {a b : Document} :
    Ties keys a b ↔ InOrder keys a b ∧ InOrder keys b a := by
  rw [← compareBy_eq_iff, ← compareBy_ne_gt_iff, ← compareBy_ne_gt_iff, compareBy_swap keys b a]
  cases compareBy keys a b <;> decide

/-- **Keys put documents in order** if what is in order in two steps is in order at once. -/
def Orders (keys : List SortKey) (docs : List Document) : Prop :=
  ∀ a ∈ docs, ∀ b ∈ docs, ∀ c ∈ docs, InOrder keys a b → InOrder keys b c → InOrder keys a c

theorem Orders.subset {keys : List SortKey} {docs others : List Document} (orders : Orders keys docs)
    (inside : others ⊆ docs) : Orders keys others :=
  fun a first b second c third =>
    orders a (inside first) b (inside second) c (inside third)

theorem Orders.ties_trans {keys : List SortKey} {docs : List Document} (orders : Orders keys docs)
    {a b c : Document} (first : a ∈ docs) (second : b ∈ docs) (third : c ∈ docs)
    (left : Ties keys a b) (right : Ties keys b c) : Ties keys a c := by
  rw [ties_iff_inOrder] at left right ⊢
  exact ⟨orders a first b second c third left.1 right.1,
    orders c third b second a first right.2 left.2⟩

/-! ### Documents without doubles at the keys -/

/-- No key leads to a double. -/
def Document.PlainAt (keys : List SortKey) (d : Document) : Prop :=
  ∀ key ∈ keys, ∀ x, d.lookup key.path ≠ some (.double x)

/-- One key orders documents that have no double there. -/
theorem transCmp_compare (key : SortKey) {plain : Document → Prop}
    (exact : ∀ d, plain d → ∀ x, d.lookup key.path ≠ some (.double x)) :
    TransCmp fun a b : { d // plain d } => key.compare a.1 b.1 where
  eq_swap := key.compare_swap _ _
  isLE_trans := by
    intro a b c
    have chain (d e : { d // plain d }) :=
      sortCompare_trans (a := d.1.lookup key.path) (c := e.1.lookup key.path) (exact b.1 b.2)
    rw [← Ordering.ne_gt_iff_isLE, ← Ordering.ne_gt_iff_isLE, ← Ordering.ne_gt_iff_isLE]
    unfold SortKey.compare
    cases key.descending
    · exact chain a c
    · simp only [if_true, ← sortCompare_swap]
      exact fun before behind => chain c a behind before

/-- **Keys order documents** that have no doubles there: they are compared as in a total preorder. -/
theorem transCmp_compareBy (keys : List SortKey) {plain : Document → Prop}
    (exact : ∀ d, plain d → d.PlainAt keys) :
    TransCmp fun a b : { d // plain d } => compareBy keys a.1 b.1 := by
  induction keys with
  | nil => exact { eq_swap := rfl, isLE_trans := fun _ _ => rfl }
  | cons key rest ih =>
    have first := transCmp_compare key fun d holds => exact d holds key List.mem_cons_self
    have later := ih fun d holds other member => exact d holds other (List.mem_cons_of_mem key member)
    exact inferInstanceAs (TransCmp (compareLex (fun a b : { d // plain d } => key.compare a.1 b.1)
      fun a b => compareBy rest a.1 b.1))

theorem orders_of_plain {keys : List SortKey} {docs : List Document}
    (plain : ∀ d ∈ docs, d.PlainAt keys) : Orders keys docs := by
  intro a first b second c third before behind
  rw [← compareBy_ne_gt_iff, ne_eq, Ordering.ne_gt_iff_isLE] at before behind ⊢
  exact (transCmp_compareBy keys fun _ => id).isLE_trans (a := ⟨a, plain a first⟩)
    (b := ⟨b, plain b second⟩) (c := ⟨c, plain c third⟩) before behind

/-! ### Inserting one document after the other -/

/-- What holds of the documents inserted so far, which are among those to sort. They stand the other way
round. -/
structure Inserted (keys : List SortKey) (whole docs sorted : List Document) : Prop where
  inside : sorted ⊆ whole
  order : sorted.Pairwise fun later earlier => InOrder keys earlier later
  ties : ∀ x ∈ whole, sorted.filter (Ties keys x ·) = (docs.filter (Ties keys x ·)).reverse

section Insertion

variable {keys : List SortKey} {whole : List Document} (orders : Orders keys whole)
  {d : Document} {sorted : List Document} (member : d ∈ whole)

include orders member

/-- Inserting a document keeps the order. -/
theorem pairwise_insertBehind (inside : sorted ⊆ whole)
    (order : sorted.Pairwise fun later earlier => InOrder keys earlier later) :
    (insertBehind keys d sorted).Pairwise fun later earlier => InOrder keys earlier later := by
  induction sorted with
  | nil => exact List.pairwise_singleton _ d
  | cons last rest ih =>
    obtain ⟨lastInside, restInside⟩ := List.cons_subset.mp inside
    obtain ⟨behind, ordered⟩ := List.pairwise_cons.mp order
    unfold insertBehind
    by_cases before : compareBy keys d last = .lt
    · rw [if_pos before]
      refine List.pairwise_cons.mpr ⟨fun e inserted => ?_, ih restInside ordered⟩
      rcases List.mem_cons.mp ((insertBehind_perm keys d rest).mem_iff.mp inserted) with rfl | old
      · rw [← compareBy_ne_gt_iff, before]
        decide
      · exact behind e old
    · rw [if_neg before]
      have next : InOrder keys last d := by
        rw [← compareBy_ne_gt_iff, compareBy_swap, ne_eq, Ordering.swap_eq_gt]
        exact before
      refine List.pairwise_cons.mpr ⟨List.forall_mem_cons.mpr ⟨next, fun e old => ?_⟩, order⟩
      exact orders e (restInside old) last lastInside d member (behind e old) next

/-- Inserting a document puts it in front of those that it ties with. -/
theorem filter_insertBehind (inside : sorted ⊆ whole) {x : Document} (known : x ∈ whole) :
    (insertBehind keys d sorted).filter (Ties keys x ·) = (d :: sorted).filter (Ties keys x ·) := by
  induction sorted with
  | nil => rfl
  | cons last rest ih =>
    obtain ⟨lastInside, restInside⟩ := List.cons_subset.mp inside
    unfold insertBehind
    by_cases before : compareBy keys d last = .lt
    · rw [if_pos before, List.filter_cons, ih restInside]
      by_cases tied : Ties keys x last
      · have apart : ¬Ties keys x d := by
          intro same
          have equal := compareBy_eq_iff.mpr
            (orders.ties_trans member known lastInside same.symm tied)
          rw [equal] at before
          cases before
        simp [List.filter_cons, apart]
      · simp [List.filter_cons, tied]
    · rw [if_neg before]

/-- The next document is inserted. -/
theorem Inserted.insert {docs : List Document} (inserted : Inserted keys whole docs sorted) :
    Inserted keys whole (docs ++ [d]) (insertBehind keys d sorted) where
  inside := by
    intro e new
    rcases List.mem_cons.mp ((insertBehind_perm keys d sorted).mem_iff.mp new) with rfl | old
    · exact member
    · exact inserted.inside old
  order := pairwise_insertBehind orders member inserted.inside inserted.order
  ties := by
    intro x known
    rw [filter_insertBehind orders member inserted.inside known, List.filter_append,
      List.reverse_append, ← inserted.ties x known, List.filter_cons]
    by_cases tied : Ties keys x d <;> simp [tied]

omit member

/-- All documents of a list are inserted. -/
theorem inserted_foldl {docs : List Document} (inside : docs ⊆ whole) :
    Inserted keys whole docs (docs.foldl (fun sorted d => insertBehind keys d sorted) []) := by
  induction docs using List.reverseRecOn with
  | nil => exact ⟨List.nil_subset _, .nil, fun _ _ => rfl⟩
  | append_singleton docs d ih =>
    obtain ⟨front, last⟩ := List.append_subset.mp inside
    rw [List.foldl_append]
    exact (ih front).insert orders (last List.mem_cons_self)

end Insertion

/-! ### Arrangements -/

/-- An arrangement of documents keeps them all, puts them in the order of the keys, and leaves those
that tie in the order that they had. -/
structure Arranges (keys : List SortKey) (docs sorted : List Document) : Prop where
  perm : sorted.Perm docs
  order : sorted.Pairwise (InOrder keys)
  ties : ∀ x ∈ docs, sorted.filter (Ties keys x ·) = docs.filter (Ties keys x ·)

/-- **Sorting arranges** documents that the keys put in order. -/
theorem arranges_sortDocuments {keys : List SortKey} {docs : List Document}
    (orders : Orders keys docs) : Arranges keys docs (sortDocuments keys docs) := by
  have inserted := inserted_foldl orders (List.Subset.refl docs)
  refine ⟨sortDocuments_perm keys docs, List.pairwise_reverse.mpr inserted.order, ?_⟩
  intro x member
  unfold sortDocuments
  rw [List.filter_reverse, inserted.ties x member, List.reverse_reverse]

/-- Lists of the same documents that are in order and have the same ties are the same. -/
theorem eq_of_ordered {keys : List SortKey} {left right : List Document} (perm : left.Perm right)
    (orderLeft : left.Pairwise (InOrder keys)) (orderRight : right.Pairwise (InOrder keys))
    (ties : ∀ x ∈ left, left.filter (Ties keys x ·) = right.filter (Ties keys x ·)) :
    left = right := by
  induction left generalizing right with
  | nil => exact (List.nil_perm.mp perm).symm
  | cons a rest ih =>
    cases right with
    | nil => exact absurd perm.eq_nil (List.cons_ne_nil a rest)
    | cons b others =>
      obtain ⟨firstA, orderRest⟩ := List.pairwise_cons.mp orderLeft
      obtain ⟨firstB, orderOthers⟩ := List.pairwise_cons.mp orderRight
      have tied : Ties keys a b := by
        rcases List.mem_cons.mp (perm.mem_iff.mpr List.mem_cons_self) with rfl | inRest
        · exact Ties.refl keys _
        rcases List.mem_cons.mp (perm.mem_iff.mp (List.mem_cons_self (a := a))) with rfl | inOthers
        · exact Ties.refl keys _
        · exact ties_iff_inOrder.mpr ⟨firstA b inRest, firstB a inOthers⟩
      have heads := ties a List.mem_cons_self
      simp only [List.filter_cons, Ties.refl, tied, decide_true, if_true, List.cons.injEq] at heads
      obtain ⟨rfl, _⟩ := heads
      refine congrArg (a :: ·)
        (ih (List.perm_cons a |>.mp perm) orderRest orderOthers fun x inside => ?_)
      have both := ties x (List.mem_cons_of_mem a inside)
      rw [List.filter_cons, List.filter_cons] at both
      by_cases first : Ties keys x a
      · simpa [first] using both
      · simpa [first] using both

/-- Arrangements of the same documents are the same. -/
theorem Arranges.eq {keys : List SortKey} {docs left right : List Document}
    (first : Arranges keys docs left) (second : Arranges keys docs right) : left = right := by
  have inside : ∀ x ∈ left, x ∈ docs := fun x member => first.perm.mem_iff.mp member
  exact eq_of_ordered (first.perm.trans second.perm.symm) first.order second.order
    fun x member => (first.ties x (inside x member)).trans (second.ties x (inside x member)).symm

/-! ### Missing values and nulls -/

/-- A missing value or a null. -/
def IsBlank (a : Option Value) : Prop := a = none ∨ a = some .null

theorem isBlank_iff {a : Option Value} : IsBlank a ↔ rankOf a = 0 := by
  constructor
  · rintro (rfl | rfl) <;> rfl
  · intro first
    cases a with
    | none => exact Or.inl rfl
    | some u =>
      cases u
      case null => exact Or.inr rfl
      all_goals cases first

/-- What is missing or null comes before everything else. -/
theorem sortCompare_of_blank {a b : Option Value} (blank : IsBlank a) (shown : ¬IsBlank b) :
    sortCompare a b = .lt := by
  rw [isBlank_iff] at blank shown
  rw [sortCompare_of_rank_ne (by omega), Nat.compare_eq_lt]
  omega

/-- **Sorting by several keys** is stable and correct. Where no key leads to a double in any document,
the sorted list is the one list that holds the same documents, has them in the order of the keys, each
ascending or descending, and keeps documents that tie in the order in which they came. An ascending key
puts what is missing or null first. -/
theorem sortDocuments_arranges (keys : List SortKey) (docs : List Document)
    (plain : ∀ d ∈ docs, ∀ key ∈ keys, ∀ x, d.lookup key.path ≠ some (.double x)) :
    (∀ sorted, Arranges keys docs sorted ↔ sorted = sortDocuments keys docs) ∧
      ∀ key : SortKey, key.descending = false → ∀ a b : Document, IsBlank (a.lookup key.path) →
        ¬IsBlank (b.lookup key.path) → key.Admits a b ∧ ¬key.Admits b a := by
  refine ⟨fun sorted => ⟨fun arranged => ?_, ?_⟩, fun key ascending a b blank shown => ?_⟩
  · exact arranged.eq (arranges_sortDocuments (orders_of_plain plain))
  · rintro rfl
    exact arranges_sortDocuments (orders_of_plain plain)
  · have before := sortCompare_of_blank blank shown
    unfold SortKey.Admits
    rw [ascending, sortCompare_swap (a.lookup key.path), before]
    decide

/-- Five people by age, the oldest first, and then by team: two that tie on both stay as they are, one
without a team comes before them, and one without an age comes last. -/
theorem sortDocuments_arranges_people :
    let keys : List SortKey := [⟨"age", true⟩, ⟨"team", false⟩]
    let ann : Document := [("name", .string "Ann")]
    let cid : Document := [("name", .string "Cid"), ("age", .int32 30), ("team", .string "x")]
    let bob : Document := [("name", .string "Bob"), ("age", .int64 30), ("team", .string "x")]
    let dee : Document := [("name", .string "Dee"), ("age", .int32 30), ("team", .null)]
    let eve : Document := [("name", .string "Eve"), ("age", .int64 9007199254740993)]
    let docs := [ann, cid, bob, dee, eve]
    SortKey.ofDocument [("age", .int32 (-1)), ("team", .int64 1)] = .ok keys ∧
      (∀ d ∈ docs, ∀ key ∈ keys, ∀ x, d.lookup key.path ≠ some (.double x)) ∧
      Arranges keys docs [eve, dee, cid, bob, ann] := by
  intro keys ann cid bob dee eve docs
  have plain : ∀ d ∈ docs, ∀ key ∈ keys, ∀ x, d.lookup key.path ≠ some (.double x) := by
    simp only [docs, keys, List.forall_mem_cons]
    exact ⟨⟨nofun, nofun, nofun⟩, ⟨nofun, nofun, nofun⟩, ⟨nofun, nofun, nofun⟩,
      ⟨nofun, nofun, nofun⟩, ⟨nofun, nofun, nofun⟩, nofun⟩
  exact ⟨rfl, plain, ((sortDocuments_arranges keys docs plain).1 _).mpr rfl⟩

end DocTable
