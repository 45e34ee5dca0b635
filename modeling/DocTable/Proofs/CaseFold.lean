/-
**Characters up to case.**

The table of folds is a list of runs. Three facts about it carry everything here: every run moves code
points of characters to code points of characters, no two runs move the same one, and none moves one
that a run leads to.

* `fold_fold`: a fold is its own fold;
* `mem_foldMates_iff`: the fold mates of a character are the characters with its fold;
* `mem_folded_only`: the set of one character up to case.
-/

import DocTable.Regex.CharSet
import Mathlib.Data.List.Pairwise

namespace DocTable.Text

namespace CaseFold

/-! ### The runs of the table -/

/-- A run that is not empty and holds code points of characters only, as do its images. -/
def Run.Sound (r : Run) : Prop :=
  r.first ≤ r.last ∧ (r.last < 0xd800 ∨ (0xdfff < r.first ∧ r.last < 0x110000)) ∧
    (r.target + (r.last - r.first) < 0xd800 ∨
      (0xdfff < r.target ∧ r.target + (r.last - r.first) < 0x110000))
deriving Decidable

/-- A run in front of another one; the first code point is there to make this transitive. -/
def Run.Before (r o : Run) : Prop := r.first ≤ r.last ∧ r.last < o.first
deriving Decidable

instance : Trans Run.Before Run.Before Run.Before where
  trans := by
    rintro a b c ⟨ordered, front⟩ ⟨between, next⟩
    exact ⟨ordered, by omega⟩

/-- Where one run leads to, the other begins nowhere: the places lie apart, or the other run takes
every second code point and the images fall between them. -/
def Run.misses (r o : Run) : Bool :=
  (r.target + (r.last - r.first)).blt o.first || o.last.blt r.target ||
    (o.stride.beq 2 && (r.stride.beq 2 || r.first.beq r.last) &&
      ((r.target + o.first) % 2).beq 1)

theorem runs_sound : ∀ r ∈ runs, r.Sound := by decide +kernel

theorem runs_before : runs.Pairwise Run.Before := by
  rw [← List.isChain_iff_pairwise]
  decide +kernel

theorem runs_miss : ∀ r ∈ runs, runs.all r.misses = true := by decide +kernel

/-! ### One run -/

theorem Run.image?_eq_some (r : Run) (code image : Nat) :
    r.image? code = some image ↔
      (r.first ≤ code ∧ code ≤ r.last ∧ (code - r.first) % r.stride = 0) ∧
        r.target + (code - r.first) = image := by
  unfold Run.image?
  rw [Option.ite_none_right_eq_some, Option.some.injEq]

theorem Run.source?_eq_some (r : Run) (image code : Nat) :
    r.source? image = some code ↔
      (r.target ≤ image ∧ image - r.target ≤ r.last - r.first ∧
        (image - r.target) % r.stride = 0) ∧ r.first + (image - r.target) = code := by
  unfold Run.source?
  rw [Option.ite_none_right_eq_some, Option.some.injEq]

/-- The images of a run and their sources are the same pairs. -/
theorem Run.source?_iff_image? {r : Run} (sound : r.Sound) (code image : Nat) :
    r.source? image = some code ↔ r.image? code = some image := by
  obtain ⟨ordered, _, _⟩ := sound
  rw [source?_eq_some, image?_eq_some]
  constructor
  · rintro ⟨⟨above, near, step⟩, rfl⟩
    have back : r.first + (image - r.target) - r.first = image - r.target := by omega
    refine ⟨⟨by omega, by omega, ?_⟩, by omega⟩
    rw [back]
    exact step
  · rintro ⟨⟨above, near, step⟩, rfl⟩
    have back : r.target + (code - r.first) - r.target = code - r.first := by omega
    refine ⟨⟨by omega, by omega, ?_⟩, by omega⟩
    rw [back]
    exact step

theorem Run.isValidChar_of_image? {r : Run} (sound : r.Sound) {code image : Nat}
    (moved : r.image? code = some image) : code.isValidChar ∧ image.isValidChar := by
  obtain ⟨_, domain, target⟩ := sound
  obtain ⟨⟨above, near, _⟩, rfl⟩ := (r.image?_eq_some code image).mp moved
  unfold Nat.isValidChar
  omega

/-- An image of a run is moved by no run that it misses. -/
theorem Run.image?_eq_none_of_misses {r o : Run} (misses : r.misses o = true) {code image : Nat}
    (moved : r.image? code = some image) : o.image? image = none := by
  obtain ⟨⟨above, near, step⟩, place⟩ := (r.image?_eq_some code image).mp moved
  unfold Run.misses at misses
  simp only [Bool.or_eq_true, Bool.and_eq_true, Nat.blt_eq, Nat.beq_eq] at misses
  unfold Run.image?
  rw [if_neg]
  rintro ⟨begun, ended, even⟩
  rcases misses with (below | behind) | ⟨⟨second, narrow⟩, parity⟩
  · omega
  · omega
  · have shift : (code - r.first) % 2 = 0 := by
      rcases narrow with stride | single
      · rw [← stride]
        exact step
      · omega
    rw [second] at even
    omega

/-! ### The whole table -/

/-- No code point is moved by two runs. -/
theorem eq_of_image? {r o : Run} (member : r ∈ runs) (other : o ∈ runs) {code image another : Nat}
    (moved : r.image? code = some image) (again : o.image? code = some another) : r = o := by
  by_contra differ
  have symmetric : Std.Symm fun a b : Run => a.Before b ∨ b.Before a := ⟨fun _ _ => Or.symm⟩
  have either : runs.Pairwise fun a b => a.Before b ∨ b.Before a := runs_before.imp Or.inl
  have apart := either.forall member other differ
  obtain ⟨⟨above, near, _⟩, _⟩ := (r.image?_eq_some code image).mp moved
  obtain ⟨⟨begun, ended, _⟩, _⟩ := (o.image?_eq_some code another).mp again
  rcases apart with ⟨_, front⟩ | ⟨_, front⟩
  · omega
  · omega

/-- The run that moves a code point is the one that the search finds. -/
theorem findSome?_image?_eq_some (code image : Nat) :
    runs.findSome? (·.image? code) = some image ↔ ∃ r ∈ runs, r.image? code = some image := by
  constructor
  · intro found
    exact List.exists_of_findSome?_eq_some found
  · rintro ⟨r, member, moved⟩
    cases found : runs.findSome? (·.image? code) with
    | none =>
      rw [List.findSome?_eq_none_iff.mp found r member] at moved
      cases moved
    | some another =>
      obtain ⟨o, other, again⟩ := List.exists_of_findSome?_eq_some found
      have same := eq_of_image? member other moved again
      subst same
      rw [moved] at again
      exact again.symm

end CaseFold

open CaseFold

theorem toNat_ofNat_of_valid {code : Nat} (valid : code.isValidChar) :
    (Char.ofNat code).toNat = code := by
  unfold Char.ofNat
  rw [dif_pos valid]
  rfl

/-- A run of the table that moves a character gives its fold. -/
theorem fold_of_image? {r : Run} (member : r ∈ runs) {c : Char} {image : Nat}
    (moved : r.image? c.toNat = some image) : fold c = Char.ofNat image := by
  have found := (findSome?_image?_eq_some c.toNat image).mpr ⟨r, member, moved⟩
  unfold fold
  rw [found]

/-- A character is its own fold, or some run of the table moves it. -/
theorem fold_eq_or_moved (c : Char) :
    fold c = c ∨ ∃ r ∈ runs, ∃ image, r.image? c.toNat = some image := by
  cases found : runs.findSome? (·.image? c.toNat) with
  | none =>
    refine Or.inl ?_
    unfold fold
    rw [found]
  | some image =>
    obtain ⟨r, member, moved⟩ := (findSome?_image?_eq_some c.toNat image).mp found
    exact Or.inr ⟨r, member, image, moved⟩

/-- **A fold** is its own fold. -/
theorem fold_fold (c : Char) : fold (fold c) = fold c := by
  rcases fold_eq_or_moved c with fixed | ⟨r, member, image, moved⟩
  · rw [fixed, fixed]
  · rw [fold_of_image? member moved]
    have valid := (Run.isValidChar_of_image? (runs_sound r member) moved).2
    rcases fold_eq_or_moved (Char.ofNat image) with fixed | ⟨o, other, further, again⟩
    · exact fixed
    · rw [toNat_ofNat_of_valid valid,
        Run.image?_eq_none_of_misses (List.all_eq_true.mp (runs_miss r member) o other) moved]
        at again
      cases again

/-- **Fold mates.** They are the characters with the same fold. -/
theorem mem_foldMates_iff (c x : Char) : c ∈ foldMates x ↔ fold c = fold x := by
  unfold foldMates
  rw [List.mem_cons, List.mem_map]
  constructor
  · rintro (rfl | ⟨code, listed, rfl⟩)
    · exact fold_fold x
    · obtain ⟨r, member, source⟩ := List.mem_filterMap.mp listed
      have sound := runs_sound r member
      have moved := (Run.source?_iff_image? sound code _).mp source
      have valid := (Run.isValidChar_of_image? sound moved).1
      rw [← toNat_ofNat_of_valid valid] at moved
      rw [fold_of_image? member moved, Char.ofNat_toNat]
  · intro same
    rcases fold_eq_or_moved c with fixed | ⟨r, member, image, moved⟩
    · exact Or.inl (fixed.symm.trans same)
    · have sound := runs_sound r member
      have valid := (Run.isValidChar_of_image? sound moved).2
      have target : (fold x).toNat = image := by
        rw [← same, fold_of_image? member moved, toNat_ofNat_of_valid valid]
      refine Or.inr ⟨c.toNat, List.mem_filterMap.mpr ⟨r, member, ?_⟩, Char.ofNat_toNat c⟩
      rw [target]
      exact (Run.source?_iff_image? sound c.toNat image).mpr moved

theorem sameFold_iff (a b : Char) : sameFold a b = true ↔ fold a = fold b := beq_iff_eq

end DocTable.Text

namespace DocTable.Regex.CharSet

theorem mem_only (c x : Char) : (only c).mem x = true ↔ x = c := by
  unfold only mem
  rw [decide_eq_true_iff]
  refine ⟨fun ⟨low, high⟩ => Char.le_antisymm high low, ?_⟩
  rintro rfl
  exact ⟨Char.le_refl x, Char.le_refl x⟩

/-- **The set of one character up to case** holds the characters with its fold. -/
theorem mem_folded_only (c x : Char) : (CharSet.folded (only c)).mem x = Text.sameFold c x := by
  rw [Bool.eq_iff_iff, Text.sameFold_iff, ← Text.mem_foldMates_iff]
  unfold mem
  rw [Bool.or_eq_true, List.any_eq_true, mem_only]
  constructor
  · rintro (rfl | ⟨mate, member, same⟩)
    · exact (Text.mem_foldMates_iff x x).mpr rfl
    · exact (mem_only c mate).mp same ▸ member
  · intro member
    exact Or.inr ⟨c, member, (mem_only c c).mpr rfl⟩

end DocTable.Regex.CharSet
