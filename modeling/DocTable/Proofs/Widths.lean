/-
**Integers of two widths.**

The same number can be written as an integer of 32 bits or of 64 bits. Values that are numbers are compared
by what they are, whatever their width. Documents, arrays and scopes are compared as they are written, and
there an integer of one width differs from the same integer of the other one.

* `Value.Widens`: one integer of 32 bits is replaced by the same one of 64 bits;
* `Value.widened`: a value with all its integers at 64 bits;
* `Value.compare?_widened`, `Document.lookup_widened`: orders and paths do not depend on widths;
* `Value.same_iff`: what is written the same is the same once it is widened, and has integers of one width
  at each place;
* `Value.DiffersInWidth`: values that differ in nothing but widths inside them;
* `Value.equals_iff`, `Value.differsInWidth_iff`: equality depends on widths for these, and in no other
  case;
* `Value.not_differsInWidth_of_flat`: nor where the operand has no integers inside.
-/

import DocTable.Proofs.Comparisons
import Mathlib.Logic.Relation
import Mathlib.Tactic.ByContra

namespace DocTable

open Relation (ReflTransGen)

namespace Value

mutual

/-- The value with all its integers at 64 bits. -/
def widened : Value → Value
  | .int32 n => .int64 n.toInt64
  | .array items => .array (widenedItems items)
  | .document entries => .document (widenedEntries entries)
  | .codeWithScope s scope => .codeWithScope s (widenedEntries scope)
  | v => v
termination_by structural v => v

def widenedItems : List Value → List Value
  | [] => []
  | v :: rest => widened v :: widenedItems rest
termination_by structural items => items

def widenedEntries : List (String × Value) → List (String × Value)
  | [] => []
  | (key, v) :: rest => (key, widened v) :: widenedEntries rest
termination_by structural entries => entries

end

mutual

/-- Whether the integers at the same places of two values have the same widths. -/
def aligned : Value → Value → Bool
  | .int32 _, .int64 _ => false
  | .int64 _, .int32 _ => false
  | .array items, .array others => alignedItems items others
  | .document entries, .document d => alignedEntries entries d
  | .codeWithScope _ scope, .codeWithScope _ d => alignedEntries scope d
  | _, _ => true
termination_by structural v => v

def alignedItems : List Value → List Value → Bool
  | v :: rest, w :: others => aligned v w && alignedItems rest others
  | _, _ => true
termination_by structural items => items

def alignedEntries : List (String × Value) → Document → Bool
  | [], _ => true
  | (key, v) :: rest, d =>
    (match d.get? key with
      | some w => aligned v w
      | none => true) && alignedEntries rest d
termination_by structural entries => entries

end

mutual

/-- Whether there is an integer in a value. -/
def hasInteger : Value → Bool
  | .int32 _ => true
  | .int64 _ => true
  | .array items => itemsHaveInteger items
  | .document entries => entriesHaveInteger entries
  | .codeWithScope _ scope => entriesHaveInteger scope
  | _ => false
termination_by structural v => v

def itemsHaveInteger : List Value → Bool
  | [] => false
  | v :: rest => hasInteger v || itemsHaveInteger rest
termination_by structural items => items

def entriesHaveInteger : List (String × Value) → Bool
  | [] => false
  | (_, v) :: rest => hasInteger v || entriesHaveInteger rest
termination_by structural entries => entries

end

/-- Whether there is an integer inside a document, an array or a scope. -/
def nestsInteger : Value → Bool
  | .array items => itemsHaveInteger items
  | .document entries => entriesHaveInteger entries
  | .codeWithScope _ scope => entriesHaveInteger scope
  | _ => false

/-- One integer of 32 bits, at any depth, is replaced by the same integer of 64 bits. -/
inductive Widens : Value → Value → Prop where
  | integer (n : Int32) : Widens (.int32 n) (.int64 n.toInt64)
  | item (front back : List Value) {v w : Value} (inside : Widens v w) :
      Widens (.array (front ++ v :: back)) (.array (front ++ w :: back))
  | entry (front back : List (String × Value)) (key : String) {v w : Value} (inside : Widens v w) :
      Widens (.document (front ++ (key, v) :: back)) (.document (front ++ (key, w) :: back))
  | scope (s : String) (front back : List (String × Value)) (key : String) {v w : Value}
      (inside : Widens v w) :
      Widens (.codeWithScope s (front ++ (key, v) :: back))
        (.codeWithScope s (front ++ (key, w) :: back))

/-! ### Numbers -/

theorem toInt?_widened (v : Value) : v.widened.toInt? = v.toInt? := by
  cases v <;> simp [widened, toInt?]

theorem toDouble?_widened (v : Value) : v.widened.toDouble? = v.toDouble? := by
  cases v <;> simp [widened, toDouble?]

theorem isNull_widened (v : Value) : v.widened.isNull = v.isNull := by
  cases v <;> rfl

/-- **Orders** do not depend on widths. -/
theorem compare?_widened (v w : Value) : v.widened.compare? w.widened = v.compare? w := by
  simp only [compare?, toInt?_widened, toDouble?_widened]
  cases v <;> cases w <;> rfl

/-! ### Lists and documents -/

theorem widenedItems_eq_map (items : List Value) : widenedItems items = items.map widened := by
  induction items with
  | nil => rfl
  | cons v rest ih => rw [widenedItems, ih, List.map_cons]

theorem widenedEntries_eq_map (entries : List (String × Value)) :
    widenedEntries entries = entries.map fun entry => (entry.1, entry.2.widened) := by
  induction entries with
  | nil => rfl
  | cons entry rest ih => rw [widenedEntries, ih, List.map_cons]

theorem length_widenedEntries (entries : List (String × Value)) :
    (widenedEntries entries).length = entries.length := by
  rw [widenedEntries_eq_map, List.length_map]

/-- Replacing one integer leaves nothing to see once all are at 64 bits. -/
theorem Widens.widened_eq {v w : Value} (step : v.Widens w) : v.widened = w.widened := by
  induction step with
  | integer n => rfl
  | item front back _ ih => simp [widened, widenedItems_eq_map, ih]
  | entry front back key _ ih => simp [widened, widenedEntries_eq_map, ih]
  | scope s front back key _ ih => simp [widened, widenedEntries_eq_map, ih]

theorem widened_eq_of_widens {v w : Value} (steps : ReflTransGen Widens v w) : v.widened = w.widened := by
  induction steps with
  | refl => rfl
  | tail _ step ih => exact ih.trans step.widened_eq

theorem get?_widenedEntries (d : Document) (key : String) :
    Document.get? (widenedEntries d) key = (d.get? key).map widened := by
  induction d with
  | nil => rfl
  | cons entry rest ih =>
    obtain ⟨name, v⟩ := entry
    rw [widenedEntries, Document.get?, Document.get?]
    split
    · rfl
    · exact ih

/-! ### Values as they are written -/

/-- Different numbers stay different at 64 bits. -/
theorem toInt64_eq_iff (m n : Int32) : m.toInt64 = n.toInt64 ↔ m = n := by
  rw [← Int32.toInt_inj, ← Int64.toInt_inj, Int32.toInt_toInt64, Int32.toInt_toInt64]

mutual

/-- **What is written the same** is the same at 64 bits, with integers of one width at each place. -/
theorem same_iff : (v w : Value) →
    (v.same w = true ↔ v.widened.same w.widened = true ∧ v.aligned w = true)
  | .array items, w => by
    cases w
    case array others => simpa only [same, widened, aligned] using sameItems_iff items others
    all_goals simp [same, widened]
  | .document entries, w => by
    cases w
    case document d =>
      simp only [same, widened, aligned, Bool.and_eq_true, length_widenedEntries, sameEntries_iff entries d]
      tauto
    all_goals simp [same, widened]
  | .codeWithScope s scope, w => by
    cases w
    case codeWithScope t d =>
      simp only [same, widened, aligned, Bool.and_eq_true, length_widenedEntries, sameEntries_iff scope d]
      tauto
    all_goals simp [same, widened]
  | .int32 m, w => by cases w <;> simp [same, widened, aligned, toInt64_eq_iff]
  | .int64 m, w => by cases w <;> simp [same, widened, aligned]
  | .null, w | .bool _, w | .double _, w | .string _, w | .dateTime _, w | .objectId _, w
  | .undefined, w | .minKey, w | .maxKey, w | .timestamp _ _, w | .regex _ _, w | .symbol _, w
  | .code _, w | .binary _ _, w | .decimal128 _, w | .dbPointer _ _, w => by
    cases w <;> simp [same, widened, aligned]
termination_by structural v => v

theorem sameItems_iff : (items others : List Value) →
    (sameItems items others = true ↔
      sameItems (widenedItems items) (widenedItems others) = true ∧ alignedItems items others = true)
  | [], [] => by simp [sameItems, widenedItems, alignedItems]
  | [], _ :: _ => by simp [sameItems, widenedItems]
  | _ :: _, [] => by simp [sameItems, widenedItems]
  | v :: rest, w :: others => by
    simp only [sameItems, widenedItems, alignedItems, Bool.and_eq_true, same_iff v w,
      sameItems_iff rest others]
    tauto
termination_by structural items => items

theorem sameEntries_iff : (entries : List (String × Value)) → (d : Document) →
    (sameEntries entries d = true ↔
      sameEntries (widenedEntries entries) (widenedEntries d) = true ∧ alignedEntries entries d = true)
  | [], d => by simp [sameEntries, widenedEntries, alignedEntries]
  | (key, v) :: rest, d => by
    simp only [sameEntries, widenedEntries, alignedEntries, Bool.and_eq_true, get?_widenedEntries,
      sameEntries_iff rest d]
    cases d.get? key with
    | none => simp
    | some w =>
      simp only [Option.map_some, same_iff v w]
      tauto
termination_by structural entries => entries

end

/-! ### Values without integers inside -/

theorem hasInteger_of_get? {d : Document} (plain : entriesHaveInteger d = false) {key : String}
    {w : Value} (found : d.get? key = some w) : w.hasInteger = false := by
  induction d with
  | nil => cases found
  | cons entry rest ih =>
    obtain ⟨name, old⟩ := entry
    obtain ⟨first, others⟩ := Bool.or_eq_false_iff.mp plain
    unfold Document.get? at found
    split at found
    · cases found
      exact first
    · exact ih others found

mutual

/-- Anything is aligned with a value that has no integers. -/
theorem aligned_of_plain : (v w : Value) → w.hasInteger = false → v.aligned w = true
  | .array items, w, plain => by
    cases w
    case array others => exact alignedItems_of_plain items others plain
    all_goals rfl
  | .document entries, w, plain => by
    cases w
    case document d => exact alignedEntries_of_plain entries d plain
    all_goals rfl
  | .codeWithScope _ scope, w, plain => by
    cases w
    case codeWithScope _ d => exact alignedEntries_of_plain scope d plain
    all_goals rfl
  | .int32 _, w, plain | .int64 _, w, plain => by cases w <;> first | rfl | cases plain
  | .null, _, _ | .bool _, _, _ | .double _, _, _ | .string _, _, _ | .dateTime _, _, _
  | .objectId _, _, _ | .undefined, _, _ | .minKey, _, _ | .maxKey, _, _ | .timestamp _ _, _, _
  | .regex _ _, _, _ | .symbol _, _, _ | .code _, _, _ | .binary _ _, _, _ | .decimal128 _, _, _
  | .dbPointer _ _, _, _ => rfl
termination_by structural v => v

theorem alignedItems_of_plain : (items others : List Value) → itemsHaveInteger others = false →
    alignedItems items others = true
  | [], _, _ => rfl
  | _ :: _, [], _ => rfl
  | v :: rest, w :: others, plain => by
    obtain ⟨first, later⟩ := Bool.or_eq_false_iff.mp plain
    exact Bool.and_eq_true_iff.mpr ⟨aligned_of_plain v w first, alignedItems_of_plain rest others later⟩
termination_by structural items => items

theorem alignedEntries_of_plain : (entries : List (String × Value)) → (d : Document) →
    entriesHaveInteger d = false → alignedEntries entries d = true
  | [], _, _ => rfl
  | (key, v) :: rest, d, plain => by
    refine Bool.and_eq_true_iff.mpr ⟨?_, alignedEntries_of_plain rest d plain⟩
    cases found : d.get? key with
    | none => rfl
    | some w => exact aligned_of_plain v w (hasInteger_of_get? plain found)
termination_by structural entries => entries

end

mutual

theorem hasInteger_widened : (v : Value) → v.widened.hasInteger = v.hasInteger
  | .array items => itemsHaveInteger_widened items
  | .document entries => entriesHaveInteger_widened entries
  | .codeWithScope _ scope => entriesHaveInteger_widened scope
  | .int32 _ | .int64 _ | .null | .bool _ | .double _ | .string _ | .dateTime _ | .objectId _
  | .undefined | .minKey | .maxKey | .timestamp _ _ | .regex _ _ | .symbol _ | .code _
  | .binary _ _ | .decimal128 _ | .dbPointer _ _ => rfl
termination_by structural v => v

theorem itemsHaveInteger_widened : (items : List Value) →
    itemsHaveInteger (widenedItems items) = itemsHaveInteger items
  | [] => rfl
  | v :: rest => congrArg₂ or (hasInteger_widened v) (itemsHaveInteger_widened rest)
termination_by structural items => items

theorem entriesHaveInteger_widened : (entries : List (String × Value)) →
    entriesHaveInteger (widenedEntries entries) = entriesHaveInteger entries
  | [] => rfl
  | (_, v) :: rest => congrArg₂ or (hasInteger_widened v) (entriesHaveInteger_widened rest)
termination_by structural entries => entries

end

theorem nestsInteger_widened (v : Value) : v.widened.nestsInteger = v.nestsInteger := by
  cases v
  case array items => exact itemsHaveInteger_widened items
  case document entries => exact entriesHaveInteger_widened entries
  case codeWithScope _ scope => exact entriesHaveInteger_widened scope
  all_goals rfl

/-! ### Equality -/

/-- Two values, neither of them a number, that differ in nothing but the widths of integers inside
them. -/
def DiffersInWidth (v w : Value) : Prop :=
  v.toInt? = none ∧ v.widened.same w.widened = true ∧ v.aligned w = false

/-- Numbers do not differ in widths only: one that is no integer is a double, which has no width. -/
theorem not_differsInWidth_of_number {v w : Value} {x : Double} (left : v.toDouble? = some x) :
    ¬v.DiffersInWidth w := by
  rintro ⟨whole, same, apart⟩
  cases eq_double left whole
  cases w <;> cases apart

/-- What is the same as a number at 64 bits is a number. -/
theorem exists_toDouble?_of_same {v w : Value} (same : v.widened.same w.widened = true) :
    (∃ x, v.toDouble? = some x) ↔ ∃ y, w.toDouble? = some y := by
  have ranks := sortRank_of_same same
  rw [← toDouble?_widened v, ← toDouble?_widened w]
  constructor
  · rintro ⟨x, left⟩
    exact exists_toDouble? (ranks.symm.trans (sortRank_of_toDouble? left))
  · rintro ⟨y, right⟩
    exact exists_toDouble? (ranks.trans (sortRank_of_toDouble? right))

/-- **Equality** of values is equality at 64 bits, unless they differ in widths inside them only. -/
theorem equals_iff (v w : Value) :
    v.equals w = true ↔ v.widened.equals w.widened = true ∧ ¬v.DiffersInWidth w := by
  cases left : v.toDouble? with
  | some x =>
    rw [and_iff_left (not_differsInWidth_of_number left)]
    cases right : w.toDouble? with
    | some y => simp [equals, toInt?_widened, toDouble?_widened, left, right]
    | none =>
      have apart : v.widened.same w.widened ≠ true := fun same => by
        simpa [left, right] using exists_toDouble?_of_same same
      rw [equals_of_other (Or.inr right), same_iff,
        equals_of_other (Or.inr ((toDouble?_widened w).trans right))]
      simp [apart]
  | none =>
    have whole : v.toInt? = none := toInt?_eq_none left
    rw [equals_of_other (Or.inl left), same_iff,
      equals_of_other (Or.inl ((toDouble?_widened v).trans left))]
    simp only [DiffersInWidth, whole, true_and, not_and, Bool.not_eq_false]
    tauto

/-- Values differ in widths only where equality at 64 bits is not equality. -/
theorem differsInWidth_iff (v w : Value) :
    v.DiffersInWidth w ↔ v.widened.equals w.widened ≠ v.equals w := by
  constructor
  · intro differs
    have left : v.toDouble? = none := by
      cases number : v.toDouble? with
      | none => rfl
      | some x => exact absurd differs (not_differsInWidth_of_number number)
    have wide : v.widened.equals w.widened = true := by
      rw [equals_of_other (Or.inl ((toDouble?_widened v).trans left))]
      exact differs.2.1
    rw [wide]
    intro equal
    exact ((equals_iff v w).mp equal.symm).2 differs
  · intro apart
    by_contra close
    refine apart (Bool.eq_iff_iff.mpr ?_)
    rw [equals_iff v w, and_iff_left close]

/-- **Flat operands.** Nothing differs in widths only from a value without integers inside. -/
theorem not_differsInWidth_of_flat {v w : Value} (flat : w.nestsInteger = false) :
    ¬v.DiffersInWidth w := by
  rintro ⟨whole, same, apart⟩
  cases right : w.toDouble? with
  | some y =>
    obtain ⟨x, left⟩ := (exists_toDouble?_of_same same).mpr ⟨y, right⟩
    exact not_differsInWidth_of_number left ⟨whole, same, apart⟩
  | none =>
    have plain : w.hasInteger = false := by
      cases w
      case int32 | int64 => cases right
      all_goals exact flat
    cases (aligned_of_plain v w plain).symm.trans apart

end Value

namespace Document

/-- The document with all integers in it at 64 bits. -/
def widened (d : Document) : Document := Value.widenedEntries d

theorem entries?_widened (v : Value) : v.widened.entries? = v.entries?.map widened := by
  cases v <;> rfl

theorem follow_widened (d : Document) (path : List String) :
    d.widened.follow path = (d.follow path).map Value.widened := by
  induction path generalizing d with
  | nil => rfl
  | cons key rest ih =>
    have entry : d.widened.get? key = (d.get? key).map Value.widened := Value.get?_widenedEntries d key
    cases rest with
    | nil => exact entry
    | cons next later =>
      unfold follow
      rw [entry]
      cases d.get? key with
      | none => rfl
      | some v =>
        simp only [Option.map_some, Option.bind_some, entries?_widened]
        cases v.entries? with
        | none => rfl
        | some inner => exact ih inner

/-- **Paths** do not depend on widths. -/
theorem lookup_widened (d : Document) (path : String) :
    d.widened.lookup path = (d.lookup path).map Value.widened :=
  follow_widened d (segments path)

end Document

end DocTable
