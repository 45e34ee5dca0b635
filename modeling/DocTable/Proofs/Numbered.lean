/-
**Numbered parameters.**

A request lists its columns and its order entries by parameters with numbers in their names. Different
numbers make different names, so a list without a gap is no longer than the request, and there is a first
number that it does not have.

* `numberedKey_injective`: a name tells its number;
* `card_numberedNames`, `numberedNames_subset`: the names of a list without a gap are as many as its
  numbers, and names of the request;
* `le_length_of_numbered`: the numbers of a list without a gap;
* `exists_isLeast_end`: where such a list ends.
-/

import DocTable.Proofs.WholeNumbers
import DocTable.Table.Request
import Mathlib.Data.Finset.Card
import Mathlib.Data.Nat.Find
import Mathlib.Order.Bounds.Basic

namespace DocTable

open Web (Params)

/-- The name of a numbered parameter tells its number. -/
theorem numberedKey_injective (list part : String) :
    Function.Injective (numberedKey list · part) := by
  intro index other same
  refine toDigits_injective ?_
  simpa [numberedKey, ← String.toList_inj, Nat.toString_eq_ofList_toDigits] using same

/-! ### Names -/

/-- The names of the parameters, however often each of them is given. -/
def Web.Params.names (p : Params) : Finset String := (p.entries.map Prod.fst).toFinset

/-- The names are those of the parameters with a value. -/
theorem Web.Params.mem_names_iff {p : Params} {key : String} :
    key ∈ p.names ↔ (p.get? key).isSome := by
  simp [names, get?, List.find?_isSome]

theorem Web.Params.card_names_le (p : Params) : p.names.card ≤ p.entries.length := by
  simpa [names] using List.toFinset_card_le (p.entries.map Prod.fst)

/-- The names of the parameters with the first numbers of a list. -/
def numberedNames (list part : String) (n : Nat) : Finset String :=
  (Finset.range n).map ⟨(numberedKey list · part), numberedKey_injective list part⟩

theorem card_numberedNames (list part : String) (n : Nat) :
    (numberedNames list part n).card = n := by
  rw [numberedNames, Finset.card_map, Finset.card_range]

theorem numberedNames_subset {p : Params} {list part : String} {n : Nat}
    (present : ∀ index < n, (p.get? (numberedKey list index part)).isSome) :
    numberedNames list part n ⊆ p.names := by
  intro key member
  obtain ⟨index, below, rfl⟩ := Finset.mem_map.mp member
  exact Params.mem_names_iff.mpr (present index (Finset.mem_range.mp below))

/-! ### Lists without a gap -/

/-- **A list without a gap** is no longer than the request. -/
theorem le_length_of_numbered {p : Params} {list part : String} {n : Nat}
    (present : ∀ index < n, (p.get? (numberedKey list index part)).isSome) :
    n ≤ p.entries.length :=
  calc n = (numberedNames list part n).card := (card_numberedNames list part n).symm
    _ ≤ p.names.card := Finset.card_le_card (numberedNames_subset present)
    _ ≤ p.entries.length := p.card_names_le

/-- **The end of a list**: the first number at which it ends is at most the number of parameters. -/
theorem exists_isLeast_end {p : Params} {list part : String} {ends : Nat → Prop}
    (goesOn : ∀ index, ¬ends index → (p.get? (numberedKey list index part)).isSome) :
    ∃ n ≤ p.entries.length, IsLeast {index | ends index} n := by
  classical
  have ended : ∃ index, ends index := by
    by_contra never
    exact Nat.not_succ_le_self p.entries.length
      (le_length_of_numbered fun index _ => goesOn index (not_exists.mp never index))
  refine ⟨Nat.find ended, ?_, Nat.find_spec ended, fun index here => Nat.find_min' ended here⟩
  exact le_length_of_numbered fun index below => goesOn index (Nat.find_min ended below)

end DocTable
