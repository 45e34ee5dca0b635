/-
**The room of long texts.**

The pattern of a text takes the room of its characters. A text of one character over and over is taken by
the compiler of the server as long as there is room for the character as often.

* `takes_caselessNode_iff`: the texts whose patterns are taken;
* `takes_replicate_iff`, `not_takes_letters`: those of one character.
-/

import DocTable.Proofs.Literal
import DocTable.Regex.Room

namespace DocTable.Regex

theorem room_caselessNode {term : List Char} (nonempty : term ≠ []) :
    (caselessNode term).room = (term.map fun c => (caselessSet c).room).sum := by
  induction term with
  | nil => exact absurd rfl nonempty
  | cons c rest ih =>
    cases rest with
    | nil => exact (Nat.add_zero _).symm
    | cons d later =>
      show (caselessSet c).room + (caselessNode (d :: later)).room = _
      rw [ih (List.cons_ne_nil d later)]
      rfl

/-- **A text** is taken if there is room for all its characters. -/
theorem takes_caselessNode_iff {term : List Char} (nonempty : term ≠ []) :
    Compiler.takes (caselessNode term) = true ↔
      (term.map fun c => (caselessSet c).room).sum ≤ roomLimit := by
  rw [← room_caselessNode nonempty]
  exact decide_eq_true_iff

theorem ofList_replicate_ne_empty (c : Char) (count : Nat) :
    String.ofList (List.replicate (count + 1) c) ≠ "" := by
  intro empty
  have none := congrArg String.toList empty
  rw [String.toList_ofList, List.replicate_succ] at none
  exact List.cons_ne_nil _ _ none

/-- One character over and over is taken if there is room for it as often. -/
theorem takes_replicate_iff (c : Char) (count : Nat) :
    Compiler.takes (caselessNode (List.replicate (count + 1) c)) = true ↔
      (count + 1) * (caselessSet c).room ≤ roomLimit := by
  have nonempty : List.replicate (count + 1) c ≠ [] := List.cons_ne_nil _ _
  rw [takes_caselessNode_iff nonempty, List.map_replicate, List.sum_replicate_nat]

/-- The letter a is refused if it is repeated two hundred thousand times. -/
theorem not_takes_letters :
    ¬Compiler.takes (caselessNode (List.replicate 200000 'a')) = true := by
  have room : (caselessSet 'a').room = 80 := by decide +kernel
  refine mt (takes_replicate_iff 'a' 199999).mp ?_
  rw [room]
  unfold roomLimit
  omega

end DocTable.Regex
