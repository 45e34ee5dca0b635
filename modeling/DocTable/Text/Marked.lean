/-
**Marking the occurrences of a text.**

A marked text is a list of fragments: single characters, and occurrences that are marked. Leaving
the marks out gives the text back.

* `firstMatch?`: the first part of a text that equals a term up to case;
* `mark`: the occurrences of one text in another, from left to right and without overlap;
* `flatMap_text_mark`: marking changes no character.
-/

import DocTable.Text.CaseFold

namespace DocTable.Text

/-- The front of a text as far as it equals a term up to case, if the whole term is there. -/
def frontMatch? : List Char → List Char → Option (List Char)
  | [], _ => some []
  | _ :: _, [] => none
  | t :: term, c :: text =>
    if sameFold t c then (frontMatch? term text).map (c :: ·) else none

/-- The first part of a text that equals a term up to case. -/
def firstMatch? (term : List Char) : List Char → Option (List Char)
  | [] => frontMatch? term []
  | c :: text => (frontMatch? term (c :: text)).or (firstMatch? term text)

/-- A part of a text. -/
inductive Fragment where
  | plain (c : Char)
  | marked (text : List Char)
deriving DecidableEq, Repr

/-- The characters of a fragment. -/
def Fragment.text : Fragment → List Char
  | .plain c => [c]
  | .marked text => text

/-- Marks the occurrences of a text that is not empty. The counter is the number of characters of
the current occurrence still to be passed over. -/
def markFrom (needle : List Char) : Nat → List Char → List Fragment
  | _, [] => []
  | covered + 1, _ :: text => markFrom needle covered text
  | 0, c :: text =>
    if needle.isPrefixOf (c :: text) then .marked needle :: markFrom needle (needle.length - 1) text
    else .plain c :: markFrom needle 0 text

/-- The occurrences of a text in another one. -/
def mark (needle text : List Char) : List Fragment := markFrom needle 0 text

theorem flatMap_text_markFrom {needle : List Char} (nonempty : needle ≠ []) (covered : Nat)
    (text : List Char) :
    (markFrom needle covered text).flatMap Fragment.text = text.drop covered := by
  induction text generalizing covered with
  | nil => cases covered <;> simp [markFrom]
  | cons c text ih =>
    cases covered with
    | succ covered => simpa [markFrom] using ih covered
    | zero =>
      simp only [markFrom]
      split
      · rename_i front
        obtain ⟨rest, whole⟩ := List.isPrefixOf_iff_prefix.mp front
        rw [List.flatMap_cons, ih]
        obtain ⟨n, needle, rfl⟩ := List.exists_cons_of_ne_nil nonempty
        rw [List.cons_append, List.cons.injEq] at whole
        simp [Fragment.text, ← whole.1, ← whole.2]
      · simpa [Fragment.text] using ih 0

/-- **Marking changes no character.** -/
theorem flatMap_text_mark {needle : List Char} (nonempty : needle ≠ []) (text : List Char) :
    (mark needle text).flatMap Fragment.text = text := by
  simpa [mark] using flatMap_text_markFrom nonempty 0 text

end DocTable.Text
