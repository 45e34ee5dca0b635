/-
**Sets of characters as ascending ranges of code points.**
-/

namespace DocTable.Text

/-- Whether a code point lies in one of the ranges, which ascend and do not touch. -/
def inRanges (code : Nat) : List (Nat × Nat) → Bool
  | [] => false
  | (low, high) :: rest =>
    if code < low then false else if code ≤ high then true else inRanges code rest

end DocTable.Text
