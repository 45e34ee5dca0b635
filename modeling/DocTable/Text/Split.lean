/-
**Cutting a text at a separator.**

* `splitOn_ne_nil`: there is always at least one piece;
* `intercalate_splitOn`: the pieces make up the text again;
* `pieces`: the same on strings;
* `splitOnce?`: one cut, at a longer separator.
-/

namespace DocTable.Text

/-- Puts a character or byte in front of what has been cut so far. -/
def cutStep [DecidableEq α] (sep c : α) : List (List α) → List (List α)
  | [] => [[c]]
  | piece :: more => if c = sep then [] :: piece :: more else (c :: piece) :: more

/-- The pieces between the occurrences of `sep`, empty ones included. -/
def splitOn [DecidableEq α] (sep : α) (chars : List α) : List (List α) :=
  chars.foldr (cutStep sep) [[]]

@[simp] theorem splitOn_nil [DecidableEq α] (sep : α) : splitOn sep [] = [[]] := rfl

@[simp] theorem splitOn_cons [DecidableEq α] (sep c : α) (rest : List α) :
    splitOn sep (c :: rest) = cutStep sep c (splitOn sep rest) := rfl

theorem splitOn_ne_nil [DecidableEq α] (sep : α) (chars : List α) : splitOn sep chars ≠ [] := by
  cases chars with
  | nil => simp
  | cons c rest =>
    rw [splitOn_cons]
    cases splitOn sep rest with
    | nil => simp [cutStep]
    | cons piece more =>
      simp only [cutStep]
      split <;> simp

/-- The pieces with the separator between them are the text. -/
theorem intercalate_splitOn [DecidableEq α] (sep : α) (chars : List α) :
    List.intercalate [sep] (splitOn sep chars) = chars := by
  induction chars with
  | nil => rfl
  | cons c rest ih =>
    rw [splitOn_cons]
    obtain ⟨piece, more, pieces⟩ := List.exists_cons_of_ne_nil (splitOn_ne_nil sep rest)
    rw [pieces] at ih ⊢
    show List.intercalate [sep] (if c = sep then [] :: piece :: more else (c :: piece) :: more) = _
    by_cases here : c = sep
    · rw [if_pos here, List.intercalate_cons_cons, ih, here]
      rfl
    · rw [if_neg here]
      cases more with
      | nil =>
        rw [List.intercalate_singleton] at ih ⊢
        rw [ih]
      | cons next later =>
        rw [List.intercalate_cons_cons] at ih ⊢
        rw [← ih]
        simp

/-- The pieces of a string. -/
def pieces (sep : Char) (s : String) : List String := (splitOn sep s.toList).map String.ofList

/-- What stands before and behind the first occurrence of a mark. -/
def splitOnce? [DecidableEq α] (mark : List α) : List α → Option (List α × List α)
  | [] => none
  | c :: rest =>
    if mark.isPrefixOf (c :: rest) then some ([], (c :: rest).drop mark.length)
    else (splitOnce? mark rest).map fun (front, back) => (c :: front, back)

end DocTable.Text
