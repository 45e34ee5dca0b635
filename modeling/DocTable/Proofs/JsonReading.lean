/-
**Trees are read back from their texts.**

The reader goes by the first character of a text, which tells the kind of tree, and leaves what stands behind
the text as it is. It spends at most two steps on a character, so the steps that it is given for a whole text
are enough for all of its parts.

* `Json.Legible`: trees whose numbers are whole numbers;
* `numberBody?_toString`: the literal of a whole number is read back;
* `IsRead`, `items?_itemChars`, `members?_memberChars`: parts between commas, from one part;
* `Legible.isRead`: every such tree, in front of anything that a tree may stand in front of;
* `Legible.parse?_print`: a whole text.
-/

import DocTable.Proofs.Placeholder
import DocTable.Proofs.ValueText

namespace DocTable.Json

/-- Text that may stand behind a tree: none, or text that begins with a mark between trees. -/
def Stops (text : List Char) : Prop := ∀ c ∈ text.head?, c = ',' ∨ c = ']' ∨ c = '\x7d'

theorem stops_cons {c : Char} (mark : c = ',' ∨ c = ']' ∨ c = '\x7d') (text : List Char) :
    Stops (c :: text) := by
  rintro _ ⟨⟩
  exact mark

/-- What holds of no text and behind each mark holds of all text that may stand behind a tree. -/
@[elab_as_elim]
theorem Stops.elim {motive : List Char → Prop} {back : List Char} (stops : Stops back)
    (nil : motive []) (comma : ∀ rest, motive (',' :: rest)) (bracket : ∀ rest, motive (']' :: rest))
    (brace : ∀ rest, motive ('\x7d' :: rest)) : motive back := by
  cases back with
  | nil => exact nil
  | cons c rest =>
    rcases stops c rfl with rfl | rfl | rfl
    · exact comma rest
    · exact bracket rest
    · exact brace rest

/-! ### Numbers -/

/-- A number has no fraction and no exponent in front of a mark. -/
theorem fractionPart?_stops {back : List Char} (stops : Stops back) :
    fractionPart? back = some ([], back) :=
  stops.elim rfl (fun _ => rfl) (fun _ => rfl) (fun _ => rfl)

theorem exponentPart?_stops {back : List Char} (stops : Stops back) :
    exponentPart? back = some ([], back) :=
  stops.elim rfl (fun _ => rfl) (fun _ => rfl) (fun _ => rfl)

theorem Stops.isDigit_eq_false {back : List Char} (stops : Stops back) :
    ∀ c ∈ back.head?, c.isDigit = false := by
  intro c first
  rcases stops c first with rfl | rfl | rfl
  · rfl
  · rfl
  · rfl

/-- The digits of a number are all taken, and nothing behind them. -/
theorem digits?_toDigits (n : Nat) {back : List Char} (stops : Stops back) :
    digits? (Nat.toDigits 10 n ++ back) = some (Nat.toDigits 10 n, back) := by
  have digits : ∀ c ∈ Nat.toDigits 10 n, c.isDigit = true :=
    fun c member => isDigit_of_mem_toDigits member
  unfold digits?
  rw [Text.takeWhile_append_of_head digits stops.isDigit_eq_false,
    Text.dropWhile_append_of_head digits stops.isDigit_eq_false]
  split
  · next none => exact absurd none Nat.toDigits_ne_nil
  · rfl

/-- The digits of a number are its whole part: no digits stand behind a zero in front. -/
theorem wholePart?_toDigits (n : Nat) {back : List Char} (stops : Stops back) :
    wholePart? (Nat.toDigits 10 n ++ back) = some (Nat.toDigits 10 n, back) := by
  unfold wholePart?
  rw [digits?_toDigits n stops, Option.bind_eq_bind, Option.bind_some]
  dsimp only
  split
  · next more => cases eq_nil_of_toDigits more
  · rfl

/-- **The literal of a whole number** is read back. -/
theorem numberBody?_toString (n : Int) {back : List Char} (stops : Stops back) :
    numberBody? ((toString n).toList ++ back) = some (toString n, back) := by
  have whole := wholePart?_toDigits n.natAbs stops
  have text : String.ofList (toString n).toList = toString n := String.ofList_toList
  rw [toList_toString_int] at text ⊢
  unfold numberBody?
  by_cases negative : n < 0
  · rw [if_pos negative] at text ⊢
    simp only [List.cons_append, List.nil_append, List.append_nil, whole, fractionPart?_stops stops,
      exponentPart?_stops stops, Option.bind_eq_bind, Option.bind_some] at text ⊢
    rw [text]
  · rw [if_neg negative, List.nil_append] at text ⊢
    split
    next signed =>
    split at signed
    · next same =>
      obtain ⟨c, rest, digits, digit⟩ := exists_first_digit n.natAbs
      rw [digits, List.cons_append] at same
      obtain ⟨rfl, _⟩ := List.cons.inj same
      exact absurd digit (by decide)
    · cases signed
      simp only [List.nil_append, List.append_nil, whole, fractionPart?_stops stops,
        exponentPart?_stops stops, Option.bind_eq_bind, Option.bind_some, text]

/-! ### The first character -/

theorem skipGap_cons {c : Char} (visible : isGap c = false) (rest : List Char) :
    skipGap (c :: rest) = c :: rest :=
  List.dropWhile_cons_of_neg (by rw [visible]; exact Bool.false_ne_true)

/-- Blanks stand in front of no tree. -/
theorem skipGap_of_kind {c : Char} {k : Kind} (begins : kindOf? c = some k) (rest : List Char) :
    skipGap (c :: rest) = c :: rest := by
  refine skipGap_cons (Bool.eq_false_iff.mpr fun gap => ?_) rest
  simp only [isGap, Bool.or_eq_true, decide_eq_true_eq] at gap
  rcases gap with ((rfl | rfl) | rfl) | rfl
  all_goals exact absurd begins (by rintro ⟨⟩)

/-- What begins like a number is read as one. -/
theorem value?_of_number {c : Char} (begins : kindOf? c = some .number) (fuel : Nat)
    (rest : List Char) :
    value? (fuel + 1) (c :: rest) =
      (numberBody? (c :: rest)).map fun (literal, rest) => (.number literal, rest) := by
  rw [value?, skipGap_of_kind begins]
  split
  case h_1 none => cases none
  case h_8 => rfl
  all_goals
    next same =>
    cases same
    cases begins

/-! ### Parts between commas -/

/-- Trees that are read back from their texts, whatever stands behind them. -/
def IsRead (j : Json) : Prop := ∀ fuel back, 2 * j.chars.length ≤ fuel → Stops back →
  value? fuel (j.chars ++ back) = some (j, back)

/-- **Items** that are read back one by one are read back up to the closing bracket. -/
theorem items?_itemChars {items : List Json} (each : ∀ item ∈ items, IsRead item)
    (some_item : items ≠ []) {fuel : Nat} {back : List Char}
    (enough : 2 * (itemChars items).length < fuel) :
    items? fuel (itemChars items ++ ']' :: back) = some (items, back) := by
  induction items generalizing fuel with
  | nil => exact absurd rfl some_item
  | cons item rest ih =>
    obtain ⟨fuel, rfl⟩ := Nat.exists_eq_add_one_of_ne_zero (Nat.ne_zero_of_lt enough)
    obtain ⟨first, later⟩ := List.forall_mem_cons.mp each
    cases rest with
    | nil =>
      have read := first fuel (']' :: back) (by rw [itemChars] at enough; omega)
        (stops_cons (by decide) back)
      rw [itemChars, items?, read]
      rfl
    | cons next rest =>
      have text : itemChars (item :: next :: rest) = item.chars ++ ',' :: itemChars (next :: rest) := by
        rw [itemChars]
        exact List.cons_ne_nil _ _
      rw [text, List.length_append, List.length_cons] at enough
      have read := first fuel (',' :: (itemChars (next :: rest) ++ ']' :: back)) (by omega)
        (stops_cons (by decide) _)
      have fits : 2 * (itemChars (next :: rest)).length < fuel := by omega
      rw [text, List.append_assoc, List.cons_append, items?, read]
      show (items? fuel (itemChars (next :: rest) ++ ']' :: back)).bind _ = _
      rw [ih later (List.cons_ne_nil _ _) fits]
      rfl

/-- A member whose key has been read. -/
def readMember (member : String × Json) : Option String × Json := (some member.1, member.2)

/-- Members whose keys have a text make an object. -/
theorem ofMembers_map_readMember (members : List (String × Json)) :
    ofMembers (members.map readMember) = .object members := by
  have keys : (members.map readMember).mapM (fun member => member.1.map (·, member.2)) =
      some members := by
    induction members with
    | nil => rfl
    | cons member rest ih =>
      rw [List.map_cons, List.mapM_cons, ih]
      rfl
  unfold ofMembers
  split
  · next found =>
    cases found.symm.trans keys
    rfl
  · next none => cases none.symm.trans keys

/-- A member and what stands behind it. -/
theorem memberText_append (member : String × Json) (back : List Char) :
    memberText member ++ back =
      '"' :: (member.1.toList.flatMap escapedChar ++ '"' :: ':' :: (member.2.chars ++ back)) := by
  unfold memberText
  rw [List.append_assoc, quote_append_eq]
  rfl

section Member

variable {member : String × Json} (read : IsRead member.2) {fuel : Nat}
  (enough : 2 * member.2.chars.length ≤ fuel) (back : List Char)

include read enough

/-- **A member** in front of others. -/
theorem members?_comma : members? (fuel + 1) (memberText member ++ ',' :: back) =
    (members? fuel back).map fun (members, rest) => (readMember member :: members, rest) := by
  have value := read fuel (',' :: back) enough (stops_cons (by decide) back)
  rw [memberText_append, members?]
  simp (disch := decide) only [skipGap_cons, stringBody?_quote, value, Option.bind_eq_bind,
    Option.bind_some]
  cases members? fuel back <;> rfl

/-- **The last member** of an object. -/
theorem members?_brace : members? (fuel + 1) (memberText member ++ '\x7d' :: back) =
    some ([readMember member], back) := by
  have value := read fuel ('\x7d' :: back) enough (stops_cons (by decide) back)
  rw [memberText_append, members?]
  simp (disch := decide) only [skipGap_cons, stringBody?_quote, value, Option.bind_eq_bind,
    Option.bind_some]
  rfl

end Member

/-- **Members** whose values are read back are read back up to the closing brace. -/
theorem members?_memberChars {members : List (String × Json)}
    (each : ∀ member ∈ members, IsRead member.2) (some_member : members ≠ []) {fuel : Nat}
    {back : List Char} (enough : 2 * (memberChars members).length < fuel) :
    members? fuel (memberChars members ++ '\x7d' :: back) = some (members.map readMember, back) := by
  induction members generalizing fuel with
  | nil => exact absurd rfl some_member
  | cons member rest ih =>
    obtain ⟨fuel, rfl⟩ := Nat.exists_eq_add_one_of_ne_zero (Nat.ne_zero_of_lt enough)
    obtain ⟨first, later⟩ := List.forall_mem_cons.mp each
    have length : member.2.chars.length ≤ (memberText member).length := by
      unfold memberText
      rw [List.length_append, List.length_cons]
      omega
    cases rest with
    | nil =>
      have text : memberChars [member] = memberText member := by rw [memberChars]; rfl
      rw [text] at enough ⊢
      exact members?_brace first (by omega) back
    | cons next rest =>
      have text : memberChars (member :: next :: rest) =
          memberText member ++ ',' :: memberChars (next :: rest) := by
        rw [memberChars]
        · rfl
        · exact List.cons_ne_nil _ _
      rw [text, List.length_append, List.length_cons] at enough
      rw [text, List.append_assoc, List.cons_append, members?_comma first (by omega),
        ih later (List.cons_ne_nil _ _) (by omega)]
      rfl

/-! ### Whole trees -/

/-- Trees whose numbers are whole numbers. -/
inductive Legible : Json → Prop where
  | null : Legible .null
  | bool (b : Bool) : Legible (.bool b)
  | int (n : Int) : Legible (.int n)
  | string (text : String) : Legible (.string text)
  | array (items : List Json) (each : ∀ item ∈ items, Legible item) : Legible (.array items)
  | object (members : List (String × Json)) (each : ∀ member ∈ members, Legible member.2) :
      Legible (.object members)

/-- Such trees are trees that texts are made of. -/
theorem Legible.written {j : Json} (legible : Legible j) : Written j := by
  induction legible with
  | null => exact .null
  | bool b => exact .bool b
  | int n => exact written_int n
  | string text => exact .string text
  | array items _ ih => exact .array items ih
  | object members _ ih => exact .object members ih

/-- The text of a tree has a character, so that one step can be spent on it. -/
theorem Written.isRead {j : Json} (written : Written j)
    (read : ∀ fuel back, 2 * j.chars.length ≤ fuel + 1 → Stops back →
      value? (fuel + 1) (j.chars ++ back) = some (j, back)) : IsRead j := by
  intro fuel back enough stops
  obtain ⟨c, rest, chars, _⟩ := written.exists_front
  obtain ⟨fuel, rfl⟩ := Nat.exists_eq_add_one_of_ne_zero (n := fuel) (by
    rw [chars, List.length_cons] at enough
    omega)
  exact read fuel back enough stops

theorem isRead_int (n : Int) : IsRead (.int n) := by
  refine (written_int n).isRead fun fuel back _ stops => ?_
  obtain ⟨c, rest, chars, begins⟩ := (written_int n).exists_front
  have literal : (toString n).toList = c :: rest := chars
  rw [chars, List.cons_append, value?_of_number begins, ← List.cons_append, ← literal,
    numberBody?_toString n stops]
  rfl

theorem isRead_string (text : String) : IsRead (.string text) := by
  refine (Written.string text).isRead fun fuel back _ _ => ?_
  rw [show chars (.string text) = quote text from rfl, quote_append_eq, value?,
    skipGap_of_kind (k := .string) rfl]
  simp only [stringBody?_quote, Option.map_some]

/-- The text of an array, read behind its opening bracket. -/
theorem isRead_array {items : List Json} (written : ∀ item ∈ items, Written item)
    (each : ∀ item ∈ items, IsRead item) : IsRead (.array items) := by
  refine (Written.array items written).isRead fun fuel back enough _ => ?_
  have length : (chars (.array items)).length = (itemChars items).length + 2 := by simp [chars]
  rw [length] at enough
  rw [chars_array_append, ← itemChars_eq, value?, skipGap_of_kind (k := .array) rfl]
  cases items with
  | nil => rfl
  | cons item rest =>
    have inside : items? fuel (itemChars (item :: rest) ++ ']' :: back) = some (item :: rest, back) :=
      items?_itemChars each (List.cons_ne_nil item rest) (by omega)
    obtain ⟨c, text, front, begins⟩ : ∃ c text, itemChars (item :: rest) ++ ']' :: back = c :: text ∧
        kindOf? c = some item.kind := by
      obtain ⟨c, text, chars, begins⟩ := (written item List.mem_cons_self).exists_front
      rw [itemChars_eq, intercalate_append, chars]
      exact ⟨c, _, rfl, begins⟩
    rw [front] at inside ⊢
    simp only [skipGap_of_kind begins]
    split
    · next same =>
      cases same
      cases begins
    · rw [inside]
      rfl

/-- The text of an object, read behind its opening brace. -/
theorem isRead_object {members : List (String × Json)}
    (written : ∀ member ∈ members, Written member.2) (each : ∀ member ∈ members, IsRead member.2) :
    IsRead (.object members) := by
  refine (Written.object members written).isRead fun fuel back enough _ => ?_
  have length : (chars (.object members)).length = (memberChars members).length + 2 := by simp [chars]
  rw [length] at enough
  rw [chars_object_append, ← memberChars_eq, value?, skipGap_of_kind (k := .object) rfl]
  cases members with
  | nil => rfl
  | cons member rest =>
    have inside : members? fuel (memberChars (member :: rest) ++ '\x7d' :: back) =
        some ((member :: rest).map readMember, back) :=
      members?_memberChars each (List.cons_ne_nil member rest) (by omega)
    obtain ⟨text, front⟩ : ∃ text, memberChars (member :: rest) ++ '\x7d' :: back = '"' :: text := by
      rw [memberChars_eq, intercalate_append, memberText_append]
      exact ⟨_, rfl⟩
    rw [front] at inside ⊢
    simp only [skipGap_of_kind (c := '"') (k := .string) rfl]
    show (members? fuel ('"' :: text)).map (fun (members, rest) => (ofMembers members, rest)) = _
    rw [inside]
    exact congrArg (fun j => some (j, back)) (ofMembers_map_readMember (member :: rest))

/-- **Every tree** whose numbers are whole numbers is read back from its text. -/
theorem Legible.isRead {j : Json} (legible : Legible j) : IsRead j := by
  induction legible with
  | null => exact Written.null.isRead fun _ _ _ _ => rfl
  | bool b => exact (Written.bool b).isRead fun _ _ _ _ => by cases b <;> rfl
  | int n => exact isRead_int n
  | string text => exact isRead_string text
  | array items each ih => exact isRead_array (fun item member => (each item member).written) ih
  | object members each ih => exact isRead_object (fun member inside => (each member inside).written) ih

/-- **A whole text** is read as the tree that it is the text of. -/
theorem Legible.parse?_print {j : Json} (legible : Legible j) : parse? j.print = some j := by
  have read := legible.isRead (2 * j.chars.length + 2) [] (by omega) nofun
  rw [List.append_nil] at read
  unfold parse? print
  rw [String.toList_ofList]
  simp only [read]
  rfl

end DocTable.Json
