/-
**Texts determine their trees.**

A string literal is read back by the reader of literals. So the text of a tree tells what the tree is, and
where the text ends if more stands behind it: by its first character it is a word, a number, a string, an
array or an object, and the parts of the last two are told apart one after the other.

* `stringBody?_quote`: a string literal is read back;
* `Json.Written`: trees that texts are made of;
* `Written.chars_append`: a text at the front of a longer one;
* `Written.eq_of_print`: trees with the same text.
-/

import DocTable.Json.Parser

namespace DocTable.Json

/-! ### String literals -/

/-- A control character is read by the number that it is written as. -/
theorem hexNumber?_control : ∀ code < 0x20,
    Text.hexNumber? ['0', '0', controlDigit (code / 16), controlDigit (code % 16)] = some code := by
  decide

/-- A unit that is no surrogate is a character by itself. -/
theorem textOfPieces?_unit {code : Nat} (low : code < 0xd800) (pieces : List Piece) :
    textOfPieces? (.unit code :: pieces) =
      (textOfPieces? pieces).map (Char.ofNat code :: ·) := by
  have high : isHighSurrogate code = false := decide_eq_false fun within => by omega
  have tail : isLowSurrogate code = false := decide_eq_false fun within => by omega
  cases pieces with
  | nil => simp [textOfPieces?, high, tail]
  | cons piece rest => cases piece <;> simp [textOfPieces?, high, tail]

/-- **One character** of a literal is read as one piece, which stands for the character. -/
theorem exists_piece (c : Char) {rest back : List Char} {pieces : List Piece} {text : List Char}
    (read : stringPieces? rest = some (pieces, back)) (stands : textOfPieces? pieces = some text) :
    ∃ piece, stringPieces? (escapedChar c ++ rest) = some (piece :: pieces, back) ∧
      textOfPieces? (piece :: pieces) = some (c :: text) := by
  have short {letter found : Char} (other : letter ≠ 'u') (short : shortEscape? letter = some found) :
      stringPieces? ('\\' :: letter :: rest) = some (.char found :: pieces, back) := by
    simp [stringPieces?, read, short, other]
  have plain (found : Char) : textOfPieces? (.char found :: pieces) = some (found :: text) := by
    rw [textOfPieces?, stands]
    rfl
  unfold escapedChar
  split
  · next same => exact ⟨.char '"', short (by decide) rfl, same ▸ plain _⟩
  split
  · next same => exact ⟨.char '\\', short (by decide) rfl, same ▸ plain _⟩
  split
  · next same =>
    refine ⟨.char (Char.ofNat 0x08), short (by decide) rfl, ?_⟩
    rw [plain, ← same, Char.ofNat_toNat]
  split
  · next same =>
    refine ⟨.char (Char.ofNat 0x0c), short (by decide) rfl, ?_⟩
    rw [plain, ← same, Char.ofNat_toNat]
  split
  · next same => exact ⟨.char '\n', short (by decide) rfl, same ▸ plain _⟩
  split
  · next same => exact ⟨.char '\r', short (by decide) rfl, same ▸ plain _⟩
  split
  · next same => exact ⟨.char '\t', short (by decide) rfl, same ▸ plain _⟩
  split
  · next control =>
    refine ⟨.unit c.toNat, ?_, ?_⟩
    · simp [stringPieces?, read, hexNumber?_control c.toNat control]
    · rw [textOfPieces?_unit (by omega), stands, Char.ofNat_toNat]
      rfl
  · next quote backslash _ _ _ _ _ visible =>
    refine ⟨.char c, ?_, plain c⟩
    show stringPieces? (c :: rest) = _
    rw [stringPieces?]
    · rw [if_neg (not_or.mpr ⟨visible, backslash⟩), read]
      rfl
    · exact quote
    · rintro _ _ _ _ _ rfl
      exact absurd rfl backslash
    · rintro _ _ rfl
      exact absurd rfl backslash

/-- The characters of a literal are read as pieces that stand for them. -/
theorem exists_stringPieces (chars back : List Char) : ∃ pieces,
    stringPieces? (chars.flatMap escapedChar ++ '"' :: back) = some (pieces, back) ∧
      textOfPieces? pieces = some chars := by
  induction chars with
  | nil => exact ⟨[], rfl, rfl⟩
  | cons c chars ih =>
    obtain ⟨pieces, read, stands⟩ := ih
    rw [List.flatMap_cons, List.append_assoc]
    obtain ⟨piece, more, longer⟩ := exists_piece c read stands
    exact ⟨piece :: pieces, more, longer⟩

/-- **A string literal** is read back, whatever stands behind it. -/
theorem stringBody?_quote (text : String) (back : List Char) :
    stringBody? (text.toList.flatMap escapedChar ++ '"' :: back) = some (some text, back) := by
  obtain ⟨pieces, read, stands⟩ := exists_stringPieces text.toList back
  unfold stringBody?
  rw [read]
  show some ((textOfPieces? pieces).map String.ofList, back) = _
  rw [stands, Option.map_some, String.ofList_toList]

/-- A text in quotes, and what stands behind it. -/
theorem quote_append_eq (text : String) (back : List Char) :
    quote text ++ back = '"' :: (text.toList.flatMap escapedChar ++ '"' :: back) := by
  show '"' :: (text.toList.flatMap escapedChar ++ ['"'] ++ back) = _
  rw [List.append_assoc]
  rfl

/-- A string literal at the front of a text is the only one there. -/
theorem quote_append {text other : String} {back rest : List Char}
    (same : quote text ++ back = quote other ++ rest) : text = other ∧ back = rest := by
  rw [quote_append_eq, quote_append_eq] at same
  have read := (stringBody?_quote text back).symm.trans
    ((congrArg stringBody? (List.cons.inj same).2).trans (stringBody?_quote other rest))
  cases read
  exact ⟨rfl, rfl⟩

/-! ### Trees that texts are made of -/

/-- The characters of numbers. -/
def isNumeral (c : Char) : Bool := c.isDigit || c == '-' || c == '+' || c == '.' || c == 'e'

/-- Trees without unreadable parts whose numbers look like numbers. -/
inductive Written : Json → Prop where
  | null : Written .null
  | bool (b : Bool) : Written (.bool b)
  | number (literal : String) (some_char : literal ≠ "")
      (numeral : ∀ c ∈ literal.toList, isNumeral c = true) : Written (.number literal)
  | string (text : String) : Written (.string text)
  | array (items : List Json) (each : ∀ item ∈ items, Written item) : Written (.array items)
  | object (members : List (String × Json)) (each : ∀ member ∈ members, Written member.2) :
      Written (.object members)

/-- Text in front of which a number may end. -/
def Ends (text : List Char) : Prop := ∀ c ∈ text.head?, isNumeral c = false

/-- The kinds of trees. -/
inductive Kind where
  | null
  | bool (b : Bool)
  | number
  | string
  | array
  | object

/-- The kind of a tree. -/
def kind : Json → Kind
  | .null => .null
  | .bool b => .bool b
  | .number _ => .number
  | .string _ => .string
  | .array _ => .array
  | .object _ => .object
  | .unreadable => .null

/-- The kind of tree whose text begins with a character. -/
def kindOf? (c : Char) : Option Kind :=
  if isNumeral c then some .number
  else match c with
    | 'n' => some .null
    | 't' => some (.bool true)
    | 'f' => some (.bool false)
    | '"' => some .string
    | '[' => some .array
    | '\x7b' => some .object
    | _ => none

/-- **The first character** of a text tells what kind of tree it is the text of. -/
theorem Written.exists_front {j : Json} (written : Written j) :
    ∃ c rest, j.chars = c :: rest ∧ kindOf? c = some j.kind := by
  cases written with
  | null => exact ⟨_, _, rfl, rfl⟩
  | bool b => cases b <;> exact ⟨_, _, rfl, rfl⟩
  | number literal some_char numeral =>
    obtain ⟨c, rest, letters⟩ :=
      List.exists_cons_of_ne_nil (mt String.toList_eq_nil_iff.mp some_char)
    refine ⟨c, rest, letters, if_pos (numeral c ?_)⟩
    rw [letters]
    exact List.mem_cons_self
  | string text => exact ⟨_, _, rfl, rfl⟩
  | array items _ => exact ⟨_, _, rfl, rfl⟩
  | object members _ => exact ⟨_, _, rfl, rfl⟩

/-- Trees with one text at the front of another one are of one kind. -/
theorem Written.kind_eq {j k : Json} (first : Written j) (second : Written k)
    {back rest : List Char} (same : j.chars ++ back = k.chars ++ rest) : j.kind = k.kind := by
  obtain ⟨c, later, text, begins⟩ := first.exists_front
  obtain ⟨d, further, other, opens⟩ := second.exists_front
  rw [text, other] at same
  rw [(List.cons.inj same).1, opens] at begins
  exact (Option.some.inj begins).symm

/-- Numbers end where their characters do. -/
theorem numeral_append {front other back rest : List Char}
    (numeral : ∀ c ∈ front, isNumeral c = true) (others : ∀ c ∈ other, isNumeral c = true)
    (ends : Ends back) (stops : Ends rest) (same : front ++ back = other ++ rest) :
    front = other ∧ back = rest := by
  induction front generalizing other with
  | nil =>
    cases other with
    | nil => exact ⟨rfl, same⟩
    | cons c other =>
      have inside := others c List.mem_cons_self
      rw [ends c (by rw [show back = c :: (other ++ rest) from same]; rfl)] at inside
      cases inside
  | cons c front ih =>
    cases other with
    | nil =>
      have inside := numeral c List.mem_cons_self
      rw [stops c (by rw [← show c :: (front ++ back) = rest from same]; rfl)] at inside
      cases inside
    | cons d other =>
      obtain ⟨rfl, later⟩ := List.cons.inj same
      obtain ⟨rfl, tail⟩ := ih (fun x member => numeral x (List.mem_cons_of_mem c member))
        (fun x member => others x (List.mem_cons_of_mem c member)) later
      exact ⟨rfl, tail⟩

/-! ### Parts between commas -/

theorem itemChars_eq (items : List Json) :
    itemChars items = [','].intercalate (items.map chars) := by
  induction items with
  | nil => rfl
  | cons item rest ih =>
    cases rest with
    | nil => exact (List.append_nil _).symm
    | cons next later =>
      rw [itemChars, ih]
      · rfl
      · exact List.cons_ne_nil _ _

/-- One member of an object. -/
def memberText (member : String × Json) : List Char := quote member.1 ++ ':' :: chars member.2

theorem memberChars_eq (members : List (String × Json)) :
    memberChars members = [','].intercalate (members.map memberText) := by
  induction members with
  | nil => rfl
  | cons member rest ih =>
    cases rest with
    | nil => exact (List.append_nil _).symm
    | cons next later =>
      rw [memberChars, ih]
      · rfl
      · exact List.cons_ne_nil _ _

/-- The text of a part tells which part it is, if a number may end behind it. -/
def Tells (f : α → List Char) (a b : α) : Prop :=
  ∀ back rest, Ends back → Ends rest → f a ++ back = f b ++ rest → a = b ∧ back = rest

/-- What stands behind a part: the closing character, or a comma and the other parts. -/
def behind (f : α → List Char) (close : Char) (back : List Char) : List α → List Char
  | [] => close :: back
  | next :: later => ',' :: ([','].intercalate ((next :: later).map f) ++ close :: back)

theorem intercalate_append (f : α → List Char) (close : Char) (back : List Char) (a : α)
    (later : List α) :
    [','].intercalate ((a :: later).map f) ++ close :: back = f a ++ behind f close back later := by
  cases later with
  | nil => rw [List.map_singleton, List.intercalate_singleton, behind]
  | cons next later =>
    rw [behind, List.map_cons, List.map_cons, List.intercalate_cons_cons, List.append_assoc,
      List.append_assoc]
    rfl

theorem ends_behind {close : Char} (closes : isNumeral close = false) (f : α → List Char)
    (back : List Char) (later : List α) : Ends (behind f close back later) := by
  cases later with
  | nil =>
    rintro _ ⟨⟩
    exact closes
  | cons next later =>
    rintro _ ⟨⟩
    rfl

/-- **Parts between commas** are told apart one after the other, up to the closing character. -/
theorem parts_append {f : α → List Char} {close : Char} (apart : close ≠ ',')
    (closes : isNumeral close = false) {parts others : List α} {back rest : List Char}
    (tells : ∀ a ∈ parts, ∀ b ∈ others, Tells f a b)
    (begins : ∀ a, a ∈ parts ∨ a ∈ others → ∃ c text, f a = c :: text ∧ c ≠ close)
    (same : [','].intercalate (parts.map f) ++ close :: back =
      [','].intercalate (others.map f) ++ close :: rest) :
    parts = others ∧ back = rest := by
  induction parts generalizing others with
  | nil =>
    cases others with
    | nil => exact ⟨rfl, (List.cons.inj same).2⟩
    | cons b others =>
      obtain ⟨c, text, opens, other⟩ := begins b (Or.inr List.mem_cons_self)
      rw [intercalate_append, opens] at same
      exact absurd (List.cons.inj same).1.symm other
  | cons a parts ih =>
    cases others with
    | nil =>
      obtain ⟨c, text, opens, other⟩ := begins a (Or.inl List.mem_cons_self)
      rw [intercalate_append, opens] at same
      exact absurd (List.cons.inj same).1 other
    | cons b others =>
      rw [intercalate_append, intercalate_append] at same
      obtain ⟨rfl, tail⟩ := tells a List.mem_cons_self b List.mem_cons_self _ _
        (ends_behind closes f back parts) (ends_behind closes f rest others) same
      cases parts with
      | nil =>
        cases others with
        | nil => exact ⟨rfl, (List.cons.inj tail).2⟩
        | cons _ _ => exact absurd (List.cons.inj tail).1 apart
      | cons next later =>
        cases others with
        | nil => exact absurd (List.cons.inj tail).1.symm apart
        | cons _ _ =>
          obtain ⟨same, rest⟩ := ih
            (fun x member y inside => tells x (List.mem_cons_of_mem a member) y
              (List.mem_cons_of_mem a inside))
            (fun x either => begins x (either.imp (List.mem_cons_of_mem a) (List.mem_cons_of_mem a)))
            (List.cons.inj tail).2
          exact ⟨congrArg (a :: ·) same, rest⟩

/-! ### Whole trees -/

/-- The text of a tree does not begin with a closing bracket. -/
theorem Written.exists_front_ne {j : Json} (written : Written j) :
    ∃ c text, j.chars = c :: text ∧ c ≠ ']' := by
  obtain ⟨c, text, chars, begins⟩ := written.exists_front
  refine ⟨c, text, chars, ?_⟩
  rintro rfl
  cases begins

/-- The text of an array, and what stands behind it. -/
theorem chars_array_append (items : List Json) (back : List Char) :
    chars (.array items) ++ back = '[' :: ([','].intercalate (items.map chars) ++ ']' :: back) := by
  rw [← itemChars_eq]
  exact congrArg ('[' :: ·) (List.append_assoc (itemChars items) [']'] back)

/-- The text of an object, and what stands behind it. -/
theorem chars_object_append (members : List (String × Json)) (back : List Char) :
    chars (.object members) ++ back =
      '\x7b' :: ([','].intercalate (members.map memberText) ++ '\x7d' :: back) := by
  rw [← memberChars_eq]
  exact congrArg ('\x7b' :: ·) (List.append_assoc (memberChars members) ['\x7d'] back)

/-- A member is told by its key and by the text of its value. -/
theorem tells_memberText {member other : String × Json} (value : Tells chars member.2 other.2) :
    Tells memberText member other := by
  intro back rest ends stops same
  unfold memberText at same
  rw [List.append_assoc, List.append_assoc] at same
  obtain ⟨keys, later⟩ := quote_append same
  obtain ⟨values, tail⟩ := value back rest ends stops (List.cons.inj later).2
  exact ⟨Prod.ext keys values, tail⟩

/-- **A text at the front of a longer one** tells its tree, and where it ends. -/
theorem Written.chars_append {j k : Json} (first : Written j) (second : Written k) :
    Tells chars j k := by
  induction first generalizing k with
  | null =>
    intro back rest _ _ same
    have kinds := Written.null.kind_eq second same
    cases second with
    | null => exact ⟨rfl, List.append_cancel_left same⟩
    | _ => cases kinds
  | bool b =>
    intro back rest _ _ same
    have kinds := (Written.bool b).kind_eq second same
    cases second with
    | bool c =>
      cases kinds
      exact ⟨rfl, List.append_cancel_left same⟩
    | _ => cases kinds
  | number literal some_char numeral =>
    intro back rest ends stops same
    have kinds := (Written.number literal some_char numeral).kind_eq second same
    cases second with
    | number other _ others =>
      obtain ⟨letters, tail⟩ := numeral_append numeral others ends stops same
      exact ⟨congrArg Json.number (String.toList_inj.mp letters), tail⟩
    | _ => cases kinds
  | string text =>
    intro back rest _ _ same
    have kinds := (Written.string text).kind_eq second same
    cases second with
    | string other =>
      obtain ⟨rfl, tail⟩ := quote_append same
      exact ⟨rfl, tail⟩
    | _ => cases kinds
  | array items each ih =>
    intro back rest _ _ same
    have kinds := (Written.array items each).kind_eq second same
    cases second with
    | array others every =>
      rw [chars_array_append, chars_array_append] at same
      obtain ⟨rfl, tail⟩ := parts_append (by decide) rfl
        (fun a member b inside => ih a member (every b inside))
        (fun a either => (either.elim (each a) (every a)).exists_front_ne) (List.cons.inj same).2
      exact ⟨rfl, tail⟩
    | _ => cases kinds
  | object members each ih =>
    intro back rest _ _ same
    have kinds := (Written.object members each).kind_eq second same
    cases second with
    | object others every =>
      rw [chars_object_append, chars_object_append] at same
      obtain ⟨rfl, tail⟩ := parts_append (by decide) rfl
        (fun a member b inside => tells_memberText (ih a member (every b inside)))
        (fun a _ => ⟨'"', _, rfl, by decide⟩) (List.cons.inj same).2
      exact ⟨rfl, tail⟩
    | _ => cases kinds

/-- **Trees with the same text** are the same. -/
theorem Written.eq_of_print {j k : Json} (first : Written j) (second : Written k)
    (same : j.print = k.print) : j = k := by
  have chars : j.chars = k.chars := String.ofList_inj.mp same
  have none : Ends [] := nofun
  exact (first.chars_append second [] [] none none (by rw [chars])).1

end DocTable.Json
