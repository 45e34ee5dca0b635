/-
**Terms in escaped text.**

Escaping writes one character after the other, and characters that differ in case only are written the
same way up to case. So where a text holds a term up to case, the escaped text holds the escaped term.
The converse fails, since an escaped term may stand inside of an escaped character; it does not begin in
front of one without ending behind one, though.

* `firstMatch?_isSome_iff`: a text that holds a term has a first match;
* `sameUpToCase_htmlEscape`, `containsUpToCase_htmlEscape`: escaping and case;
* `exists_of_htmlEscape_front`: the characters that begin like an escaped term.
-/

import DocTable.Proofs.Literal
import DocTable.Proofs.Markup

namespace DocTable.Text

open Regex

/-! ### The first match -/

/-- A text that begins with a term up to case is matched as far as it does. -/
theorem frontMatch?_append {term part : List Char} (same : SameUpToCase term part)
    (back : List Char) : frontMatch? term (part ++ back) = some part := by
  induction same with
  | nil => cases back <;> rfl
  | cons first _ ih =>
    rw [List.cons_append, frontMatch?, if_pos first, ih]
    rfl

/-- What is found at the front of a text is the front of it. -/
theorem exists_back_of_frontMatch? {term text found : List Char}
    (matched : frontMatch? term text = some found) : ∃ back, text = found ++ back := by
  induction term generalizing text found with
  | nil =>
    cases matched
    exact ⟨text, rfl⟩
  | cons t term ih =>
    cases text with
    | nil => cases matched
    | cons c text =>
      unfold frontMatch? at matched
      split at matched
      · obtain ⟨rest, later, rfl⟩ := Option.map_eq_some_iff.mp matched
        obtain ⟨back, rfl⟩ := ih later
        exact ⟨back, rfl⟩
      · cases matched

/-- What is found in a text is a part of it. -/
theorem exists_of_firstMatch? {term text found : List Char}
    (matched : firstMatch? term text = some found) :
    ∃ front back, text = front ++ (found ++ back) := by
  induction text with
  | nil =>
    obtain ⟨back, whole⟩ := exists_back_of_frontMatch? matched
    exact ⟨[], back, whole⟩
  | cons c text ih =>
    unfold firstMatch? at matched
    rcases Option.or_eq_some_iff.mp matched with front | ⟨_, later⟩
    · obtain ⟨back, whole⟩ := exists_back_of_frontMatch? front
      exact ⟨[], back, whole⟩
    · obtain ⟨front, back, rfl⟩ := ih later
      exact ⟨c :: front, back, rfl⟩

/-- A match at the front of a text is the first one. -/
theorem firstMatch?_of_frontMatch? {term text found : List Char}
    (matched : frontMatch? term text = some found) : firstMatch? term text = some found := by
  cases text with
  | nil => exact matched
  | cons c text =>
    rw [firstMatch?, matched]
    rfl

/-- **The first match** exists just where the text holds the term. -/
theorem firstMatch?_isSome_iff (term text : List Char) :
    (firstMatch? term text).isSome = true ↔ ContainsUpToCase text term := by
  constructor
  · intro some_match
    obtain ⟨found, matched⟩ := Option.isSome_iff_exists.mp some_match
    obtain ⟨front, back, whole⟩ := exists_of_firstMatch? matched
    exact ⟨front, found, back, by rw [whole, List.append_assoc], forall₂_of_firstMatch? matched⟩
  · rintro ⟨front, part, back, rfl, same⟩
    rw [List.append_assoc]
    induction front with
    | nil =>
      rw [List.nil_append, firstMatch?_of_frontMatch? (frontMatch?_append same back)]
      rfl
    | cons c front ih =>
      rw [List.cons_append, firstMatch?, Option.isSome_or, ih, Bool.or_true]

/-! ### Escaped characters -/

/-- The characters that are not written as themselves. -/
def specialChars : List Char := ['&', '<', '>', '"', '\'', '/']

theorem htmlChar_of_not_mem {c : Char} (plain : c ∉ specialChars) : htmlChar c = [c] := by
  simp only [specialChars, List.mem_cons, List.not_mem_nil, or_false, not_or] at plain
  obtain ⟨amp, less, greater, quote, apostrophe, slash⟩ := plain
  unfold htmlChar
  split
  all_goals first | contradiction | rfl

/-- A special character is written as a name behind an ampersand. -/
theorem head?_htmlChar : ∀ c ∈ specialChars, (htmlChar c).head? = some '&' := by
  have all : (specialChars.all fun c => (htmlChar c).head? == some '&') = true := by decide
  simpa only [List.all_eq_true, beq_iff_eq] using all

/-- No other character differs from a special one in case only. -/
theorem foldMates_special : ∀ c ∈ specialChars, foldMates c = [c] := by
  have all : (specialChars.all fun c => foldMates c == [c]) = true := by decide +kernel
  simpa only [List.all_eq_true, beq_iff_eq] using all

theorem eq_of_sameFold {c d : Char} (special : c ∈ specialChars) (same : sameFold c d = true) :
    d = c := by
  have mate := (mem_foldMates_iff d c).mpr ((sameFold_iff c d).mp same).symm
  rw [foldMates_special c special] at mate
  exact List.mem_singleton.mp mate

/-- The fold of every character in the name of a special one is its small letter. -/
theorem fold_of_mem_htmlChar :
    ∀ c ∈ specialChars, ∀ written ∈ htmlChar c, fold written = written.toLower := by
  have all : (specialChars.all fun c => (htmlChar c).all fun written =>
      fold written == written.toLower) = true := by decide +kernel
  simpa only [List.all_eq_true, beq_iff_eq] using all

/-- The names of two special characters differ in more than case before one of them ends. -/
theorem eq_of_names_agree {c d : Char} (special : c ∈ specialChars) (other : d ∈ specialChars)
    (agree : ∀ pair ∈ (htmlChar c).zip (htmlChar d), sameFold pair.1 pair.2 = true) : d = c := by
  have names : (specialChars.all fun c => specialChars.all fun d =>
      decide (((htmlChar c).zip (htmlChar d)).all (fun pair => pair.1.toLower == pair.2.toLower) = true →
        d = c)) = true := by decide
  simp only [List.all_eq_true, decide_eq_true_eq, beq_iff_eq] at names
  refine names c special d other fun pair member => ?_
  obtain ⟨first, second⟩ := List.of_mem_zip member
  rw [← fold_of_mem_htmlChar c special _ first, ← fold_of_mem_htmlChar d other _ second]
  exact (sameFold_iff _ _).mp (agree pair member)

/-- Characters that differ in case only are written the same way up to case. -/
theorem sameUpToCase_htmlChar {c d : Char} (same : sameFold c d = true) :
    SameUpToCase (htmlChar c) (htmlChar d) := by
  by_cases special : c ∈ specialChars
  · rw [eq_of_sameFold special same]
    exact sameUpToCase_self (htmlChar c)
  · have other : d ∉ specialChars := fun member => special <| by
      rw [eq_of_sameFold member ((sameFold_iff d c).mpr ((sameFold_iff c d).mp same).symm)]
      exact member
    rw [htmlChar_of_not_mem special, htmlChar_of_not_mem other]
    exact .cons same .nil

/-! ### Escaped text -/

theorem htmlEscape_append (front back : List Char) :
    htmlEscape (front ++ back) = htmlEscape front ++ htmlEscape back :=
  List.flatMap_append

/-- What the characters of a text of one character over and over amount to. -/
theorem sum_map_htmlEscape_replicate (amount : Char → Nat) (c : Char) (count : Nat) :
    ((htmlEscape (List.replicate count c)).map amount).sum =
      count * ((htmlChar c).map amount).sum := by
  induction count with
  | zero => exact (Nat.zero_mul _).symm
  | succ count ih =>
    show ((htmlChar c ++ htmlEscape (List.replicate count c)).map amount).sum = _
    rw [List.map_append, List.sum_append, ih, Nat.add_mul, Nat.one_mul, Nat.add_comm]

/-- **Escaping and case**: texts that differ in case only do so when escaped. -/
theorem sameUpToCase_htmlEscape {a b : List Char} (same : SameUpToCase a b) :
    SameUpToCase (htmlEscape a) (htmlEscape b) :=
  List.rel_flatMap same fun _ _ => sameUpToCase_htmlChar

/-- Where a text holds a term, the escaped text holds the escaped term. -/
theorem containsUpToCase_htmlEscape {text term : List Char} (contains : ContainsUpToCase text term) :
    ContainsUpToCase (htmlEscape text) (htmlEscape term) := by
  obtain ⟨front, part, back, rfl, same⟩ := contains
  refine ⟨htmlEscape front, htmlEscape part, htmlEscape back, ?_, sameUpToCase_htmlEscape same⟩
  rw [htmlEscape_append, htmlEscape_append]

/-- Two texts agree up to case as far as both of them go, if one of them begins the other one. -/
theorem sameFold_of_mem_zip {a part b rest back : List Char} (same : SameUpToCase a part)
    (front : b ++ rest = part ++ back) : ∀ pair ∈ a.zip b, sameFold pair.1 pair.2 = true := by
  induction same generalizing b with
  | nil =>
    intro pair member
    cases member
  | @cons x y a part first _ ih =>
    cases b with
    | nil =>
      intro pair member
      cases member
    | cons z b =>
      rw [List.cons_append, List.cons_append, List.cons.injEq] at front
      intro pair member
      rcases List.mem_cons.mp member with rfl | later
      · rw [front.1]
        exact first
      · exact ih front.2 pair later

/-- A character whose writing agrees with that of a special one is special. -/
theorem mem_specialChars_of_agree {c d : Char} (special : c ∈ specialChars)
    (agree : ∀ a ∈ (htmlChar c).head?, ∀ b ∈ (htmlChar d).head?, sameFold a b = true) :
    d ∈ specialChars := by
  by_contra plain
  have first := agree '&' (head?_htmlChar c special) d (by rw [htmlChar_of_not_mem plain]; rfl)
  exact plain (eq_of_sameFold (by decide) first ▸ by decide)

/-- What begins like one written character in front of another one is the other one, and the two
differ in case only. -/
theorem sameFold_of_htmlChar_front {c d : Char} {part rest back : List Char}
    (same : SameUpToCase (htmlChar c) part) (front : htmlChar d ++ rest = part ++ back) :
    sameFold c d = true ∧ part = htmlChar d := by
  have agree := sameFold_of_mem_zip same front
  have heads : ∀ a ∈ (htmlChar c).head?, ∀ b ∈ (htmlChar d).head?, sameFold a b = true := by
    intro a first b second
    obtain ⟨name, written⟩ := List.head?_eq_some_iff.mp first
    obtain ⟨other, read⟩ := List.head?_eq_some_iff.mp second
    refine agree (a, b) ?_
    rw [written, read]
    exact List.mem_cons_self
  by_cases special : c ∈ specialChars
  · have other := mem_specialChars_of_agree special heads
    obtain rfl := eq_of_names_agree special other agree
    exact ⟨(sameFold_iff d d).mpr rfl, (List.append_inj front same.length_eq).1.symm⟩
  · have other : d ∉ specialChars := fun member => special <|
      mem_specialChars_of_agree member fun b second a first =>
        (sameFold_iff b a).mpr ((sameFold_iff a b).mp (heads a first b second)).symm
    rw [htmlChar_of_not_mem special] at same heads
    rw [htmlChar_of_not_mem other] at front heads ⊢
    have lengths : [d].length = part.length := same.length_eq
    exact ⟨heads c rfl d rfl, (List.append_inj front lengths).1.symm⟩

/-- A text that is a term and another one up to case is made of a part for each. -/
theorem exists_parts_of_append {a b part : List Char} (same : SameUpToCase (a ++ b) part) :
    ∃ front back, part = front ++ back ∧ SameUpToCase a front ∧ SameUpToCase b back := by
  have front := List.forall₂_take a.length same
  have back := List.forall₂_drop a.length same
  rw [List.take_left] at front
  rw [List.drop_left] at back
  exact ⟨_, _, (List.take_append_drop a.length part).symm, front, back⟩

/-- **Escaped terms end behind a character**: what begins like an escaped term in front of a character of
the text is an escaped part of the text, and the part differs from the term in case only. -/
theorem exists_of_htmlEscape_front {term text part back : List Char}
    (same : SameUpToCase (htmlEscape term) part) (whole : htmlEscape text = part ++ back) :
    ∃ raw behind, text = raw ++ behind ∧ SameUpToCase term raw ∧ part = htmlEscape raw ∧
      back = htmlEscape behind := by
  induction term generalizing text part with
  | nil =>
    obtain rfl := List.forall₂_nil_left_iff.mp same
    exact ⟨[], text, rfl, .nil, rfl, whole.symm⟩
  | cons c term ih =>
    obtain ⟨front, later, rfl, begun, rest⟩ := exists_parts_of_append same
    cases text with
    | nil =>
      obtain ⟨inside, _⟩ := List.append_eq_nil_iff.mp whole.symm
      rw [(List.append_eq_nil_iff.mp inside).1] at begun
      exact absurd (List.forall₂_nil_right_iff.mp begun) (htmlChar_ne_nil c)
    | cons d text =>
      rw [List.append_assoc] at whole
      have characters : htmlChar d ++ htmlEscape text = front ++ (later ++ back) := whole
      obtain ⟨first, rfl⟩ := sameFold_of_htmlChar_front begun characters
      obtain ⟨raw, behind, rfl, others, rfl, rfl⟩ := ih rest (List.append_cancel_left characters)
      exact ⟨d :: raw, behind, rfl, .cons first others, rfl, rfl⟩

end DocTable.Text
