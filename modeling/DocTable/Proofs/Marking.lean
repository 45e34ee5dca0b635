/-
**Marks and escaped characters.**

What is marked in an escaped text equals the escaped term up to case. It need not be an occurrence of the
term in the text, though: the term "amp" stands in the name of an ampersand. A display marks the term in
the text exactly if each of its marks begins between two characters of the text and not inside of one.

* `MarksTerm`: the displays of a text in which a term is marked;
* `Highlighter.marks`: the marks that a highlighter sets in an escaped text;
* `Between`: the marks that begin between characters;
* `between_escape`, `exists_of_between`: escaped fragments are what has such marks;
* `between_of_head`: terms with such marks in every text;
* `marksTerm_apply`: what a highlighter marks.
-/

import DocTable.Proofs.Escaping
import DocTable.Regex.Room

namespace DocTable

open Highlighter Text Regex

/-- A fragment of a text as HTML: escaped, with tags around what is marked. -/
def displayedFragment : Fragment → List Char
  | .plain c => htmlChar c
  | .marked text => openTag ++ htmlEscape text ++ closeTag

/-- A display of a text marks a term: the text is cut into fragments, what is marked differs from the
term in case only, and every fragment is escaped by itself. -/
def MarksTerm (term text html : List Char) : Prop :=
  ∃ fragments : List Fragment, fragments.flatMap Fragment.text = text ∧
    (∀ part, Fragment.marked part ∈ fragments → SameUpToCase term part) ∧
    html = fragments.flatMap displayedFragment

/-- Marks of an escaped text that begin between the characters of the text: what stands in front of a
mark is what the front of the text is written as. -/
def Between (text : List Char) (marks : List Fragment) : Prop :=
  ∀ before part after, marks = before ++ .marked part :: after →
    ∃ front back, text = front ++ back ∧ before.flatMap Fragment.text = htmlEscape front

section Fragments

/-! ### Escaped fragments -/

/-- A fragment of a text as fragments of the escaped text. -/
def escapeFragment : Fragment → List Fragment
  | .plain c => (htmlChar c).map .plain
  | .marked text => [.marked (htmlEscape text)]

theorem text_escapeFragment (fragment : Fragment) :
    (escapeFragment fragment).flatMap Fragment.text = htmlEscape fragment.text := by
  cases fragment with
  | plain c => exact (flatMap_plain (fun _ => rfl) _).trans (List.append_nil _).symm
  | marked text => exact List.append_nil _

theorem markup_escapeFragment (fragment : Fragment) :
    (escapeFragment fragment).flatMap markup = displayedFragment fragment := by
  cases fragment with
  | plain c => exact flatMap_plain (fun _ => rfl) _
  | marked text => exact List.append_nil _

variable (fragments : List Fragment)

/-- Escaping fragments escapes their text. -/
theorem text_flatMap_escapeFragment :
    (fragments.flatMap escapeFragment).flatMap Fragment.text =
      htmlEscape (fragments.flatMap Fragment.text) := by
  unfold htmlEscape
  rw [List.flatMap_assoc, List.flatMap_assoc]
  exact congrArg fragments.flatMap (funext text_escapeFragment)

theorem markup_flatMap_escapeFragment :
    (fragments.flatMap escapeFragment).flatMap markup = fragments.flatMap displayedFragment := by
  rw [List.flatMap_assoc]
  exact congrArg fragments.flatMap (funext markup_escapeFragment)

/-! ### Marks between characters -/

variable {text : List Char} {marks : List Fragment}

/-- Marks go on behind an escaped character. -/
theorem Between.plain (between : Between text marks) (c : Char) :
    Between (c :: text) ((htmlChar c).map .plain ++ marks) := by
  intro before part after split
  rcases List.append_eq_append_iff.mp split with ⟨rest, rfl, later⟩ | ⟨inside, front, later⟩
  · obtain ⟨front, back, rfl, written⟩ := between rest part after later
    refine ⟨c :: front, back, rfl, ?_⟩
    rw [List.flatMap_append, flatMap_plain fun _ => rfl, written]
    rfl
  · cases inside with
    | nil =>
      rw [List.append_nil] at front
      refine ⟨[c], text, rfl, ?_⟩
      rw [← front, flatMap_plain fun _ => rfl]
      exact (List.append_nil _).symm
    | cons mark inside =>
      obtain ⟨rfl, _⟩ := List.cons.inj later
      obtain ⟨_, _, wrong⟩ := List.mem_map.mp
        (front ▸ List.mem_append_right before List.mem_cons_self)
      cases wrong

/-- Marks go on behind an escaped mark. -/
theorem Between.marked (between : Between text marks) (raw : List Char) :
    Between (raw ++ text) (.marked (htmlEscape raw) :: marks) := by
  intro before part after split
  cases before with
  | nil => exact ⟨[], raw ++ text, rfl, rfl⟩
  | cons mark before =>
    obtain ⟨rfl, later⟩ := List.cons.inj split
    obtain ⟨front, back, rfl, written⟩ := between before part after later
    refine ⟨raw ++ front, back, (List.append_assoc raw front back).symm, ?_⟩
    rw [htmlEscape_append, ← written]
    rfl

/-- **Escaped fragments** have their marks between characters. -/
theorem between_escape :
    Between (fragments.flatMap Fragment.text) (fragments.flatMap escapeFragment) := by
  induction fragments with
  | nil =>
    intro before part after split
    exact absurd split.symm (List.append_ne_nil_of_right_ne_nil before (List.cons_ne_nil _ _))
  | cons fragment rest ih =>
    cases fragment with
    | plain c => exact ih.plain c
    | marked raw => exact ih.marked raw

/-- What is written behind the front of a text is the writing of what stands there. -/
theorem exists_rest_of_front {raw text front back written : List Char}
    (whole : raw ++ text = front ++ back) (begun : htmlEscape raw ++ written = htmlEscape front) :
    ∃ rest, text = rest ++ back ∧ written = htmlEscape rest := by
  rcases List.append_eq_append_iff.mp whole with ⟨rest, rfl, rfl⟩ | ⟨more, rfl, rfl⟩
  · rw [htmlEscape_append] at begun
    exact ⟨rest, rfl, List.append_cancel_left begun⟩
  · rw [htmlEscape_append, List.append_assoc] at begun
    obtain ⟨unwritten, rfl⟩ := List.append_eq_nil_iff.mp (List.append_right_eq_self.mp begun)
    have none : more = [] := by
      by_contra some_char
      exact htmlEscape_ne_nil some_char unwritten
    rw [none]
    exact ⟨[], rfl, rfl⟩

/-- Marks are between characters behind escaped fragments if they are at all. -/
theorem Between.of_append {raw text : List Char} {first marks : List Fragment}
    (between : Between (raw ++ text) (first ++ marks))
    (written : first.flatMap Fragment.text = htmlEscape raw) : Between text marks := by
  intro before part after split
  have later : first ++ marks = (first ++ before) ++ .marked part :: after := by
    rw [split, List.append_assoc]
  obtain ⟨front, back, whole, begun⟩ := between _ part after later
  rw [List.flatMap_append, written] at begun
  obtain ⟨rest, here, there⟩ := exists_rest_of_front whole begun
  exact ⟨rest, back, here, there⟩

/-- Characters without a mark in front of the last of them are plain fragments. -/
theorem exists_plain_front {front back : List Char}
    (whole : marks.flatMap Fragment.text = front ++ back)
    (unmarked : ∀ (passed part : List Char) after, marks = passed.map .plain ++ .marked part :: after →
      front.length ≤ passed.length) :
    ∃ rest, marks = front.map .plain ++ rest ∧ rest.flatMap Fragment.text = back := by
  induction front generalizing marks with
  | nil => exact ⟨marks, rfl, whole⟩
  | cons c front ih =>
    cases marks with
    | nil => cases whole
    | cons mark marks =>
      cases mark with
      | marked part => exact absurd (unmarked [] part marks rfl) (Nat.not_succ_le_zero _)
      | plain d =>
        obtain ⟨rfl, later⟩ := List.cons.inj whole
        obtain ⟨rest, rfl, text⟩ := ih later fun passed part after split =>
          Nat.le_of_succ_le_succ (unmarked (d :: passed) part after (congrArg (.plain d :: ·) split))
        exact ⟨rest, rfl, text⟩

/-- Marks between characters leave every escaped character whole. -/
theorem Between.length_le {c : Char} {passed part : List Char} {after : List Fragment}
    (between : Between (c :: text) (passed.map .plain ++ .marked part :: after))
    (some_char : passed ≠ []) : (htmlChar c).length ≤ passed.length := by
  obtain ⟨front, back, whole, written⟩ := between _ part after rfl
  rw [flatMap_plain fun _ => rfl] at written
  cases front with
  | nil => exact absurd written some_char
  | cons d front =>
    obtain ⟨rfl, _⟩ := List.cons.inj whole
    rw [written]
    exact (List.prefix_append (htmlChar c) (htmlEscape front)).length_le

/-- What marks between characters begin with is an escaped fragment of the text: a mark that begins like
the escaped term between two characters ends between two characters. -/
theorem exists_fragment_front {term : List Char} (some_mark : marks ≠ [])
    (whole : marks.flatMap Fragment.text = htmlEscape text)
    (same : ∀ part, Fragment.marked part ∈ marks → SameUpToCase (htmlEscape term) part)
    (between : Between text marks) :
    ∃ fragment behind rest, text = fragment.text ++ behind ∧ marks = escapeFragment fragment ++ rest ∧
      rest.flatMap Fragment.text = htmlEscape behind ∧
      ∀ part, fragment = .marked part → SameUpToCase term part := by
  obtain ⟨mark, rest, rfl⟩ := List.exists_cons_of_ne_nil some_mark
  cases mark with
  | marked part =>
    obtain ⟨raw, behind, rfl, like, rfl, written⟩ :=
      exists_of_htmlEscape_front (same part List.mem_cons_self) whole.symm
    refine ⟨.marked raw, behind, rest, rfl, rfl, written, ?_⟩
    rintro _ ⟨⟩
    exact like
  | plain d =>
    cases text with
    | nil => cases whole
    | cons c text =>
      have unmarked (passed part : List Char) (after : List Fragment)
          (split : .plain d :: rest = passed.map .plain ++ .marked part :: after) :
          (htmlChar c).length ≤ passed.length := by
        rw [split] at between
        refine between.length_le ?_
        rintro rfl
        cases split
      obtain ⟨later, split, written⟩ := exists_plain_front whole unmarked
      exact ⟨.plain c, text, later, rfl, split, written, fun _ => nofun⟩

theorem escapeFragment_ne_nil (fragment : Fragment) : escapeFragment fragment ≠ [] := by
  cases fragment with
  | plain c => exact mt List.map_eq_nil_iff.mp (htmlChar_ne_nil c)
  | marked text => exact List.cons_ne_nil _ _

/-- **Marks between characters** are the marks of escaped fragments. -/
theorem exists_of_between {term : List Char}
    (whole : marks.flatMap Fragment.text = htmlEscape text)
    (same : ∀ part, Fragment.marked part ∈ marks → SameUpToCase (htmlEscape term) part)
    (between : Between text marks) :
    ∃ fragments : List Fragment, fragments.flatMap Fragment.text = text ∧
      (∀ part, Fragment.marked part ∈ fragments → SameUpToCase term part) ∧
      marks = fragments.flatMap escapeFragment := by
  induction length : marks.length using Nat.strongRecOn generalizing text marks with
  | _ _ ih =>
    subst length
    by_cases some_mark : marks = []
    · subst some_mark
      refine ⟨[], ?_, fun _ => nofun, rfl⟩
      by_contra some_char
      exact htmlEscape_ne_nil (Ne.symm some_char) whole.symm
    · obtain ⟨fragment, behind, rest, rfl, rfl, written, like⟩ :=
        exists_fragment_front some_mark whole same between
      have shorter : rest.length < (escapeFragment fragment ++ rest).length := by
        have := List.length_pos_iff.mpr (escapeFragment_ne_nil fragment)
        rw [List.length_append]
        omega
      obtain ⟨fragments, rfl, others, rfl⟩ := ih _ shorter written
        (fun part member => same part (List.mem_append_right _ member))
        (between.of_append (text_escapeFragment fragment)) rfl
      refine ⟨fragment :: fragments, rfl, fun part member => ?_, rfl⟩
      rcases List.mem_cons.mp member with first | later
      · exact like part first.symm
      · exact others part later

/-! ### What a display says of its marks -/

/-- Texts without an angle bracket can be told apart up to the first one. -/
theorem eq_of_append_bracket {front other back rest : List Char} (clean : '<' ∉ front)
    (pure : '<' ∉ other) (same : front ++ '<' :: back = other ++ '<' :: rest) :
    front = other ∧ back = rest := by
  induction front generalizing other with
  | nil =>
    cases other with
    | nil => exact ⟨rfl, (List.cons.inj same).2⟩
    | cons c other => exact absurd (List.mem_cons.mpr (Or.inl (List.cons.inj same).1)) pure
  | cons c front ih =>
    cases other with
    | nil => exact absurd (List.mem_cons.mpr (Or.inl (List.cons.inj same).1.symm)) clean
    | cons d other =>
      obtain ⟨rfl, later⟩ := List.cons.inj same
      rw [List.mem_cons, not_or] at clean pure
      obtain ⟨rfl, rest⟩ := ih clean.2 pure.2 later
      exact ⟨rfl, rest⟩

/-- A tagged part ends at its closing tag. -/
theorem eq_of_tagged {part other back rest : List Char} (clean : '<' ∉ part) (pure : '<' ∉ other)
    (same : markup (.marked part) ++ back = markup (.marked other) ++ rest) :
    part = other ∧ back = rest := by
  have tagged (part back : List Char) : markup (.marked part) ++ back =
      openTag ++ (part ++ '<' :: ("/span>".toList ++ back)) := by
    show openTag ++ part ++ closeTag ++ back = _
    rw [List.append_assoc, List.append_assoc, closeTag_eq]
    rfl
  rw [tagged, tagged] at same
  obtain ⟨parts, later⟩ := eq_of_append_bracket clean pure (List.append_cancel_left same)
  exact ⟨parts, List.append_cancel_left later⟩

/-- **A display** determines its marks and what is not marked. -/
theorem eq_of_markup {fragments others : List Fragment}
    (clean : '<' ∉ fragments.flatMap Fragment.text) (pure : '<' ∉ others.flatMap Fragment.text)
    (same : fragments.flatMap markup = others.flatMap markup) : fragments = others := by
  induction fragments generalizing others with
  | nil =>
    cases others with
    | nil => rfl
    | cons other _ => cases other <;> cases same
  | cons fragment rest ih =>
    cases others with
    | nil => cases fragment <;> cases same
    | cons other later =>
      rw [List.flatMap_cons, List.mem_append, not_or] at clean pure
      rw [List.flatMap_cons, List.flatMap_cons] at same
      cases fragment with
      | plain c =>
        cases other with
        | plain d =>
          obtain ⟨rfl, tail⟩ := List.cons.inj same
          rw [ih clean.2 pure.2 tail]
        | marked text => exact absurd (List.mem_singleton.mpr (List.cons.inj same).1.symm) clean.1
      | marked part =>
        cases other with
        | plain d => exact absurd (List.mem_singleton.mpr (List.cons.inj same).1) pure.1
        | marked text =>
          obtain ⟨parts, tail⟩ := eq_of_tagged clean.1 pure.1 same
          rw [ih clean.2 pure.2 tail, show part = text from parts]

/-- **Displays and marks.** Marks of the escaped term show it in the text exactly if they begin between
characters of the text. -/
theorem marksTerm_iff_between {term : List Char}
    (whole : marks.flatMap Fragment.text = htmlEscape text)
    (same : ∀ part, Fragment.marked part ∈ marks → SameUpToCase (htmlEscape term) part) :
    MarksTerm term text (marks.flatMap markup) ↔ Between text marks := by
  constructor
  · rintro ⟨fragments, rfl, _, shown⟩
    have clean (raw : List Char) : '<' ∉ htmlEscape raw := fun member =>
      not_mem_htmlEscape member (by decide)
    have read : marks = fragments.flatMap escapeFragment := by
      refine eq_of_markup (whole ▸ clean _) (text_flatMap_escapeFragment fragments ▸ clean _) ?_
      rw [shown, markup_flatMap_escapeFragment]
    rw [read]
    exact between_escape fragments
  · intro between
    obtain ⟨fragments, text, like, rfl⟩ := exists_of_between whole same between
    exact ⟨fragments, text, like, markup_flatMap_escapeFragment fragments⟩

/-! ### Terms whose marks are between characters -/

/-- The characters in the names of special characters, behind the ampersand. -/
def nameChars : List Char := specialChars.flatMap fun c => (htmlChar c).tail

theorem mem_nameChars {c written : Char} (inside : written ∈ (htmlChar c).tail) :
    written ∈ nameChars := by
  by_cases special : c ∈ specialChars
  · exact List.mem_flatMap.mpr ⟨c, special, inside⟩
  · rw [htmlChar_of_not_mem special] at inside
    cases inside

/-- A character that is in no name begins what a character of the text is written as. -/
theorem exists_front_of_not_mem {front back : List Char} {written : Char}
    (outside : written ∉ nameChars) (whole : htmlEscape text = front ++ written :: back) :
    ∃ raw behind, text = raw ++ behind ∧ front = htmlEscape raw := by
  induction text generalizing front with
  | nil => exact absurd whole.symm (List.append_ne_nil_of_right_ne_nil front (List.cons_ne_nil _ _))
  | cons c text ih =>
    rcases List.append_eq_append_iff.mp whole with ⟨rest, rfl, later⟩ | ⟨inside, split, later⟩
    · obtain ⟨raw, behind, rfl, rfl⟩ := ih later
      exact ⟨c :: raw, behind, rfl, rfl⟩
    · cases front with
      | nil => exact ⟨[], c :: text, rfl, rfl⟩
      | cons d front =>
        cases inside with
        | nil =>
          rw [List.append_nil] at split
          refine ⟨[c], text, rfl, ?_⟩
          rw [← split]
          exact (List.append_nil _).symm
        | cons first inside =>
          obtain ⟨rfl, _⟩ := List.cons.inj later
          have named : written ∈ (htmlChar c).tail := by
            rw [show htmlChar c = d :: (front ++ written :: inside) from split]
            exact List.mem_append_right front List.mem_cons_self
          exact absurd (mem_nameChars named) outside

/-- Marks of a term are between characters if no name holds the first character of the escaped term. -/
theorem between_of_head {term : List Char}
    (whole : marks.flatMap Fragment.text = htmlEscape text)
    (same : ∀ part, Fragment.marked part ∈ marks → SameUpToCase term part)
    (some_char : term ≠ []) (apart : ∀ c ∈ term.head?, ∀ name ∈ nameChars, sameFold c name = false) :
    Between text marks := by
  rintro before part after rfl
  have like := same part (List.mem_append_right before List.mem_cons_self)
  obtain ⟨c, term, rfl⟩ := List.exists_cons_of_ne_nil some_char
  obtain ⟨first, rest, agree, _, rfl⟩ := List.forall₂_cons_left_iff.mp like
  rw [List.flatMap_append] at whole
  refine exists_front_of_not_mem (fun inside => ?_) whole.symm
  rw [apart c rfl first inside] at agree
  cases agree

end Fragments

/-! ### The marks of a highlighter -/

/-- What is marked is what was looked for. -/
theorem eq_of_mem_markFrom {needle text part : List Char} {covered : Nat}
    (member : Fragment.marked part ∈ markFrom needle covered text) : part = needle := by
  induction text generalizing covered with
  | nil => cases covered <;> cases member
  | cons c text ih =>
    cases covered with
    | succ covered => exact ih member
    | zero =>
      unfold markFrom at member
      split at member
      · rcases List.mem_cons.mp member with first | later
        · exact Fragment.marked.inj first
        · exact ih later
      · rcases List.mem_cons.mp member with first | later
        · cases first
        · exact ih later

/-- The marks that a highlighter sets in an escaped text. -/
def Highlighter.marks (h : Highlighter) (escaped : List Char) : List Fragment :=
  match firstMatch? h.term escaped with
  | some needle => mark needle escaped
  | none => escaped.map .plain

namespace Highlighter

variable (h : Highlighter) (escaped : List Char)

theorem apply_eq_markup_marks : h.apply escaped = (h.marks escaped).flatMap markup := by
  unfold apply marks
  cases firstMatch? h.term escaped with
  | some needle => rfl
  | none => exact (flatMap_plain (fun _ => rfl) escaped).symm

/-- The marks of a highlighter differ from its term in case only. -/
theorem sameUpToCase_of_mem_marks (part : List Char) (member : .marked part ∈ h.marks escaped) :
    SameUpToCase h.term part := by
  unfold marks at member
  cases found : firstMatch? h.term escaped with
  | some needle =>
    rw [found] at member
    rw [eq_of_mem_markFrom member]
    exact forall₂_of_firstMatch? found
  | none =>
    rw [found] at member
    obtain ⟨_, _, wrong⟩ := List.mem_map.mp member
    cases wrong

theorem flatMap_text_marks (some_char : h.term ≠ []) :
    (h.marks escaped).flatMap Fragment.text = escaped := by
  unfold marks
  cases found : firstMatch? h.term escaped with
  | some needle =>
    refine flatMap_text_mark (fun empty => some_char ?_) escaped
    subst empty
    exact List.forall₂_nil_right_iff.mp (forall₂_of_firstMatch? found)
  | none => exact flatMap_plain (fun _ => rfl) escaped

end Highlighter

/-- **What a highlighter marks.** In a displayed text, the parts of the text that are marked differ from
the term in case only, and each of them and of the parts between them is escaped by itself, exactly if
no mark begins inside of an escaped character. For a term whose first character is in no name of a
special character, this is so in every text. -/
theorem marksTerm_apply [Regex.Compiler] {term : String} {h : Highlighter}
    (made : ofTerm? term = some h)
    (text : String) :
    (MarksTerm term.toList text.toList (h.apply (htmlEscape text.toList)) ↔
      Between text.toList (h.marks (htmlEscape text.toList))) ∧
    ((∀ c ∈ (htmlEscape term.toList).head?, ∀ name ∈ nameChars, sameFold c name = false) →
      MarksTerm term.toList text.toList (h.apply (htmlEscape text.toList))) := by
  have some_char := term_ne_nil made
  have whole := h.flatMap_text_marks (htmlEscape text.toList) some_char
  have same := h.sameUpToCase_of_mem_marks (htmlEscape text.toList)
  rw [(entered_of_ofTerm? made).2] at same some_char
  rw [h.apply_eq_markup_marks]
  have shown := marksTerm_iff_between whole same
  exact ⟨shown, fun apart => shown.mpr (between_of_head whole same some_char apart)⟩

/-- A term with a special character, in a text with special characters and in other case. -/
theorem marksTerm_apply_team :
    ∃ h, ofTerm? "b&c" = some h ∧
      (∀ c ∈ (htmlEscape "b&c".toList).head?, ∀ name ∈ nameChars, sameFold c name = false) ∧
      MarksTerm "b&c".toList "<B&C> & co".toList (h.apply (htmlEscape "<B&C> & co".toList)) := by
  have apart : ∀ c ∈ (htmlEscape "b&c".toList).head?, ∀ name ∈ nameChars,
      sameFold c name = false := by
    have all : (nameChars.all fun name => !sameFold 'b' name) = true := by decide +kernel
    simp only [List.all_eq_true, Bool.not_eq_true'] at all
    exact fun c first => Option.some.inj first ▸ all
  obtain ⟨h, made⟩ : ∃ h, ofTerm? "b&c" = some h := Option.isSome_iff_exists.mp (by decide +kernel)
  exact ⟨h, made, apart, (marksTerm_apply made "<B&C> & co").2 apart⟩

/-- A term may be marked in the name of an ampersand, where the text does not hold it. -/
theorem marked_inside_ampersand :
    ∃ h, ofTerm? "amp" = some h ∧
      h.apply (htmlEscape "a&b".toList) =
        "a&<span class=\"textHighlighted\">amp</span>;b".toList ∧
      ¬MarksTerm "amp".toList "a&b".toList (h.apply (htmlEscape "a&b".toList)) := by
  obtain ⟨h, made⟩ : ∃ h, ofTerm? "amp" = some h := Option.isSome_iff_exists.mp (by decide +kernel)
  have marks : h.marks (htmlEscape "a&b".toList) =
      [.plain 'a', .plain '&', .marked "amp".toList, .plain ';', .plain 'b'] := by
    unfold Highlighter.marks
    rw [(entered_of_ofTerm? made).2]
    decide +kernel
  refine ⟨h, made, ?_, ?_⟩
  · rw [h.apply_eq_markup_marks, marks]
    rfl
  · have whole := h.flatMap_text_marks (htmlEscape "a&b".toList) (term_ne_nil made)
    have same := h.sameUpToCase_of_mem_marks (htmlEscape "a&b".toList)
    rw [(entered_of_ofTerm? made).2] at same
    rw [h.apply_eq_markup_marks, marksTerm_iff_between whole same, marks]
    intro between
    obtain ⟨front, back, text, written⟩ := between [.plain 'a', .plain '&'] _ _ rfl
    obtain ⟨length, rfl⟩ : ∃ length, front = "a&b".toList.take length :=
      ⟨front.length, by rw [text, List.take_left]⟩
    match length with
    | 0 => cases written
    | 1 => cases written
    | 2 => cases written
    | _ + 3 => cases written

end DocTable
