/-
**Marked text as HTML.**

Escaped text holds no character that begins markup or ends an attribute, and what is marked in it is a
part of it. So the tags of a displayed text are the tags around what is marked, and deleting every such
tag gives the escaped text back.

* `Text.without`: a text without the occurrences of another one;
* `Text.not_mem_htmlEscape`: what escaped text does not hold;
* `untagged_markup`: the tags around marked parts can be deleted again;
* `displays_displayed`: what a displayed text is made of.
-/

import DocTable.Table.Template
import Mathlib.Data.List.Forall2

namespace DocTable

namespace Text

/-! ### Deleting a text from another one -/

/-- What a fragment has outside of marks. -/
def Fragment.unmarked : Fragment → List Char
  | .plain c => [c]
  | .marked _ => []

/-- A text without the occurrences of another one, found from left to right. -/
def without (needle text : List Char) : List Char := (mark needle text).flatMap Fragment.unmarked

/-- Marking goes on behind the characters of the current occurrence. -/
theorem markFrom_eq_mark (needle : List Char) (covered : Nat) (text : List Char) :
    markFrom needle covered text = mark needle (text.drop covered) := by
  induction text generalizing covered with
  | nil => cases covered <;> rfl
  | cons c text ih =>
    cases covered with
    | zero => rfl
    | succ covered => exact ih covered

/-- An occurrence at the front is deleted. -/
theorem without_append_self {needle : List Char} (nonempty : needle ≠ []) (text : List Char) :
    without needle (needle ++ text) = without needle text := by
  obtain ⟨first, rest, rfl⟩ := List.exists_cons_of_ne_nil nonempty
  have front : (first :: rest).isPrefixOf (first :: (rest ++ text)) = true :=
    List.isPrefixOf_iff_prefix.mpr (List.prefix_append (first :: rest) text)
  unfold without mark
  rw [List.cons_append, markFrom, if_pos front, markFrom_eq_mark]
  show [] ++ (mark (first :: rest) ((rest ++ text).drop rest.length)).flatMap _ = _
  rw [List.drop_left, List.nil_append]
  rfl

/-- A character that begins no occurrence stays. -/
theorem without_cons {needle : List Char} {c : Char} {text : List Char}
    (noFront : needle.isPrefixOf (c :: text) = false) :
    without needle (c :: text) = c :: without needle text := by
  unfold without mark
  rw [markFrom, if_neg (Bool.eq_false_iff.mp noFront)]
  rfl

/-- No occurrence begins in a text without the first character of the deleted one. -/
theorem without_append_of_not_mem {first : Char} {rest front : List Char} (absent : first ∉ front)
    (text : List Char) :
    without (first :: rest) (front ++ text) = front ++ without (first :: rest) text := by
  induction front with
  | nil => rfl
  | cons c front ih =>
    have noFront : (first :: rest).isPrefixOf (c :: (front ++ text)) = false := by
      have apart : first ≠ c := fun same => absent (same ▸ List.mem_cons_self)
      simp [List.isPrefixOf, apart]
    rw [List.cons_append, without_cons noFront,
      ih fun member => absent (List.mem_cons_of_mem c member)]
    rfl

/-! ### Escaped text -/

/-- The characters that begin or end markup, or end an attribute. -/
def markupChars : List Char := ['<', '>', '"', '\'']

theorem not_mem_htmlChar (c : Char) : ∀ written ∈ htmlChar c, written ∉ markupChars := by
  unfold htmlChar
  split
  case h_7 amp less greater quote apostrophe _ =>
    intro written member
    obtain rfl := List.mem_singleton.mp member
    simp only [markupChars, List.mem_cons, List.not_mem_nil, or_false, not_or]
    exact ⟨less, greater, quote, apostrophe⟩
  all_goals simp [markupChars]

/-- **Escaped text** holds no character of markup. -/
theorem not_mem_htmlEscape {chars : List Char} {written : Char} (member : written ∈ htmlEscape chars) :
    written ∉ markupChars := by
  obtain ⟨c, _, inside⟩ := List.mem_flatMap.mp member
  exact not_mem_htmlChar c written inside

theorem htmlChar_ne_nil (c : Char) : htmlChar c ≠ [] := by
  unfold htmlChar
  split <;> exact List.cons_ne_nil _ _

theorem htmlEscape_ne_nil {chars : List Char} (nonempty : chars ≠ []) : htmlEscape chars ≠ [] := by
  obtain ⟨c, rest, rfl⟩ := List.exists_cons_of_ne_nil nonempty
  exact fun empty => htmlChar_ne_nil c (List.append_eq_nil_iff.mp empty).1

/-! ### What is found -/

/-- What is found at the front of a text equals the term up to case. -/
theorem forall₂_of_frontMatch? {term text found : List Char}
    (matched : frontMatch? term text = some found) :
    List.Forall₂ (fun t c => sameFold t c = true) term found := by
  induction term generalizing text found with
  | nil =>
    cases matched
    exact .nil
  | cons t term ih =>
    cases text with
    | nil => cases matched
    | cons c text =>
      unfold frontMatch? at matched
      split at matched
      · next same =>
        obtain ⟨rest, later, rfl⟩ := Option.map_eq_some_iff.mp matched
        exact .cons same (ih later)
      · cases matched

/-- What is found in a text equals the term up to case. -/
theorem forall₂_of_firstMatch? {term text found : List Char}
    (matched : firstMatch? term text = some found) :
    List.Forall₂ (fun t c => sameFold t c = true) term found := by
  induction text with
  | nil => exact forall₂_of_frontMatch? matched
  | cons c text ih =>
    unfold firstMatch? at matched
    rcases Option.or_eq_some_iff.mp matched with front | ⟨_, later⟩
    · exact forall₂_of_frontMatch? front
    · exact ih later

end Text

/-! ### The tags around marked parts -/

open Highlighter Text

/-- A displayed text without the tags around its marked parts. -/
def untagged (html : List Char) : List Char := without closeTag (without openTag html)

/-- A fragment whose opening tag has been deleted. -/
def closedMarkup : Fragment → List Char
  | .plain c => [c]
  | .marked text => text ++ closeTag

theorem openTag_eq : openTag = '<' :: "span class=\"textHighlighted\">".toList := rfl

theorem closeTag_eq : closeTag = '<' :: "/span>".toList := rfl

theorem openTag_ne_nil : openTag ≠ [] := List.cons_ne_nil _ _

theorem closeTag_ne_nil : closeTag ≠ [] := List.cons_ne_nil _ _

/-- No tag begins in a text without an angle bracket. -/
theorem without_tag_append {tag rest front : List Char} (begins : tag = '<' :: rest)
    (clean : '<' ∉ front) (text : List Char) :
    without tag (front ++ text) = front ++ without tag text := by
  rw [begins]
  exact without_append_of_not_mem clean text

/-- A closing tag is no opening one. -/
theorem without_openTag_closeTag (text : List Char) :
    without openTag (closeTag ++ text) = closeTag ++ without openTag text := by
  have noFront : openTag.isPrefixOf ('<' :: ("/span>".toList ++ text)) = false := rfl
  rw [closeTag_eq, List.cons_append, without_cons noFront, without_tag_append openTag_eq (by decide)]
  rfl

variable {fragments : List Fragment}

/-- Deleting the opening tags. -/
theorem without_openTag_markup (clean : '<' ∉ fragments.flatMap Fragment.text) :
    without openTag (fragments.flatMap markup) = fragments.flatMap closedMarkup := by
  induction fragments with
  | nil => rfl
  | cons fragment rest ih =>
    rw [List.flatMap_cons, List.mem_append, not_or] at clean
    have plain := without_tag_append openTag_eq clean.1
    rw [List.flatMap_cons, List.flatMap_cons, ← ih clean.2]
    cases fragment with
    | plain c => exact plain _
    | marked text =>
      show without openTag (openTag ++ text ++ closeTag ++ _) = text ++ closeTag ++ _
      rw [List.append_assoc, List.append_assoc, without_append_self openTag_ne_nil]
      rw [show without openTag (text ++ (closeTag ++ _)) = _ from plain _, without_openTag_closeTag,
        List.append_assoc]
      rfl

/-- Deleting the closing tags. -/
theorem without_closeTag_closedMarkup (clean : '<' ∉ fragments.flatMap Fragment.text) :
    without closeTag (fragments.flatMap closedMarkup) = fragments.flatMap Fragment.text := by
  induction fragments with
  | nil => rfl
  | cons fragment rest ih =>
    rw [List.flatMap_cons, List.mem_append, not_or] at clean
    have plain := without_tag_append closeTag_eq clean.1
    rw [List.flatMap_cons, List.flatMap_cons, ← ih clean.2]
    cases fragment with
    | plain c => exact plain _
    | marked text =>
      show without closeTag (text ++ closeTag ++ _) = text ++ _
      rw [List.append_assoc]
      rw [show without closeTag (text ++ (closeTag ++ _)) = _ from plain _,
        without_append_self closeTag_ne_nil]
      rfl

/-- **The tags around marked parts** can be deleted again. -/
theorem untagged_markup (clean : '<' ∉ fragments.flatMap Fragment.text) :
    untagged (fragments.flatMap markup) = fragments.flatMap Fragment.text := by
  unfold untagged
  rw [without_openTag_markup clean, without_closeTag_closedMarkup clean]

/-! ### Displayed text -/

/-- What a displayed text is made of: the escaped text, with tags around parts of it and nowhere else.
Deleting every such tag leaves exactly the escaped text, which holds no character of markup. -/
structure Displays (html : List Char) (text : String) : Prop where
  marked : ∃ fragments : List Fragment, html = fragments.flatMap markup ∧
    fragments.flatMap Fragment.text = htmlEscape text.toList
  escaped : untagged html = htmlEscape text.toList
  harmless : ∀ c ∈ untagged html, c ∉ markupChars

/-- Escaped text with tags around some of its parts displays the text. -/
theorem displays_of_fragments {text : String}
    (whole : fragments.flatMap Fragment.text = htmlEscape text.toList) :
    Displays (fragments.flatMap markup) text := by
  have clean : '<' ∉ fragments.flatMap Fragment.text := by
    rw [whole]
    exact fun member => not_mem_htmlEscape member (by decide)
  have escaped := (untagged_markup clean).trans whole
  refine ⟨⟨fragments, rfl, whole⟩, escaped, fun c member => ?_⟩
  rw [escaped] at member
  exact not_mem_htmlEscape member

/-- Characters that are not marked are as they are. -/
theorem flatMap_plain {f : Fragment → List Char} (plain : ∀ c, f (.plain c) = [c])
    (chars : List Char) : (chars.map Fragment.plain).flatMap f = chars := by
  rw [List.flatMap_map]
  simp only [plain, List.flatMap_singleton']

/-- Escaped text displays the text. -/
theorem displays_htmlEscape (text : String) : Displays (htmlEscape text.toList) text := by
  have displays := displays_of_fragments
    (flatMap_plain (fun _ => rfl : ∀ c, Fragment.text (.plain c) = [c]) (htmlEscape text.toList))
  rw [flatMap_plain fun _ => rfl] at displays
  exact displays

section Made

variable [Regex.Compiler] {search : String} {h : Highlighter} (made : ofTerm? search = some h)

include made

/-- A highlighter looks for the escaped term, of which there is one. -/
theorem entered_of_ofTerm? : search ≠ "" ∧ h.term = htmlEscape search.toList := by
  unfold ofTerm? at made
  split at made
  · cases made
  · next entered =>
    obtain ⟨_, _, rfl⟩ := Option.map_eq_some_iff.mp made
    exact ⟨entered, rfl⟩

theorem term_ne_nil : h.term ≠ [] := by
  obtain ⟨entered, term⟩ := entered_of_ofTerm? made
  rw [term]
  exact htmlEscape_ne_nil (mt String.toList_eq_nil_iff.mp entered)

end Made

/-- **A displayed text** is made of the escaped text and of tags around parts of it. -/
theorem displays_displayed {highlighter : Option Highlighter}
    (terms : ∀ h ∈ highlighter, h.term ≠ []) (text : String) :
    Displays (displayed highlighter text) text := by
  cases highlighter with
  | none => exact displays_htmlEscape text
  | some h =>
    show Displays (h.apply (htmlEscape text.toList)) text
    unfold Highlighter.apply
    cases found : firstMatch? h.term (htmlEscape text.toList) with
    | none => exact displays_htmlEscape text
    | some needle =>
      have nonempty : needle ≠ [] := by
        rintro rfl
        exact terms h rfl (List.forall₂_nil_right_iff.mp (forall₂_of_firstMatch? found))
      exact displays_of_fragments (flatMap_text_mark nonempty _)

end DocTable
