/-
**What a search finds is marked.**

A search looks for its term in the texts of documents, the highlighter for the escaped term in their
escaped texts. Both go by case folding, so whatever the search finds is marked where it is displayed,
provided the term has a highlighter: escaping makes it longer, and its pattern may become too large.

* `exists_text_of_found`: what the filter of a search finds;
* `ofTerm?_eq`: the terms that have a highlighter;
* `openTag_infix_apply`: texts that hold the term are marked;
* `marked_of_found`: all of it together.
-/

import DocTable.Proofs.Escaping
import DocTable.Proofs.Filtering
import DocTable.Proofs.Room

namespace DocTable

/-! ### What is found -/

/-- **The filter of a search** admits documents only that hold the term in a text of some field. -/
theorem exists_text_of_found [Regex.Compiler] {term : String} {fields : List String}
    {filter d : Document}
    (compiled : compileSearch term fields = some filter) (found : filter.Admits d) :
    term ≠ "" ∧ ∃ field ∈ fields, d.Offers field (Value.ContainsTerm term) := by
  let q : Query := { (default : Query) with search := term, searchFields := fields }
  have searches : q.Searches := by
    by_contra nothing
    unfold compileSearch at compiled
    rw [if_pos (not_and_or.mp nothing |>.imp not_not.mp not_not.mp)] at compiled
    cases compiled
  have same : some q.searchClauses = some filter :=
    (if_neg (not_or.mpr searches)).symm.trans compiled
  obtain rfl := Option.some.inj same
  obtain ⟨c, parsed, holds⟩ := found
  have clause (field : String) (member : field ∈ q.searchFields) :=
    exists_ok_below rfl parsed (List.mem_map_of_mem member)
  have plain (field : String) (member : field ∈ q.searchFields) :
      Condition.isOperator field = false :=
    plain_of_ok (fun _ => Value.noConfusion) (clause field member)
  have fits : TermFits q.search := by
    obtain ⟨field, member⟩ := List.exists_mem_of_ne_nil _ searches.2
    obtain ⟨part, read⟩ := clause field member
    rw [ofDocument_searchClause (plain field member)] at read
    by_contra large
    rw [if_neg large] at read
    cases read
  exact ⟨searches.1, (admits_searchClauses_iff searches plain fits d).mp ⟨c, parsed, holds⟩⟩

/-- Whatever path leads somewhere in a document with one text leads to the text, from which none goes on. -/
theorem eq_string_of_lookup {key path text : String} {v : Value}
    (found : Document.lookup [(key, .string text)] path = some v) : v = .string text := by
  have shown {name : String} {v : Value}
      (read : Document.get? [(key, .string text)] name = some v) : v = .string text := by
    unfold Document.get? at read
    split at read
    · exact (Option.some.inj read).symm
    · cases read
  unfold Document.lookup at found
  cases parts : segments path with
  | nil =>
    rw [parts] at found
    cases found
  | cons name rest =>
    rw [parts] at found
    cases rest with
    | nil => exact shown found
    | cons next later =>
      obtain ⟨inner, entered, _⟩ := Option.bind_eq_some_iff.mp found
      obtain ⟨v, read, document⟩ := Option.bind_eq_some_iff.mp entered
      rw [shown read] at document
      cases document

/-! ### What is marked -/

namespace Highlighter

open Text

section Made

variable [Regex.Compiler]

/-- Whether the pattern of a term is small enough for the compiler once the term is escaped. -/
def Fits (term : String) : Prop := TermFits (String.ofList (htmlEscape term.toList))

instance (term : String) : Decidable (Fits term) := inferInstanceAs (Decidable (TermFits _))

/-- **Terms with a highlighter** are the ones that are small enough once they are escaped. -/
theorem ofTerm?_eq {term : String} (entered : term ≠ "") :
    ofTerm? term = if Fits term then some ⟨htmlEscape term.toList⟩ else none := by
  have fits : Fits term ↔ Regex.Compiler.takes (Regex.caselessNode (htmlEscape term.toList)) = true := by
    unfold Fits TermFits
    rw [String.toList_ofList]
  unfold ofTerm?
  rw [if_neg entered, Regex.compile?_escapeLiteral]
  by_cases small : Fits term
  · rw [if_pos small, if_pos (fits.mp small)]
    rfl
  · rw [if_neg small, if_neg (mt fits.mpr small)]
    rfl

end Made

/-- A text that stands in another one is marked there. -/
theorem marked_mem_mark {needle : List Char} (nonempty : needle ≠ []) (front back : List Char) :
    Fragment.marked needle ∈ mark needle (front ++ (needle ++ back)) := by
  have begun {text : List Char} (front : needle.isPrefixOf text = true) :
      Fragment.marked needle ∈ mark needle text := by
    cases text with
    | nil => exact absurd (List.prefix_nil.mp (List.isPrefixOf_iff_prefix.mp front)) nonempty
    | cons c text =>
      unfold mark
      rw [markFrom, if_pos front]
      exact List.mem_cons_self
  induction front with
  | nil => exact begun (List.isPrefixOf_iff_prefix.mpr (List.prefix_append needle back))
  | cons c front ih =>
    by_cases here : needle.isPrefixOf (c :: (front ++ (needle ++ back))) = true
    · exact begun here
    · rw [List.cons_append]
      unfold mark
      rw [markFrom, if_neg here]
      exact List.mem_cons_of_mem _ ih

/-- **Texts that hold the term** are marked. -/
theorem openTag_infix_apply {h : Highlighter} (nonempty : h.term ≠ []) {escaped : List Char}
    (contains : Regex.ContainsUpToCase escaped h.term) : openTag <:+: h.apply escaped := by
  obtain ⟨needle, found⟩ :=
    Option.isSome_iff_exists.mp ((firstMatch?_isSome_iff h.term escaped).mpr contains)
  obtain ⟨front, back, rfl⟩ := exists_of_firstMatch? found
  have needed : needle ≠ [] := by
    rintro rfl
    exact nonempty (List.forall₂_nil_right_iff.mp (forall₂_of_firstMatch? found))
  unfold apply
  rw [found]
  obtain ⟨before, after, marks⟩ := List.append_of_mem (marked_mem_mark needed front back)
  refine ⟨before.flatMap markup, needle ++ (closeTag ++ after.flatMap markup), ?_⟩
  show _ = (mark needle (front ++ (needle ++ back))).flatMap markup
  rw [marks, List.flatMap_append, List.flatMap_cons]
  show _ = _ ++ (openTag ++ needle ++ closeTag ++ _)
  simp only [List.append_assoc]

end Highlighter

/-- **What a search finds is marked.** If the filter of a search for a term admits a document with one
text, the escaped text is marked by the highlighter of the term. The one exception are terms that are
too large for a pattern once they are escaped, which have no highlighter. -/
theorem marked_of_found [Regex.Compiler] {term field text : String} {filter : Document}
    (compiled : compileSearch term [field] = some filter)
    (found : filter.Admits [(field, .string text)]) :
    (Highlighter.Fits term → ∃ h, Highlighter.ofTerm? term = some h ∧
      Highlighter.openTag <:+: h.apply (Text.htmlEscape text.toList)) ∧
    (¬Highlighter.Fits term → Highlighter.ofTerm? term = none) := by
  obtain ⟨entered, _, _, v, read, offered⟩ := exists_text_of_found compiled found
  obtain rfl := eq_string_of_lookup read
  have contains : Regex.ContainsUpToCase text.toList term.toList := by
    rcases offered with ⟨_, same, holds⟩ | ⟨_, array, _⟩
    · cases same
      exact holds
    · cases array
  have highlighter := Highlighter.ofTerm?_eq entered
  refine ⟨fun fits => ?_, fun large => highlighter.trans (if_neg large)⟩
  have made := highlighter.trans (if_pos fits)
  refine ⟨_, made, Highlighter.openTag_infix_apply (term_ne_nil made) ?_⟩
  exact Text.containsUpToCase_htmlEscape contains

/-- A search for a term with a special character, in other case and beside markup. -/
theorem marked_of_found_team :
    let d : Document := [("team", .string "<b>R&D</b>")]
    ∃ filter, compileSearch "r&d" ["team"] = some filter ∧ filter.Admits d ∧
      ∃ h, Highlighter.ofTerm? "r&d" = some h ∧
        Highlighter.openTag <:+: h.apply (Text.htmlEscape "<b>R&D</b>".toList) := by
  intro d
  have found : Document.Admits (.single "$or" (.ofDocuments [searchClause "r\\&d" "team"])) d :=
    ⟨_, rfl, by decide +kernel⟩
  exact ⟨_, rfl, found, (marked_of_found rfl found).1 (by decide +kernel)⟩

/-- A search for fifty thousand ampersands finds them, but marks none of them. -/
theorem found_and_not_marked :
    let term := String.ofList (List.replicate 50000 '&')
    ∃ filter, compileSearch term ["note"] = some filter ∧ filter.Admits [("note", .string term)] ∧
      Highlighter.ofTerm? term = none := by
  intro term
  have letters : term.toList = List.replicate (49999 + 1) '&' := String.toList_ofList
  have entered : term ≠ "" := Regex.ofList_replicate_ne_empty '&' 49999
  let q : Query := { (default : Query) with search := term, searchFields := ["note"] }
  have searches : q.Searches := ⟨entered, List.cons_ne_nil _ _⟩
  have fits : TermFits q.search := by
    show Regex.Compiler.takes (Regex.caselessNode term.toList) = true
    rw [letters, Regex.takes_replicate_iff, show (Regex.caselessSet '&').room = 32 by decide +kernel]
    unfold Regex.roomLimit
    omega
  refine ⟨q.searchClauses, if_neg (not_or.mpr searches), ?_, ?_⟩
  · exact (admits_searchClauses_iff searches (by decide) fits _).mpr
      ⟨"note", List.mem_cons_self, _, rfl, Or.inl ⟨term, rfl, Regex.containsUpToCase_self _⟩⟩
  · refine (Highlighter.ofTerm?_eq entered).trans (if_neg fun small => ?_)
    have nonempty := Text.htmlEscape_ne_nil (mt String.toList_eq_nil_iff.mp entered)
    unfold Highlighter.Fits TermFits at small
    rw [String.toList_ofList, Regex.takes_caselessNode_iff nonempty, letters,
      Text.sum_map_htmlEscape_replicate,
      show ((Text.htmlChar '&').map fun c => (Regex.caselessSet c).room).sum = 304 by decide +kernel]
      at small
    unfold Regex.roomLimit at small
    omega

end DocTable
