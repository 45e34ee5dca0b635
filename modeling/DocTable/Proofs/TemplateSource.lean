/-
**Sources of templates.**

A source is text with placeholders in it. Where the text holds no pair of equal braces the source can be
written in one way only, and reading it from left to right finds this way: no placeholder begins inside
such text, and none begins inside another one.

* `Spelling`: text and placeholders in turn;
* `ofSourceFrom_chars`: reading finds the text and the placeholders that were written;
* `exists_spelling`: whatever is read was written so;
* `Spelling.eq_of_chars_eq`: a source is written in one way;
* `ofSource_accepts_grammar`: which sources are templates, and what they show.
-/

import DocTable.Proofs.Placeholder

namespace DocTable

/-- A text without a pair of equal braces. -/
def Plain (text : List Char) : Prop :=
  ¬['\x7b', '\x7b'] <:+: text ∧ ¬['\x7d', '\x7d'] <:+: text

/-- A pair at the front of a text, or behind its first character. -/
theorem pair_infix_cons {c first second : Char} {text : List Char} :
    [c, c] <:+: first :: second :: text ↔
      (first = c ∧ second = c) ∨ [c, c] <:+: second :: text := by
  rw [List.infix_cons_iff, List.cons_prefix_cons, List.cons_prefix_cons, eq_comm (a := c),
    eq_comm (a := c)]
  simp

/-- The test for pairs finds out whether a text is plain. -/
theorem plain_iff {text : List Char} : Segment.hasBracePair text = false ↔ Plain text := by
  fun_induction Segment.hasBracePair text with
  | case1 first second text ih =>
    have front : (first = second && (first = '\x7b' || first = '\x7d')) = false ↔
        ¬(first = '\x7b' ∧ second = '\x7b') ∧ ¬(first = '\x7d' ∧ second = '\x7d') := by
      by_cases same : first = second
      · simp [same]
      · have apart (c : Char) : ¬(first = c ∧ second = c) := fun both =>
          same (both.1.trans both.2.symm)
        simp [same, apart]
    rw [Bool.or_eq_false_iff, ih, Plain, Plain, pair_infix_cons, pair_infix_cons, front, not_or,
      not_or, and_and_and_comm]
  | case2 text short =>
    rcases text with _ | ⟨c, _ | ⟨second, text⟩⟩
    · simp [Plain]
    · simp [Plain, List.infix_cons_iff]
    · exact absurd rfl (short c second text)

theorem plain_nil : Plain [] := by simp [Plain]

theorem Plain.tail {c : Char} {text : List Char} (plain : Plain (c :: text)) : Plain text :=
  ⟨fun pair => plain.1 (pair.trans (List.suffix_cons c text).isInfix),
    fun pair => plain.2 (pair.trans (List.suffix_cons c text).isInfix)⟩

/-- **A source as it is written**: text, and placeholders with the text behind each of them. -/
@[ext]
structure Spelling where
  first : List Char
  rest : List (Placeholder × List Char)

/-- Placeholders with the text behind each of them. -/
def partsChars (parts : List (Placeholder × List Char)) : List Char :=
  parts.flatMap fun part => part.1.chars ++ part.2

theorem partsChars_cons (part : Placeholder × List Char) (parts : List (Placeholder × List Char)) :
    partsChars (part :: parts) = part.1.chars ++ (part.2 ++ partsChars parts) := by
  simp [partsChars]

/-- What a placeholder shows of a context: the value that its path leads to, escaped for HTML, or
nothing. -/
def Placeholder.shown (h : Placeholder) (context : Document) : List Char :=
  match context.follow ((h.key :: h.path).map String.ofList) with
  | some v => Text.htmlEscape v.cellText.toList
  | none => []

/-- A text as a part of a template; an empty text is none. -/
def textParts : List Char → List Segment
  | [] => []
  | c :: text => [.text (c :: text)]

namespace Spelling

/-- The source that is written. -/
def chars (s : Spelling) : List Char := s.first ++ partsChars s.rest

/-- No text between the placeholders holds a pair of equal braces. -/
def IsPlain (s : Spelling) : Prop := Plain s.first ∧ ∀ part ∈ s.rest, Plain part.2

/-- The first words of the placeholders. -/
def keys (s : Spelling) : List String := s.rest.map fun part => String.ofList part.1.key

/-- The text as it is, and what the placeholders show of a context. -/
def shown (s : Spelling) (context : Document) : List Char :=
  s.first ++ s.rest.flatMap fun part => part.1.shown context ++ part.2

/-- The parts of the template. -/
def segments (s : Spelling) : List Segment :=
  textParts s.first ++ s.rest.flatMap fun part => part.1.segment :: textParts part.2

end Spelling

namespace Segment

/-- No placeholder begins in text without a pair of braces, also not at its end. -/
theorem placeholder?_of_plain {c : Char} {text : List Char} (plain : Plain (c :: text))
    (parts : List (Placeholder × List Char)) :
    placeholder? (c :: (text ++ partsChars parts)) = none := by
  by_contra found
  obtain ⟨⟨segment, tail⟩, read⟩ := Option.ne_none_iff_exists'.mp found
  obtain ⟨h, written, _⟩ := Placeholder.exists_of_placeholder? read
  obtain ⟨rfl, next⟩ : c = '\x7b' ∧
      text ++ partsChars parts = '\x7b' :: (h.inside ++ '\x7d' :: '\x7d' :: tail) := by
    simpa [Placeholder.chars] using written
  cases text with
  | cons second text =>
    obtain rfl : second = '\x7b' := (List.cons.inj next).1
    exact plain.1 ⟨[], text, rfl⟩
  | nil =>
    cases parts with
    | nil => cases next
    | cons part parts =>
      have third : '\x7b' :: (part.1.inside ++ '\x7d' :: '\x7d' :: (part.2 ++ partsChars parts)) =
          h.inside ++ '\x7d' :: '\x7d' :: tail := by
        simpa [partsChars, Placeholder.chars] using next
      exact h.head?_inside _ '\x7b' (by rw [← third]; rfl) rfl

/-- Reading goes on behind the characters of the current placeholder. -/
theorem ofSourceFrom_eq_drop (covered : Nat) (text : List Char) :
    ofSourceFrom covered text = ofSourceFrom 0 (text.drop covered) := by
  induction text generalizing covered with
  | nil => cases covered <;> rfl
  | cons c text ih =>
    cases covered with
    | zero => rfl
    | succ covered => exact ih covered

/-- A placeholder in front is read first. -/
theorem ofSourceFrom_placeholder (h : Placeholder) (tail : List Char) :
    ofSourceFrom 0 (h.chars ++ tail) = h.segment :: ofSourceFrom 0 tail := by
  have read := h.placeholder?_chars tail
  obtain ⟨body, written⟩ : ∃ body, h.chars = '\x7b' :: body := ⟨_, rfl⟩
  rw [written, List.cons_append] at read ⊢
  rw [ofSourceFrom, read]
  simp [ofSourceFrom_eq_drop body.length]

/-- A character that begins no placeholder is text. -/
theorem ofSourceFrom_cons {c : Char} {text : List Char} (none : placeholder? (c :: text) = none) :
    ofSourceFrom 0 (c :: text) = pushChar c (ofSourceFrom 0 text) := by
  rw [ofSourceFrom, none]

/-- A character in front of text makes the text longer. -/
theorem pushChar_segments (c : Char) (s : Spelling) :
    pushChar c s.segments = (Spelling.mk (c :: s.first) s.rest).segments := by
  obtain ⟨first, rest⟩ := s
  cases first with
  | cons => rfl
  | nil => cases rest <;> rfl

/-- Text in front of placeholders is read as text. -/
theorem ofSourceFrom_text {text : List Char} {parts : List (Placeholder × List Char)}
    (plain : Plain text)
    (behind : ofSourceFrom 0 (partsChars parts) = (Spelling.mk [] parts).segments) :
    ofSourceFrom 0 (text ++ partsChars parts) = (Spelling.mk text parts).segments := by
  induction text with
  | nil => exact behind
  | cons c text ih =>
    rw [List.cons_append, ofSourceFrom_cons (placeholder?_of_plain plain parts), ih plain.tail,
      pushChar_segments]

/-- **Reading finds what was written**, if no text between the placeholders holds a pair of braces. -/
theorem ofSourceFrom_chars {s : Spelling} (plain : s.IsPlain) :
    ofSourceFrom 0 s.chars = s.segments := by
  obtain ⟨first, rest⟩ := s
  refine ofSourceFrom_text plain.1 ?_
  have texts := plain.2
  clear plain
  induction rest with
  | nil => simp [partsChars, Spelling.segments, textParts, ofSourceFrom]
  | cons part rest ih =>
    obtain ⟨here, later⟩ := List.forall_mem_cons.mp texts
    have read := ofSourceFrom_text here (ih later)
    rw [partsChars_cons, ofSourceFrom_placeholder, read]
    simp [Spelling.segments, textParts]

/-- **Whatever is read** was written so. Behind a placeholder reading goes on far from the next character,
but on a shorter text. -/
theorem exists_spelling (chars : List Char) :
    ∃ s : Spelling, s.chars = chars ∧ ofSourceFrom 0 chars = s.segments := by
  induction size : chars.length using Nat.strong_induction_on generalizing chars with
  | _ length ih =>
    subst size
    cases chars with
    | nil => exact ⟨⟨[], []⟩, rfl, rfl⟩
    | cons c text =>
      cases read : placeholder? (c :: text) with
      | none =>
        obtain ⟨s, rfl, segments⟩ := ih text.length (by simp) text rfl
        refine ⟨⟨c :: s.first, s.rest⟩, rfl, ?_⟩
        rw [ofSourceFrom_cons read, segments, pushChar_segments]
      | some found =>
        obtain ⟨h, written, _⟩ := Placeholder.exists_of_placeholder? read
        have shorter : found.2.length < (c :: text).length := by
          simp only [written, Placeholder.chars, List.length_append, List.length_cons]
          omega
        obtain ⟨s, tail, segments⟩ := ih found.2.length shorter found.2 rfl
        refine ⟨⟨[], (h, s.first) :: s.rest⟩, ?_, ?_⟩
        · rw [written, ← tail]
          simp [Spelling.chars, partsChars]
        · rw [written, ofSourceFrom_placeholder, segments]
          simp [Spelling.segments, textParts]

/-- A text is well formed if it is plain. -/
theorem malformed?_textParts {text : List Char} :
    (∀ part ∈ textParts text, malformed? part = none) ↔ Plain text := by
  cases text with
  | nil => simp [textParts, plain_nil]
  | cons c text => simp [textParts, malformed?, plain_iff]

theorem filterMap_key?_textParts (text : List Char) : (textParts text).filterMap key? = [] := by
  cases text <;> rfl

theorem flatMap_render_textParts (text : List Char) (context : Document) :
    (textParts text).flatMap (·.render context none) = text := by
  cases text with
  | nil => rfl
  | cons c text => simp [textParts, render]

/-- A placeholder shows the value that its path leads to. -/
theorem render_segment (h : Placeholder) (context : Document) :
    h.segment.render context none = h.shown context := by
  rw [Placeholder.segment, render, Placeholder.shown, List.map_cons, Document.follow_cons]
  rfl

end Segment

namespace Spelling

/-- The parts are well formed if every text is plain. -/
theorem malformed?_segments {s : Spelling} :
    s.segments.findSome? Segment.malformed? = none ↔ s.IsPlain := by
  simp only [List.findSome?_eq_none_iff, segments, List.forall_mem_append, List.forall_mem_flatMap,
    List.forall_mem_cons, Segment.malformed?_textParts, IsPlain]
  simp [Placeholder.segment, Segment.malformed?]

theorem filterMap_key?_segments (s : Spelling) : s.segments.filterMap Segment.key? = s.keys := by
  simp [segments, keys, List.filterMap_flatMap, Segment.filterMap_key?_textParts,
    Placeholder.segment, Segment.key?, List.map_eq_flatMap]

theorem flatMap_render_segments (s : Spelling) (context : Document) :
    s.segments.flatMap (·.render context none) = s.shown context := by
  simp only [segments, shown, List.flatMap_append, List.flatMap_assoc, List.flatMap_cons,
    Segment.flatMap_render_textParts, Segment.render_segment]

/-- Placeholders in front of a text are not read as text. -/
theorem partsChars_ne_cons {c : Char} {text : List Char} (plain : Plain (c :: text))
    (parts others : List (Placeholder × List Char)) :
    partsChars parts ≠ c :: (text ++ partsChars others) := by
  intro same
  cases parts with
  | nil => cases same
  | cons part parts =>
    have read := Segment.placeholder?_of_plain plain others
    rw [← same, partsChars_cons, Placeholder.placeholder?_chars] at read
    cases read

/-- The text in front of the first placeholder is told from the source. -/
theorem text_append_inj {text other : List Char} {parts others : List (Placeholder × List Char)}
    (plain : Plain text) (plain' : Plain other)
    (same : text ++ partsChars parts = other ++ partsChars others) :
    text = other ∧ partsChars parts = partsChars others := by
  induction text generalizing other with
  | nil =>
    cases other with
    | nil => exact ⟨rfl, same⟩
    | cons c other => exact absurd same (partsChars_ne_cons plain' parts others)
  | cons c text ih =>
    cases other with
    | nil => exact absurd same.symm (partsChars_ne_cons plain others parts)
    | cons first other =>
      obtain ⟨rfl, more⟩ := List.cons.inj same
      obtain ⟨rfl, behind⟩ := ih plain.tail plain'.tail more
      exact ⟨rfl, behind⟩

/-- The placeholders and the texts behind them are told from the source. -/
theorem partsChars_inj {parts others : List (Placeholder × List Char)}
    (plain : ∀ part ∈ parts, Plain part.2) (plain' : ∀ part ∈ others, Plain part.2)
    (same : partsChars parts = partsChars others) : parts = others := by
  induction parts generalizing others with
  | nil =>
    cases others with
    | nil => rfl
    | cons other others => simp [partsChars, Placeholder.chars] at same
  | cons part parts ih =>
    cases others with
    | nil => simp [partsChars, Placeholder.chars] at same
    | cons other others =>
      obtain ⟨here, later⟩ := List.forall_mem_cons.mp plain
      obtain ⟨here', later'⟩ := List.forall_mem_cons.mp plain'
      rw [partsChars_cons, partsChars_cons] at same
      obtain ⟨placeholder, same⟩ := Placeholder.chars_append_inj same
      obtain ⟨text, behind⟩ := text_append_inj here here' same
      rw [Prod.ext placeholder text, ih later later' behind]

/-- **A source is written in one way** with plain texts. -/
theorem eq_of_chars_eq {s other : Spelling} (plain : s.IsPlain) (plain' : other.IsPlain)
    (same : s.chars = other.chars) : s = other := by
  obtain ⟨first, behind⟩ := text_append_inj plain.1 plain'.1 same
  exact Spelling.ext first (partsChars_inj plain.2 plain'.2 behind)

end Spelling

/-! ### Which sources are templates -/

/-- What is written with plain texts is a template. -/
theorem ofSource_of_isPlain {source : String} {s : Spelling} (plain : s.IsPlain)
    (written : s.chars = source.toList) : Template.ofSource source = .ok ⟨s.segments⟩ := by
  have read := Segment.ofSourceFrom_chars plain
  rw [written] at read
  unfold Template.ofSource
  dsimp only
  rw [read, Spelling.malformed?_segments.mpr plain]

/-- Only what is written so is a template. -/
theorem exists_isPlain_of_ofSource {source : String} {t : Template}
    (accepted : Template.ofSource source = .ok t) :
    ∃ s : Spelling, s.IsPlain ∧ s.chars = source.toList := by
  obtain ⟨s, written, read⟩ := Segment.exists_spelling source.toList
  refine ⟨s, ?_, written⟩
  unfold Template.ofSource at accepted
  dsimp only at accepted
  rw [read] at accepted
  split at accepted
  · cases accepted
  · next none => exact Spelling.malformed?_segments.mp none

/-- **Sources of templates.** A source is a template exactly if it can be written as text and placeholders
in turn, no text holding a pair of equal braces. It is then written so in one way only, the keys of the
template are the first words of the placeholders in their order, and over any context the template shows
every text as it is and every placeholder as the escaped value its path leads to, or nothing. -/
theorem ofSource_accepts_grammar (source : String) :
    ((∃ t, Template.ofSource source = .ok t) ↔
      ∃ s : Spelling, s.IsPlain ∧ s.chars = source.toList) ∧
    ∀ s : Spelling, s.IsPlain → s.chars = source.toList →
      (∀ other : Spelling, other.IsPlain → other.chars = source.toList → other = s) ∧
      ∃ t, Template.ofSource source = .ok t ∧ t.keys = s.keys ∧
        ∀ context, (t.render context none).toList = s.shown context := by
  refine ⟨⟨?_, ?_⟩, fun s plain written => ⟨fun other plain' written' => ?_, ?_⟩⟩
  · rintro ⟨t, accepted⟩
    exact exists_isPlain_of_ofSource accepted
  · rintro ⟨s, plain, written⟩
    exact ⟨_, ofSource_of_isPlain plain written⟩
  · exact Spelling.eq_of_chars_eq plain' plain (written'.trans written.symm)
  · refine ⟨_, ofSource_of_isPlain plain written, s.filterMap_key?_segments, fun context => ?_⟩
    rw [Template.render, String.toList_ofList, s.flatMap_render_segments]

/-- Single braces may touch the placeholders, and placeholders each other. -/
theorem ofSource_accepts_grammar_touching :
    let source := "\x7b\x7b\x7b a.b \x7d\x7d\x7d\x7b\x7bc\x7d\x7d"
    let context := [("a", Value.document [("b", .string "<")]), ("c", .int32 7)]
    ∃ s : Spelling, s.IsPlain ∧ s.chars = source.toList ∧
      (∀ other : Spelling, other.IsPlain → other.chars = source.toList → other = s) ∧
      ∃ t, Template.ofSource source = .ok t ∧ t.keys = ["a", "c"] ∧
        (t.render context none).toList = "\x7b&lt;\x7d7".toList := by
  intro source context
  let s : Spelling := ⟨['\x7b'],
    [(⟨[' '], ['a'], [['b']], [' '], List.forall_mem_singleton.mpr rfl, by simp [isWordChar],
        List.forall_mem_singleton.mpr rfl⟩, ['\x7d']),
      (⟨[], ['c'], [], [], by simp, by simp [isWordChar], by simp⟩, [])]⟩
  have plain : s.IsPlain := by simp [s, Spelling.IsPlain, ← plain_iff, Segment.hasBracePair]
  have written : s.chars = source.toList := by decide
  obtain ⟨unique, t, accepted, keys, shown⟩ := (ofSource_accepts_grammar source).2 s plain written
  exact ⟨s, plain, written, unique, t, accepted, keys, shown context⟩

end DocTable
