/-
**Placeholders of templates.**

A placeholder is a path of words with blanks around it, between two pairs of braces. What is in the braces
holds none, so reading a placeholder at the front of a text takes all of it and nothing of what follows,
and it is told from what is read.

* `Placeholder`: a placeholder as it is written;
* `placeholder?_chars`: every placeholder is read, whatever follows it;
* `exists_of_placeholder?`: nothing else is read;
* `chars_append_inj`: the front of a text is at most one placeholder.
-/

import DocTable.Proofs.Paths
import Mathlib.Data.List.TakeWhile

namespace DocTable

namespace Text

/-- The pieces between separators are those of the library. -/
theorem splitOn_eq {α : Type} [DecidableEq α] (sep : α) (chars : List α) :
    splitOn sep chars = chars.splitOn sep := by
  induction chars with
  | nil => simp
  | cons c rest ih =>
    rw [splitOn_cons, ih, List.splitOn_cons_eq_if_modifyHead]
    obtain ⟨piece, more, pieces⟩ := List.exists_cons_of_ne_nil (List.splitOn_ne_nil sep rest)
    simp [cutStep, pieces]

/-- A piece holds no separator, and nothing that is not in the text. -/
theorem of_mem_splitOn {α : Type} [DecidableEq α] {sep : α} {chars piece : List α}
    (member : piece ∈ splitOn sep chars) : ∀ c ∈ piece, c ≠ sep ∧ c ∈ chars := by
  induction chars generalizing piece with
  | nil => simp_all
  | cons first rest ih =>
    obtain ⟨front, more, pieces⟩ := List.exists_cons_of_ne_nil (splitOn_ne_nil sep rest)
    rw [pieces] at ih
    rw [splitOn_cons, pieces, cutStep] at member
    intro c inside
    by_cases cut : first = sep
    · rw [if_pos cut] at member
      rcases List.mem_cons.mp member with rfl | older
      · cases inside
      · exact (ih older c inside).imp_right (List.mem_cons_of_mem first)
    · rw [if_neg cut] at member
      rcases List.mem_cons.mp member with rfl | older
      · rcases List.mem_cons.mp inside with rfl | older
        · exact ⟨cut, List.mem_cons_self⟩
        · exact (ih List.mem_cons_self c older).imp_right (List.mem_cons_of_mem first)
      · exact (ih (List.mem_cons_of_mem front older) c inside).imp_right (List.mem_cons_of_mem first)

section Front

variable {α : Type} {test : α → Bool} {front rest : List α}

/-- What passes a test up to something that does not is the longest front that passes. -/
theorem takeWhile_append_of_head (passed : ∀ c ∈ front, test c = true)
    (stop : ∀ c ∈ rest.head?, test c = false) : (front ++ rest).takeWhile test = front := by
  rw [List.takeWhile_append_of_pos passed]
  cases rest with
  | nil => simp
  | cons c rest => simp [stop c rfl]

theorem dropWhile_append_of_head (passed : ∀ c ∈ front, test c = true)
    (stop : ∀ c ∈ rest.head?, test c = false) : (front ++ rest).dropWhile test = rest := by
  rw [List.dropWhile_append_of_pos passed]
  cases rest with
  | nil => simp
  | cons c rest => simp [stop c rfl]

end Front

end Text

namespace Segment

/-- Characters of paths are letters, digits and two marks between them. -/
theorem toNat_of_isPathChar {c : Char} (inPath : isPathChar c = true) :
    46 ≤ c.toNat ∧ c.toNat ≤ 122 := by
  have within {low high : Char} (low_ge : 46 ≤ low.toNat) (high_le : high.toNat ≤ 122)
      (inside : low.toNat ≤ c.toNat ∧ c.toNat ≤ high.toNat) : 46 ≤ c.toNat ∧ c.toNat ≤ 122 := by
    omega
  simp only [isPathChar, Bool.or_eq_true, decide_eq_true_eq] at inPath
  rcases inPath with (alphanum | rfl) | rfl
  · rcases (Bool.or_eq_true _ _).mp alphanum with letter | digit
    · rcases (Bool.or_eq_true _ _).mp letter with upper | lower
      · have inside : 'A'.val ≤ c.val ∧ c.val ≤ 'Z'.val := of_decide_eq_true upper
        exact within (by decide) (by decide) inside
      · have inside : 'a'.val ≤ c.val ∧ c.val ≤ 'z'.val := by
          simpa using (Bool.and_eq_true _ _).mp lower
        exact within (by decide) (by decide) inside
    · exact within (by decide) (by decide) (Char.isDigit_iff_toNat.mp digit)
  · decide
  · decide

/-- A character of a path is no blank. -/
theorem not_isBlank_of_isPathChar {c : Char} (inPath : isPathChar c = true) :
    Text.isBlank c = false := by
  obtain ⟨low, high⟩ := toNat_of_isPathChar inPath
  have behind (code : Nat) (small : code < 46) : ¬c.toNat ≤ code := by omega
  have before : c.toNat < 133 := by omega
  simp only [Text.isBlank, Text.spaceRanges, Text.inRanges, behind 13 (by decide),
    behind 32 (by decide), before, if_false, if_true, ite_self]

end Segment

/-! ### Placeholders as they are written -/

/-- A character of a word. -/
def isWordChar (c : Char) : Bool := c.isAlphanum || c = '_'

/-- **A placeholder** as it is written: a path of words with dots between them, blanks in front of it and
behind it. -/
@[ext]
structure Placeholder where
  before : List Char
  key : List Char
  path : List (List Char)
  after : List Char
  blank_before : ∀ c ∈ before, Text.isBlank c = true
  words : ∀ word ∈ key :: path, word ≠ [] ∧ ∀ c ∈ word, isWordChar c = true
  blank_after : ∀ c ∈ after, Text.isBlank c = true

namespace Placeholder

open Segment

/-- The words of a placeholder with the dots between them. -/
def dotted (h : Placeholder) : List Char := List.intercalate ['.'] (h.key :: h.path)

/-- What is written between the opening and the closing braces. -/
def inside (h : Placeholder) : List Char := h.before ++ h.dotted ++ h.after

/-- The text of a placeholder. -/
def chars (h : Placeholder) : List Char := '\x7b' :: '\x7b' :: (h.inside ++ ['\x7d', '\x7d'])

/-- The part of a template that a placeholder stands for. -/
def segment (h : Placeholder) : Segment := .value (String.ofList h.key) (h.path.map String.ofList)

theorem isPathChar_of_isWordChar {c : Char} (inWord : isWordChar c = true) : isPathChar c = true := by
  unfold isPathChar
  rw [Bool.or_eq_true]
  exact Or.inl inWord

theorem splitOn_dotted (h : Placeholder) : Text.splitOn '.' h.dotted = h.key :: h.path := by
  rw [Text.splitOn_eq]
  refine List.splitOn_intercalate '.' (fun word member dot => ?_) (List.cons_ne_nil _ _)
  have inWord := (h.words word member).2 '.' dot
  simp [isWordChar] at inWord

theorem isPathChar_of_mem_intercalate {words : List (List Char)}
    (inWords : ∀ word ∈ words, ∀ c ∈ word, isWordChar c = true) :
    ∀ c ∈ List.intercalate ['.'] words, isPathChar c = true := by
  induction words with
  | nil => simp
  | cons word rest ih =>
    obtain ⟨here, later⟩ := List.forall_mem_cons.mp inWords
    cases rest with
    | nil => simpa using fun c member => isPathChar_of_isWordChar (here c member)
    | cons next rest =>
      intro c member
      rw [List.intercalate_cons_cons] at member
      rcases List.mem_append.mp member with front | behind
      · rcases List.mem_append.mp front with first | dot
        · exact isPathChar_of_isWordChar (here c first)
        · rw [List.mem_singleton.mp dot]
          rfl
      · exact ih later c behind

theorem isPathChar_of_mem_dotted (h : Placeholder) : ∀ c ∈ h.dotted, isPathChar c = true :=
  isPathChar_of_mem_intercalate fun word member => (h.words word member).2

theorem dotted_ne_nil (h : Placeholder) : h.dotted ≠ [] := by
  intro none
  have words := h.splitOn_dotted
  rw [none, Text.splitOn_nil, List.cons.injEq] at words
  exact (h.words h.key List.mem_cons_self).1 words.1.symm

/-- What is written behind the blanks in front of a path begins with no blank. -/
theorem head?_dotted (h : Placeholder) (rest : List Char) :
    ∀ c ∈ (h.dotted ++ rest).head?, Text.isBlank c = false := by
  obtain ⟨first, more, dotted⟩ := List.exists_cons_of_ne_nil h.dotted_ne_nil
  have inPath := h.isPathChar_of_mem_dotted first (dotted ▸ List.mem_cons_self)
  simpa [dotted] using not_isBlank_of_isPathChar inPath

/-- What is written behind a path goes on with no character of a path. -/
theorem head?_after (h : Placeholder) (tail : List Char) :
    ∀ c ∈ (h.after ++ '\x7d' :: tail).head?, isPathChar c = false := by
  cases after : h.after with
  | nil => simp [isPathChar]
  | cons blank rest =>
    have isBlank := h.blank_after blank (after ▸ List.mem_cons_self)
    simp only [List.cons_append, List.head?_cons, Option.mem_def, Option.some.injEq, forall_eq']
    by_contra inPath
    rw [not_isBlank_of_isPathChar (Bool.not_eq_false _ ▸ inPath)] at isBlank
    cases isBlank

/-- What is written behind the opening braces begins with no brace. -/
theorem head?_inside (h : Placeholder) (tail : List Char) :
    ∀ c ∈ (h.inside ++ tail).head?, c ≠ '\x7b' := by
  rw [inside, List.append_assoc, List.append_assoc]
  rintro c first rfl
  cases before : h.before with
  | nil =>
    obtain ⟨letter, more, dotted⟩ := List.exists_cons_of_ne_nil h.dotted_ne_nil
    have inPath := h.isPathChar_of_mem_dotted letter (dotted ▸ List.mem_cons_self)
    obtain rfl : letter = '\x7b' := by simpa [before, dotted] using first
    cases inPath
  | cons blank rest =>
    have isBlank := h.blank_before blank (before ▸ List.mem_cons_self)
    obtain rfl : blank = '\x7b' := by simpa [before] using first
    cases isBlank

/-- **A placeholder is read**, whatever follows it. -/
theorem placeholder?_chars (h : Placeholder) (tail : List Char) :
    placeholder? (h.chars ++ tail) = some (h.segment, tail) := by
  have written : h.chars ++ tail =
      '\x7b' :: '\x7b' :: (h.before ++ (h.dotted ++ (h.after ++ '\x7d' :: '\x7d' :: tail))) := by
    simp [chars, inside]
  have words : (h.key :: h.path).all (· ≠ []) = true :=
    List.all_eq_true.mpr fun word member => decide_eq_true (h.words word member).1
  have brace : ∀ c ∈ ('\x7d' :: '\x7d' :: tail).head?, Text.isBlank c = false := by
    simp [show Text.isBlank '\x7d' = false from rfl]
  rw [written, placeholder?]
  simp only [Text.dropWhile_append_of_head h.blank_before (h.head?_dotted _),
    Text.dropWhile_append_of_head h.isPathChar_of_mem_dotted (h.head?_after _),
    Text.takeWhile_append_of_head h.isPathChar_of_mem_dotted (h.head?_after _),
    Text.dropWhile_append_of_head h.blank_after brace, splitOn_dotted, ofWords?, if_pos words]
  rfl

/-- Words that name a value are not empty. -/
theorem exists_of_ofWords? {words : List (List Char)} {found : Segment}
    (named : ofWords? words = some found) :
    ∃ key path, words = key :: path ∧ (∀ word ∈ words, word ≠ []) ∧
      found = .value (String.ofList key) (path.map String.ofList) := by
  cases words with
  | nil => cases named
  | cons key path =>
    simp only [ofWords?] at named
    split at named
    · next all =>
      cases named
      exact ⟨key, path, rfl, by simpa using all, rfl⟩
    · cases named

/-- The pieces of a path between its dots are words. -/
theorem isWordChar_of_mem_splitOn {text : List Char} (inPath : ∀ c ∈ text, isPathChar c = true) :
    ∀ word ∈ Text.splitOn '.' text, ∀ c ∈ word, isWordChar c = true := by
  intro word member c inside
  obtain ⟨noDot, there⟩ := Text.of_mem_splitOn member c inside
  simpa [isPathChar, isWordChar, noDot] using inPath c there

/-- **Nothing else is read** as a placeholder. -/
theorem exists_of_placeholder? {chars tail : List Char} {found : Segment}
    (read : placeholder? chars = some (found, tail)) :
    ∃ h : Placeholder, chars = h.chars ++ tail ∧ found = h.segment := by
  unfold placeholder? at read
  split at read
  · next rest =>
    dsimp only at read
    split at read
    · next more closing =>
      obtain ⟨_, named, same⟩ := Option.map_eq_some_iff.mp read
      cases same
      obtain ⟨key, path, pieces, nonempty, rfl⟩ := exists_of_ofWords? named
      have taken : ∀ c ∈ (rest.dropWhile Text.isBlank).takeWhile isPathChar, isPathChar c = true :=
        fun c member => List.mem_takeWhile_imp member
      have inWords := isWordChar_of_mem_splitOn taken
      rw [pieces] at inWords nonempty
      refine ⟨⟨rest.takeWhile Text.isBlank, key, path,
        ((rest.dropWhile Text.isBlank).dropWhile isPathChar).takeWhile Text.isBlank,
        fun c member => List.mem_takeWhile_imp member,
        fun word member => ⟨nonempty word member, inWords word member⟩,
        fun c member => List.mem_takeWhile_imp member⟩, ?_, rfl⟩
      have joined : List.intercalate ['.'] (key :: path) =
          (rest.dropWhile Text.isBlank).takeWhile isPathChar := by
        rw [← pieces, Text.intercalate_splitOn]
      have parts : rest = rest.takeWhile Text.isBlank ++
          (List.intercalate ['.'] (key :: path) ++
            (((rest.dropWhile Text.isBlank).dropWhile isPathChar).takeWhile Text.isBlank ++
              '\x7d' :: '\x7d' :: tail)) := by
        rw [joined, ← closing, List.takeWhile_append_dropWhile, List.takeWhile_append_dropWhile,
          List.takeWhile_append_dropWhile]
      simpa [chars, inside, dotted] using parts
    · cases read
  · cases read

/-- **The front of a text** is at most one placeholder. -/
theorem chars_append_inj {h other : Placeholder} {tail rest : List Char}
    (same : h.chars ++ tail = other.chars ++ rest) : h = other ∧ tail = rest := by
  have read := h.placeholder?_chars tail
  rw [same, other.placeholder?_chars rest] at read
  obtain ⟨words, rfl⟩ : other.segment = h.segment ∧ rest = tail := by simpa using read
  obtain ⟨key, path⟩ : other.key = h.key ∧ other.path = h.path := by
    simpa [segment, String.ofList_inj, List.map_inj_right fun _ _ => String.ofList_injective] using words
  have inside : h.before ++ (h.dotted ++ (h.after ++ '\x7d' :: '\x7d' :: rest)) =
      other.before ++ (other.dotted ++ (other.after ++ '\x7d' :: '\x7d' :: rest)) := by
    simpa [chars, Placeholder.inside] using same
  have before : h.before = other.before := by
    rw [← Text.takeWhile_append_of_head h.blank_before (h.head?_dotted _), inside,
      Text.takeWhile_append_of_head other.blank_before (other.head?_dotted _)]
  have dotted : h.dotted = other.dotted := by
    rw [Placeholder.dotted, Placeholder.dotted, key, path]
  have after : h.after = other.after := by simpa [before, dotted] using inside
  exact ⟨Placeholder.ext before key.symm path.symm after, rfl⟩

end Placeholder

end DocTable
