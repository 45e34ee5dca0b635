/-
**Searching for a text whatever the case.**

Where case does not matter, an escaped text reads as a chain of sets, one for each character. The chain
matches in a text just where the escaped one stands up to case.

* `caselessNode`: the chain of a text;
* `compile?_switch_escapeLiteral`, `compile?_escapeLiteral`: an escaped text behind the switch for case,
  and one that is read without regard to case;
* `ContainsUpToCase`, `matchesIn_caselessNode`: what the chain matches.
-/

import DocTable.Proofs.CaseFold
import DocTable.Regex.Parser
import Mathlib.Data.List.Forall2

namespace DocTable.Regex

/-! ### Reading an escaped text -/

/-- The set of a character whatever its case. -/
def caselessSet (c : Char) : CharSet := .folded (.only c)

/-- The pattern for a text whatever its case. -/
def caselessNode : List Char → Node
  | [] => .empty
  | [c] => .set (caselessSet c)
  | c :: rest => .cat (.set (caselessSet c)) (caselessNode rest)

/-- The item of one character. -/
def caselessItem (c : Char) : Item := .pattern (.flat (.set (caselessSet c)))

/-- A progress whose flags ignore case takes in an escaped character. -/
theorem group?_escaped (fuel : Nat) (names : List String) (p : Progress) (c : Char)
    (rest : List Char) (caseless : p.flags = .caseless) :
    group? false (fuel + 1) names p ((if isMeta c then ['\\', c] else [c]) ++ rest) =
      group? false fuel names { p with items := caselessItem c :: p.items } rest := by
  have skip : ∀ chars, p.flags.skip chars = chars := by
    intro chars
    rw [caseless]
    rfl
  have literal : p.flags.literalNode? c = some (.set (caselessSet c)) := by
    rw [caseless]
    rfl
  by_cases special : isMeta c
  · have escape : escape? p.flags (c :: rest) = some (.literal c, rest) := by
      simp only [escape?, isEscapable, special, Bool.true_or, if_true]
    rw [if_pos special, group?, skip]
    show (escape? p.flags (c :: rest)).bind _ = _
    rw [escape]
    show (p.flags.literalNode? c).bind _ = _
    rw [literal]
    rfl
  · have apart : ∀ d, isMeta d = true → c ≠ d := fun d known same =>
      special (same ▸ known)
    rw [if_neg special, group?, skip]
    split <;> rename_i same
    all_goals try exact absurd (List.cons.inj same).1 (apart _ (by decide))
    · cases same
    · obtain ⟨rfl, rfl⟩ := List.cons.inj same
      rw [literal]
      rfl

/-- Behind the switch, an escaped text is taken in one character after the other. -/
theorem group?_escapeLiteral (names : List String) (term : List Char) (fuel : Nat) (p : Progress)
    (caseless : p.flags = .caseless) (enough : term.length < fuel) :
    group? false fuel names p (escapeLiteral term) =
      some (Progress.finish { p with items := (term.map caselessItem).reverse ++ p.items },
        names, []) := by
  induction term generalizing fuel p with
  | nil =>
    obtain ⟨steps, rfl⟩ := Nat.exists_eq_add_one_of_ne_zero (Nat.ne_zero_of_lt enough)
    rw [group?, caseless]
    rfl
  | cons c rest ih =>
    obtain ⟨steps, rfl⟩ := Nat.exists_eq_add_one_of_ne_zero (Nat.ne_zero_of_lt enough)
    show group? false (steps + 1) names p
      ((if isMeta c then ['\\', c] else [c]) ++ escapeLiteral rest) = _
    rw [group?_escaped steps names p c (escapeLiteral rest) caseless,
      ih steps { p with items := caselessItem c :: p.items } caseless
        (Nat.lt_of_succ_lt_succ enough)]
    simp only [List.map_cons, List.reverse_cons, List.append_assoc, List.singleton_append]

/-- The switch for case is read in one step. -/
theorem group?_switch (fuel : Nat) (chars : List Char) :
    group? false (fuel + 1) [] ⟨.default, none, []⟩ ('(' :: '?' :: 'i' :: ')' :: chars) =
      group? false fuel [] ⟨.caseless, none, [.switch]⟩ chars := rfl

/-- The items of a text in sequence are its chain. -/
theorem sequenceOf_caselessItems (term : List Char) :
    sequenceOf (term.map caselessItem).reverse = caselessNode term := by
  induction term with
  | nil => rfl
  | cons c rest ih =>
    unfold sequenceOf at ih ⊢
    rw [List.map_cons, List.reverse_cons, List.foldl_append, ih]
    match rest with
    | [] => rfl
    | [_] => rfl
    | _ :: _ :: _ => rfl

/-- A switch in front of items is no part of their pattern. -/
theorem sequenceOf_append_switch (items : List Item) :
    sequenceOf (items ++ [.switch]) = sequenceOf items := by
  unfold sequenceOf
  rw [List.foldl_append]
  rfl

/-- Items that are not nested are nested once at most when joined. -/
theorem depth_joinItems_le {items : List Item} (flat : ∀ item ∈ items, item.depth = 0) :
    (joinItems items).depth ≤ 1 := by
  have deepest : (items.map Item.depth).foldl max 0 = 0 := by
    induction items with
    | nil => rfl
    | cons item rest ih =>
      rw [List.map_cons, List.foldl_cons, flat item List.mem_cons_self]
      exact ih fun other member => flat other (List.mem_cons_of_mem item member)
  show (if items.length ≤ 1 then (items.map Item.depth).foldl max 0
    else (items.map Item.depth).foldl max 0 + 1) ≤ 1
  rw [deepest]
  split
  · omega
  · omega

/-- A text that is read to items that are not nested is the pattern of these. -/
theorem parse?_of_flat {flags last : Flags} {source : List Char} {items : List Item}
    (read : group? false (source.length + 1) [] ⟨flags, none, []⟩ source =
      some (Progress.finish ⟨last, none, items⟩, [], []))
    (flat : ∀ item ∈ items, item.depth = 0) : parse? flags source = some (sequenceOf items) := by
  unfold parse?
  rw [read]
  exact if_pos (Nat.le_trans (depth_joinItems_le flat) (by decide))

theorem depth_caselessItems {term : List Char} {item : Item}
    (member : item ∈ (term.map caselessItem).reverse) : item.depth = 0 := by
  obtain ⟨c, _, rfl⟩ := List.mem_map.mp (List.mem_reverse.mp member)
  rfl

theorem length_le_escapeLiteral (term : List Char) : term.length ≤ (escapeLiteral term).length := by
  unfold escapeLiteral
  induction term with
  | nil => exact Nat.le_refl 0
  | cons c rest ih =>
    rw [List.flatMap_cons, List.length_append, List.length_cons]
    split
    · simp only [List.length_cons, List.length_nil]
      omega
    · simp only [List.length_cons, List.length_nil]
      omega

theorem parse?_escapeLiteral (term : List Char) :
    parse? .caseless (escapeLiteral term) = some (caselessNode term) := by
  have enough := Nat.lt_succ_of_le (length_le_escapeLiteral term)
  have read := group?_escapeLiteral [] term _ ⟨.caseless, none, []⟩ rfl enough
  rw [List.append_nil] at read
  rw [parse?_of_flat read fun _ => depth_caselessItems, sequenceOf_caselessItems]

theorem parse?_switch_escapeLiteral (term : List Char) :
    parse? .default ('(' :: '?' :: 'i' :: ')' :: escapeLiteral term) = some (caselessNode term) := by
  let items := (term.map caselessItem).reverse ++ [.switch]
  have enough : term.length < (escapeLiteral term).length + 4 :=
    Nat.lt_add_right 3 (Nat.lt_succ_of_le (length_le_escapeLiteral term))
  have read : group? false (('(' :: '?' :: 'i' :: ')' :: escapeLiteral term).length + 1) []
      ⟨.default, none, []⟩ ('(' :: '?' :: 'i' :: ')' :: escapeLiteral term) =
      some (Progress.finish ⟨.caseless, none, items⟩, [], []) :=
    (group?_switch _ _).trans (group?_escapeLiteral [] term _ _ rfl enough)
  have flat : ∀ item ∈ items, item.depth = 0 :=
    List.forall_mem_append.mpr ⟨fun _ => depth_caselessItems, List.forall_mem_singleton.mpr rfl⟩
  rw [parse?_of_flat read flat, sequenceOf_append_switch, sequenceOf_caselessItems]

section Compiling

variable [Compiler]

/-- **Reading an escaped text** without regard to case: its chain, unless that is too large. -/
theorem compile?_escapeLiteral (term : List Char) :
    compile? .caseless (escapeLiteral term) =
      if Compiler.takes (caselessNode term) then some (caselessNode term) else none := by
  unfold compile?
  rw [parse?_escapeLiteral]
  rfl

/-- **Reading an escaped text** behind the switch for case: the same. -/
theorem compile?_switch_escapeLiteral (term : List Char) :
    compile? .default ('(' :: '?' :: 'i' :: ')' :: escapeLiteral term) =
      if Compiler.takes (caselessNode term) then some (caselessNode term) else none := by
  unfold compile?
  rw [parse?_switch_escapeLiteral]
  rfl

end Compiling

/-! ### Where a chain matches -/

/-- Two texts that differ in case only, character by character. -/
abbrev SameUpToCase : List Char → List Char → Prop :=
  List.Forall₂ fun a b => Text.sameFold a b = true

/-- A text with a part that differs from the term in case only. -/
def ContainsUpToCase (text term : List Char) : Prop :=
  ∃ front part back, text = front ++ part ++ back ∧ SameUpToCase term part

theorem sameUpToCase_self (text : List Char) : SameUpToCase text text :=
  List.forall₂_same.mpr fun c _ => (Text.sameFold_iff c c).mpr rfl

theorem containsUpToCase_self (text : List Char) : ContainsUpToCase text text :=
  ⟨[], text, [], (List.append_nil text).symm, sameUpToCase_self text⟩

theorem length_spotsBehind (before : Option Char) (text : List Char) :
    (spotsBehind before text).length = text.length + 1 := by
  induction text generalizing before with
  | nil => rfl
  | cons c rest ih => exact congrArg (· + 1) (ih (some c))

/-- A set leads from each marked place over the character behind it. -/
theorem dropLast_select (s : CharSet) (before : Option Char) (text : List Char) (marks : Marks)
    (length : marks.length = text.length + 1) :
    (Marks.select (fun spot => isIn s spot.after) (spotsBehind before text) marks).dropLast =
      List.zipWith (fun c mark => mark && s.mem c) text marks := by
  induction text generalizing before marks with
  | nil =>
    obtain ⟨mark, rfl⟩ := List.length_eq_one_iff.mp length
    rfl
  | cons c rest ih =>
    obtain ⟨mark, later, rfl⟩ := List.exists_cons_of_length_eq_add_one length
    have tail : later.length = rest.length + 1 := Nat.succ.inj length
    have some_behind : Marks.select (fun spot => isIn s spot.after)
        (spotsBehind (some c) rest) later ≠ [] := by
      refine List.ne_nil_of_length_pos ?_
      unfold Marks.select
      rw [List.length_zipWith, length_spotsBehind, tail]
      omega
    have both := ih (some c) later tail
    show ((mark && s.mem c) :: Marks.select (fun spot => isIn s spot.after)
      (spotsBehind (some c) rest) later).dropLast = _
    rw [List.dropLast_cons_of_ne_nil some_behind, both]
    rfl

theorem advance_set (s : CharSet) (text : List Char) (marks : Marks)
    (length : marks.length = text.length + 1) :
    (Node.set s).advance (spots text) marks =
      false :: List.zipWith (fun c mark => mark && s.mem c) text marks :=
  congrArg (false :: ·) (dropLast_select s none text marks length)

theorem length_advance_set (s : CharSet) (text : List Char) (marks : Marks)
    (length : marks.length = text.length + 1) :
    ((Node.set s).advance (spots text) marks).length = text.length + 1 := by
  rw [advance_set s text marks length, List.length_cons, List.length_zipWith, length]
  omega

/-- **One character.** A set leads to the places behind its members that begin at a marked place. -/
theorem advance_set_iff (s : CharSet) (text : List Char) (marks : Marks)
    (length : marks.length = text.length + 1) (place : Nat) :
    ((Node.set s).advance (spots text) marks)[place]? = some true ↔
      ∃ front c back, text = front ++ c :: back ∧ s.mem c = true ∧
        marks[front.length]? = some true ∧ place = front.length + 1 := by
  rw [advance_set s text marks length]
  constructor
  · intro reached
    cases place with
    | zero => cases reached
    | succ place =>
      rw [List.getElem?_cons_succ, List.getElem?_zipWith_eq_some] at reached
      obtain ⟨c, mark, character, marked, both⟩ := reached
      obtain ⟨rfl, member⟩ := Bool.and_eq_true_iff.mp both
      obtain ⟨inside, rfl⟩ := List.getElem?_eq_some_iff.mp character
      have front : (text.take place).length = place := List.length_take_of_le (Nat.le_of_lt inside)
      refine ⟨text.take place, text[place], text.drop (place + 1), ?_, member, ?_, ?_⟩
      · rw [List.getElem_cons_drop, List.take_append_drop]
      · rw [front]
        exact marked
      · rw [front]
  · rintro ⟨front, c, back, rfl, member, marked, rfl⟩
    rw [List.getElem?_cons_succ, List.getElem?_zipWith_eq_some]
    refine ⟨c, true, ?_, marked, ?_⟩
    · rw [List.getElem?_append_right (Nat.le_refl _), Nat.sub_self]
      rfl
    · rw [member]
      rfl

theorem advance_caselessNode_cons (places : List Spot) (c : Char) (rest : List Char)
    (marks : Marks) :
    (caselessNode (c :: rest)).advance places marks =
      (caselessNode rest).advance places ((Node.set (caselessSet c)).advance places marks) := by
  cases rest with
  | nil => rfl
  | cons _ _ => rfl

/-- **A whole text.** Its chain leads to the places behind the parts that differ from it in case only
and begin at a marked place. -/
theorem advance_caselessNode_iff (text term : List Char) (marks : Marks)
    (length : marks.length = text.length + 1) (place : Nat) :
    ((caselessNode term).advance (spots text) marks)[place]? = some true ↔
      ∃ front part back, text = front ++ part ++ back ∧ SameUpToCase term part ∧
        marks[front.length]? = some true ∧ place = front.length + part.length := by
  induction term generalizing marks place with
  | nil =>
    constructor
    · intro marked
      obtain ⟨(inside : place < marks.length), _⟩ := List.getElem?_eq_some_iff.mp marked
      have front : (text.take place).length = place := List.length_take_of_le (by omega)
      refine ⟨text.take place, [], text.drop place, ?_, List.Forall₂.nil, ?_, ?_⟩
      · rw [List.append_nil, List.take_append_drop]
      · rw [front]
        exact marked
      · rw [front]
        rfl
    · rintro ⟨front, part, back, _, same, marked, rfl⟩
      rw [List.forall₂_nil_left_iff.mp same]
      exact marked
  | cons c rest ih =>
    rw [advance_caselessNode_cons, ih _ (length_advance_set (caselessSet c) text marks length)]
    constructor
    · rintro ⟨front, part, back, split, same, marked, rfl⟩
      obtain ⟨first, x, later, again, member, begun, place⟩ :=
        (advance_set_iff (caselessSet c) text marks length front.length).mp marked
      have ends : front = first ++ [x] := by
        have whole : front ++ (part ++ back) = (first ++ [x]) ++ later := by
          rw [← List.append_assoc, ← split, again, List.append_assoc]
          rfl
        refine (List.append_inj whole ?_).1
        rw [place, List.length_append, List.length_singleton]
      subst ends
      refine ⟨first, x :: part, back, ?_, List.Forall₂.cons ?_ same, begun, ?_⟩
      · rw [split, List.append_assoc first [x] part]
        rfl
      · rw [← CharSet.mem_folded_only]
        exact member
      · rw [place, List.length_cons]
        omega
    · rintro ⟨front, part, back, split, same, marked, rfl⟩
      obtain ⟨x, behind, first, others, rfl⟩ := List.forall₂_cons_left_iff.mp same
      refine ⟨front ++ [x], behind, back, ?_, others, ?_, ?_⟩
      · rw [split, List.append_assoc front [x] behind]
        rfl
      · rw [advance_set_iff (caselessSet c) text marks length]
        refine ⟨front, x, behind ++ back, ?_, ?_, marked, ?_⟩
        · rw [split, List.append_assoc]
          rfl
        · unfold caselessSet
          rw [CharSet.mem_folded_only]
          exact first
        · rw [List.length_append, List.length_singleton]
      · rw [List.length_append, List.length_singleton, List.length_cons]
        omega

/-- **What a chain matches**: the texts that contain its text up to case. -/
theorem matchesIn_caselessNode (term text : List Char) :
    (caselessNode term).matchesIn text = true ↔ ContainsUpToCase text term := by
  have length : ((spots text).map fun _ => true).length = text.length + 1 := by
    rw [List.length_map]
    exact length_spotsBehind none text
  unfold Node.matchesIn
  rw [List.any_eq_true]
  constructor
  · rintro ⟨mark, member, marked⟩
    obtain ⟨place, reached⟩ := List.getElem?_of_mem member
    rw [show mark = true from marked] at reached
    obtain ⟨front, part, back, split, same, _⟩ :=
      (advance_caselessNode_iff text term _ length place).mp reached
    exact ⟨front, part, back, split, same⟩
  · rintro ⟨front, part, back, split, same⟩
    refine ⟨true, ?_, rfl⟩
    refine List.mem_of_getElem? (i := front.length + part.length) ?_
    rw [advance_caselessNode_iff text term _ length]
    refine ⟨front, part, back, split, same, ?_, rfl⟩
    rw [List.getElem?_map, List.getElem?_eq_getElem, Option.map_some]
    rw [List.length_map] at length
    rw [length, split, List.length_append, List.length_append]
    omega

end DocTable.Regex
