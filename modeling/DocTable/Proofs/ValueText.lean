/-
**Values and their texts.**

The tree of a value is one that texts are made of. Equal values have the same tree only if they are the
same value: equality looks through the order of keys and the sign of a zero, and the tree shows both.

* `written_toJson`: the trees of values;
* `Value.Distinct`: values in whose documents no key is repeated;
* `Double.eq_of_equal`: equal numbers with the same tree;
* `Value.eq_of_same`: equal values with the same tree.
-/

import DocTable.Proofs.Document
import DocTable.Proofs.JsonText
import DocTable.Proofs.WholeNumbers
import DocTable.Value.Json

namespace DocTable

open Json

/-! ### Numbers -/

theorem isNumeral_of_isDigit {c : Char} (digit : c.isDigit = true) : isNumeral c = true := by
  unfold isNumeral
  rw [digit]
  rfl

theorem isDigit_of_mem_toString {n : Nat} {c : Char} (member : c ∈ (toString n).toList) :
    c.isDigit = true := by
  rw [toList_toString_nat] at member
  exact isDigit_of_mem_toDigits member

theorem written_nat (n : Nat) : Written (.nat n) :=
  .number _ Nat.repr_ne_empty fun _ member => isNumeral_of_isDigit (isDigit_of_mem_toString member)

theorem written_int (n : Int) : Written (.int n) := by
  have letters := toList_toString_int n
  refine .number _ (fun empty => ?_) fun c member => ?_
  · rw [empty] at letters
    exact Nat.toDigits_ne_nil (List.append_eq_nil_iff.mp letters.symm).2
  · rw [letters] at member
    rcases List.mem_append.mp member with sign | digit
    · split at sign
      · exact List.mem_singleton.mp sign ▸ rfl
      · cases sign
    · exact isNumeral_of_isDigit (isDigit_of_mem_toDigits digit)

namespace Double

/-- What is found first, or taken if nothing is, is one of the things that may be found. -/
theorem of_getD_findSome? {α β : Type} {P : β → Prop} {f : α → Option β} {items : List α} {other : β}
    (found : ∀ item result, f item = some result → P result) (missing : P other) :
    P ((items.findSome? f).getD other) := by
  cases first : items.findSome? f with
  | none => exact missing
  | some result =>
    obtain ⟨item, _, here⟩ := List.exists_of_findSome?_eq_some first
    exact found item result here

/-- The digits of a number are digits. -/
theorem isDigit_of_mem_shortest (tie : Tie) (x : Double) :
    ∀ c ∈ (x.shortest tie).digits, c.isDigit = true := by
  unfold shortest
  refine of_getD_findSome? (P := fun d : Digits => ∀ c ∈ d.digits, c.isDigit = true)
    (fun count d found c member => ?_) (List.all_eq_true.mp (by decide))
  obtain ⟨n, _, rfl⟩ := Option.map_eq_some_iff.mp found
  have inside := (List.dropWhile_sublist _).subset (List.mem_reverse.mp member)
  exact isDigit_of_mem_toString (List.mem_reverse.mp inside)

/-- The digits with their point are characters of numbers. -/
theorem isNumeral_of_mem_positional {d : Digits} (digits : ∀ c ∈ d.digits, c.isDigit = true)
    {pointZero : Bool} {c : Char} (member : c ∈ d.positional pointZero) : isNumeral c = true := by
  have zeros {count : Nat} (zero : c ∈ List.replicate count '0') : isNumeral c = true := by
    rw [List.eq_of_mem_replicate zero]
    rfl
  have digit (found : c ∈ d.digits) : isNumeral c = true := isNumeral_of_isDigit (digits c found)
  unfold Digits.positional at member
  dsimp only at member
  split at member
  · simp only [List.cons_append, List.mem_cons, List.mem_append] at member
    rcases member with rfl | rfl | zero | found
    · rfl
    · rfl
    · exact zeros zero
    · exact digit found
  split at member
  · simp only [List.mem_append, List.mem_cons] at member
    rcases member with found | rfl | found
    · exact digit (List.mem_of_mem_take found)
    · rfl
    · exact digit (List.mem_of_mem_drop found)
  · rw [List.mem_append, List.mem_append] at member
    rcases member with (found | zero) | last
    · exact digit found
    · exact zeros zero
    · cases pointZero with
      | true => exact List.all_eq_true.mp (by decide : ['.', '0'].all isNumeral = true) c last
      | false => cases last

theorem positional_ne_nil (d : Digits) : d.positional true ≠ [] := by
  unfold Digits.positional
  dsimp only
  split
  · exact List.cons_ne_nil _ _
  split
  · exact List.append_ne_nil_of_right_ne_nil _ (List.cons_ne_nil _ _)
  · exact List.append_ne_nil_of_right_ne_nil _ (List.cons_ne_nil _ _)

theorem isNumeral_of_mem_scientific {d : Digits} (digits : ∀ c ∈ d.digits, c.isDigit = true)
    {c : Char} (member : c ∈ d.scientific) : isNumeral c = true := by
  have digit (found : c ∈ d.digits) : isNumeral c = true := isNumeral_of_isDigit (digits c found)
  unfold Digits.scientific at member
  simp only [List.mem_append, List.mem_cons] at member
  rcases member with (first | tail) | rfl | sign | power
  · exact digit (List.mem_of_mem_take first)
  · split at tail
    · cases tail
    · rcases List.mem_cons.mp tail with rfl | found
      · rfl
      · exact digit (List.mem_of_mem_drop found)
  · rfl
  · split at sign
    · exact sign ▸ rfl
    · exact sign ▸ rfl
  · exact isNumeral_of_isDigit (isDigit_of_mem_toString power)

/-- The text of a finite number: its sign and its digits. -/
theorem render_json_toList {x : Double} (finite : x.isFinite = true) :
    ∃ body ≠ [], (∀ c ∈ body, isNumeral c = true) ∧
      (x.render .json).toList = (if x.isNegative then ['-'] else []) ++ body := by
  have magnitude := of_decide_eq_true finite
  have nan : x.isNaN = false := decide_eq_false (by omega)
  have infinite : x.isInfinite = false := beq_false_of_ne (by omega)
  have digits := isDigit_of_mem_shortest .toEven x
  let d := x.shortest .toEven
  refine ⟨if x.magnitude = 0 then ['0', '.', '0']
    else if DecimalStyle.json.positional d.point then d.positional true else d.scientific,
    ?_, fun c member => ?_, ?_⟩
  · split
    · exact List.cons_ne_nil _ _
    split
    · exact positional_ne_nil d
    · exact List.append_ne_nil_of_right_ne_nil _ (List.cons_ne_nil _ _)
  · split at member
    · exact List.all_eq_true.mp (by decide : ['0', '.', '0'].all isNumeral = true) c member
    split at member
    · exact isNumeral_of_mem_positional digits member
    · exact isNumeral_of_mem_scientific digits member
  · unfold render
    rw [nan, infinite]
    exact String.toList_ofList

/-- **The tree of a number** is one that texts are made of. -/
theorem written_toJson (x : Double) : Written x.toJson := by
  unfold toJson
  split
  · next finite =>
    obtain ⟨body, some_char, numeral, letters⟩ := render_json_toList finite
    refine .number _ (fun empty => ?_) fun c member => ?_
    · rw [empty] at letters
      exact some_char (List.append_eq_nil_iff.mp letters.symm).2
    · rw [letters] at member
      rcases List.mem_append.mp member with sign | inside
      · split at sign
        · exact List.mem_singleton.mp sign ▸ rfl
        · cases sign
      · exact numeral c inside
  · exact .null

/-- The tree of a zero shows its sign. -/
theorem toJson_zero {x : Double} (zero : x.magnitude = 0) :
    x.toJson = .number (if x.isNegative then "-0.0" else "0.0") := by
  have finite : x.isFinite = true := decide_eq_true (by rw [zero]; decide)
  have nan : x.isNaN = false := decide_eq_false (by rw [zero]; decide)
  have infinite : x.isInfinite = false := beq_false_of_ne (by rw [zero]; decide)
  unfold toJson render
  rw [finite, nan, infinite, zero]
  cases x.isNegative <;> rfl

/-- A number is its sign and its magnitude. -/
theorem eq_of_parts {x y : Double} (sign : x.isNegative = y.isNegative)
    (magnitude : x.magnitude = y.magnitude) : x = y := by
  have bits (x : Double) : x.bits.toNat = (if x.isNegative then 2 ^ 63 else 0) + x.magnitude := by
    have bound := x.bits.toNat_lt
    unfold Double.isNegative Double.magnitude
    by_cases negative : 2 ^ 63 ≤ x.bits.toNat
    · rw [decide_eq_true negative, if_pos rfl]
      omega
    · rw [decide_eq_false negative, if_neg Bool.false_ne_true]
      omega
  have same : x.bits = y.bits := UInt64.toNat_inj.mp (by rw [bits, bits, sign, magnitude])
  cases x
  cases y
  exact congrArg Double.mk same

/-- **Equal numbers with the same tree** are the same number: the only numbers that are equal and not
the same are the two zeros. -/
theorem eq_of_equal {x y : Double} (equal : x.equal y = true) (tree : x.toJson = y.toJson) :
    x = y := by
  have ranks : x.rank = y.rank := by
    unfold Double.equal at equal
    simp only [Bool.and_eq_true, beq_iff_eq] at equal
    exact equal.2
  unfold Double.rank at ranks
  by_cases zero : x.magnitude = 0
  · have other : y.magnitude = 0 := by
      rw [zero] at ranks
      split at ranks <;> split at ranks <;> omega
    rw [toJson_zero zero, toJson_zero other] at tree
    have signs : ∀ a b : Bool, (if a then "-0.0" else "0.0") = (if b then "-0.0" else "0.0") → a = b := by
      decide
    exact eq_of_parts (signs _ _ (Json.number.inj tree)) (zero.trans other.symm)
  · cases sign : x.isNegative <;> cases against : y.isNegative <;>
      simp only [sign, against, Bool.false_eq_true, if_false, if_true] at ranks
    · exact eq_of_parts (sign.trans against.symm) (by omega)
    · omega
    · omega
    · exact eq_of_parts (sign.trans against.symm) (by omega)

end Double

/-! ### Values -/

theorem written_single {key : String} {j : Json} (written : Written j) : Written (.single key j) :=
  .object _ (List.forall_mem_singleton.mpr written)

theorem written_pair {key other : String} {j k : Json} (first : Written j) (second : Written k) :
    Written (.object [(key, j), (other, k)]) :=
  .object _ (List.forall_mem_cons.mpr ⟨first, List.forall_mem_singleton.mpr second⟩)

theorem written_bytes (bytes : List UInt8) : Written (.array (bytes.map fun b => .nat b.toNat)) := by
  refine .array _ fun item member => ?_
  obtain ⟨byte, _, rfl⟩ := List.mem_map.mp member
  exact written_nat byte.toNat

theorem written_ofBinary (subtype : UInt8) (bytes : List UInt8) :
    Written (.ofBinary subtype bytes) := by
  unfold Json.ofBinary
  split
  · exact written_bytes bytes
  · exact written_single (written_pair (.string _) (.string _))

namespace Value

mutual

/-- **The tree of a value** is one that texts are made of. -/
theorem written_toJson : (v : Value) → Written v.toJson
  | .null => .null
  | .bool b => .bool b
  | .int32 n => written_int n.toInt
  | .int64 n => written_int n.toInt
  | .double x => x.written_toJson
  | .string s => .string s
  | .array items => .array _ (written_itemsToJson items)
  | .document entries => .object _ (written_entriesToJson entries)
  | .dateTime _ => written_single (written_single (.string _))
  | .objectId _ => written_single (.string _)
  | .undefined => written_single (.bool true)
  | .minKey => written_single (written_nat 1)
  | .maxKey => written_single (written_nat 1)
  | .timestamp time increment =>
    written_single (written_pair (written_nat time.toNat) (written_nat increment.toNat))
  | .regex pattern options => written_single (written_pair (.string pattern) (.string options))
  | .symbol s => written_single (.string s)
  | .code s => written_single (.string s)
  | .codeWithScope s scope => written_pair (.string s) (.object _ (written_entriesToJson scope))
  | .binary subtype bytes => written_ofBinary subtype bytes
  | .decimal128 n => written_single (written_bytes n.bytes.toList)
  | .dbPointer collection _ =>
    written_single (written_pair (.string collection) (written_single (.string _)))
termination_by structural v => v

theorem written_itemsToJson : (items : List Value) → ∀ item ∈ itemsToJson items, Written item
  | [] => nofun
  | v :: rest => List.forall_mem_cons.mpr ⟨v.written_toJson, written_itemsToJson rest⟩
termination_by structural items => items

theorem written_entriesToJson :
    (entries : List (String × Value)) → ∀ member ∈ entriesToJson entries, Written member.2
  | [] => nofun
  | (_, v) :: rest => List.forall_mem_cons.mpr ⟨v.written_toJson, written_entriesToJson rest⟩
termination_by structural entries => entries

end

/-- Whether a value holds no others. -/
def isScalar : Value → Bool
  | .array _ => false
  | .document _ => false
  | .codeWithScope _ _ => false
  | _ => true

/-- Values in whose documents, however deep they are, no key is repeated. -/
inductive Distinct : Value → Prop where
  | scalar (v : Value) (plain : v.isScalar = true) : Distinct v
  | array (items : List Value) (each : ∀ item ∈ items, Distinct item) : Distinct (.array items)
  | document (entries : List (String × Value)) (keys : (entries.map Prod.fst).Nodup)
      (each : ∀ entry ∈ entries, Distinct entry.2) : Distinct (.document entries)
  | codeWithScope (s : String) (scope : List (String × Value)) (keys : (scope.map Prod.fst).Nodup)
      (each : ∀ entry ∈ scope, Distinct entry.2) : Distinct (.codeWithScope s scope)

/-- Equal values that hold no others are the same if they have the same tree. -/
theorem eq_of_same_scalar {v w : Value} (plain : v.isScalar = true) (same : v.same w = true)
    (tree : v.toJson = w.toJson) : v = w := by
  unfold Value.same at same
  split at same
  case h_5 x y => rw [Double.eq_of_equal same tree]
  case h_7 => cases plain
  case h_8 => cases plain
  case h_18 => cases plain
  case h_22 => cases same
  all_goals simp_all

/-- Equal items with the same trees are the same. -/
theorem eq_of_sameItems {items others : List Value}
    (each : ∀ v ∈ items, ∀ w ∈ others, v.same w = true → v.toJson = w.toJson → v = w)
    (same : sameItems items others = true) (trees : itemsToJson items = itemsToJson others) :
    items = others := by
  induction items generalizing others with
  | nil =>
    cases others with
    | nil => rfl
    | cons _ _ => cases trees
  | cons v rest ih =>
    cases others with
    | nil => cases trees
    | cons w later =>
      obtain ⟨first, tail⟩ := Bool.and_eq_true_iff.mp same
      obtain ⟨tree, more⟩ := List.cons.inj trees
      rw [each v List.mem_cons_self w List.mem_cons_self first tree,
        ih (fun a member b inside => each a (List.mem_cons_of_mem v member) b
          (List.mem_cons_of_mem w inside)) tail more]

/-- Entries with the same trees are the same, if those that a document has equals of are the same. -/
theorem eq_of_entriesToJson {entries others : List (String × Value)}
    (each : ∀ key v w, (key, v) ∈ entries → (key, w) ∈ others → v.toJson = w.toJson → v = w)
    (trees : entriesToJson entries = entriesToJson others) : entries = others := by
  induction entries generalizing others with
  | nil =>
    cases others with
    | nil => rfl
    | cons _ _ => cases trees
  | cons entry rest ih =>
    cases others with
    | nil => cases trees
    | cons other later =>
      obtain ⟨key, v⟩ := entry
      obtain ⟨name, w⟩ := other
      obtain ⟨first, more⟩ := List.cons.inj trees
      obtain ⟨rfl, tree⟩ := Prod.mk.inj first
      rw [each key v w List.mem_cons_self List.mem_cons_self tree,
        ih (fun name a b member inside => each name a b (List.mem_cons_of_mem _ member)
          (List.mem_cons_of_mem _ inside)) more]

/-- An entry of a document has its equal in an equal one. -/
theorem exists_of_sameEntries {entries : List (String × Value)} {d : Document}
    (same : sameEntries entries d = true) {key : String} {v : Value} (member : (key, v) ∈ entries) :
    ∃ w, d.get? key = some w ∧ v.same w = true := by
  induction entries with
  | nil => cases member
  | cons entry rest ih =>
    obtain ⟨name, old⟩ := entry
    obtain ⟨first, tail⟩ := Bool.and_eq_true_iff.mp same
    rcases List.mem_cons.mp member with here | later
    · cases here
      cases found : d.get? key with
      | none =>
        rw [found] at first
        cases first
      | some w =>
        rw [found] at first
        exact ⟨w, rfl, first⟩
    · exact ih tail later

/-- Equal documents with the same trees are the same, if their entries are that have equals. -/
theorem eq_of_sameEntries {entries others : List (String × Value)}
    (keys : (others.map Prod.fst).Nodup)
    (each : ∀ entry ∈ entries, ∀ other ∈ others, entry.2.same other.2 = true →
      entry.2.toJson = other.2.toJson → entry.2 = other.2)
    (same : sameEntries entries others = true)
    (trees : entriesToJson entries = entriesToJson others) : entries = others := by
  refine eq_of_entriesToJson (fun key v w member inside tree => ?_) trees
  obtain ⟨found, read, alike⟩ := exists_of_sameEntries same member
  rw [Document.get?_of_mem keys inside] at read
  cases read
  exact each (key, v) member (key, w) inside alike tree

/-- **Equal values with the same tree** are the same. -/
theorem eq_of_same {v w : Value} (first : v.Distinct) (second : w.Distinct)
    (same : v.same w = true) (tree : v.toJson = w.toJson) : v = w := by
  induction first generalizing w with
  | scalar v plain => exact eq_of_same_scalar plain same tree
  | array items each ih =>
    cases second with
    | scalar w plain => cases w <;> first | cases same | cases plain
    | document others keys every => cases same
    | codeWithScope t others keys every => cases same
    | array others every =>
      exact congrArg Value.array (eq_of_sameItems
        (fun a member b inside => ih a member (every b inside)) same (Json.array.inj tree))
  | document entries keys each ih =>
    cases second with
    | scalar w plain => cases w <;> first | cases same | cases plain
    | array others every => cases same
    | codeWithScope t others keys every => cases same
    | document others keys every =>
      obtain ⟨_, covered⟩ := Bool.and_eq_true_iff.mp same
      exact congrArg Value.document (eq_of_sameEntries keys
        (fun entry member other inside => ih entry member (every other inside)) covered
        (Json.object.inj tree))
  | codeWithScope s scope keys each ih =>
    cases second with
    | scalar w plain => cases w <;> first | cases same | cases plain
    | array others every => cases same
    | document others keys every => cases same
    | codeWithScope t others keys every =>
      obtain ⟨code, scopes⟩ := Bool.and_eq_true_iff.mp same
      obtain ⟨_, covered⟩ := Bool.and_eq_true_iff.mp scopes
      obtain ⟨_, last, _⟩ := List.cons.inj (Json.object.inj tree) |>.imp_right List.cons.inj
      rw [eq_of_beq code, eq_of_sameEntries keys
        (fun entry member other inside => ih entry member (every other inside)) covered
        (Json.object.inj (Prod.mk.inj last).2)]

end Value

end DocTable
