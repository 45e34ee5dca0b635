/-
**Paths through documents.**

A path leads to a value, and a longer path goes on from there. Of two paths either one goes on from
the other, or they lie apart, and then setting a value at one of them is not seen at the other.

* `segments_injective`: the segments tell the path;
* `Document.walk?_eq_lookup`: the two ways of going along a path lead to the same value;
* `Document.follow_append`: the rest of a path goes on from where its front leads;
* `Document.follow_setAt_self`: what is set is found again;
* `Document.follow_setAt_of_apart`: what lies apart from it has not changed;
* `Document.setAt_of_follow`: setting what is there already changes nothing.
-/

import DocTable.Table.Template

namespace DocTable

theorem segments_ne_nil (path : String) : segments path ≠ [] :=
  mt List.map_eq_nil_iff.mp (Text.splitOn_ne_nil '.' path.toList)

/-- **The segments** of a path determine it. -/
theorem segments_injective {path other : String} (same : segments path = segments other) :
    path = other := by
  have pieces : Text.splitOn '.' path.toList = Text.splitOn '.' other.toList :=
    (List.map_inj_right fun _ _ => String.ofList_injective).mp same
  rw [← String.toList_inj, ← Text.intercalate_splitOn '.' path.toList, pieces,
    Text.intercalate_splitOn]

/-! ### Going along a path -/

namespace Value

/-- Only documents have entries. -/
theorem eq_document_of_entries? {v : Value} {d : Document} (entries : v.entries? = some d) :
    v = .document d := by
  cases v with
  | document inner => exact congrArg Value.document (Option.some.inj entries)
  | _ => cases entries

/-- A path goes on from an entry of a value. -/
theorem at?_cons (v : Value) (key : String) (path : List String) :
    v.at? (key :: path) = (v.entry? key).bind (·.at? path) := by
  cases v <;> rfl

/-- Going through the entries one after the other is following the path. -/
theorem foldlM_entry? (v : Value) (path : List String) : path.foldlM Value.entry? v = v.at? path := by
  induction path generalizing v with
  | nil => cases v <;> rfl
  | cons key path ih =>
    rw [List.foldlM_cons, at?_cons]
    exact Option.bind_congr fun w _ => ih w

/-- The rest of a path goes on from where its front leads. -/
theorem at?_append (v : Value) (front rest : List String) :
    v.at? (front ++ rest) = (v.at? front).bind (·.at? rest) := by
  induction front generalizing v with
  | nil => cases v <;> rfl
  | cons key front ih =>
    rw [List.cons_append, at?_cons, at?_cons, Option.bind_assoc]
    exact Option.bind_congr fun w _ => ih w

end Value

namespace Document

/-- A path leads to an entry and goes on from its value. -/
theorem follow_cons (d : Document) (key : String) (path : List String) :
    d.follow (key :: path) = (d.get? key).bind (·.at? path) := by
  induction path generalizing d key with
  | nil =>
    show d.get? key = (d.get? key).bind (Value.at? · [])
    cases d.get? key with
    | none => rfl
    | some v => cases v <;> rfl
  | cons next path ih =>
    show ((d.get? key).bind Value.entries?).bind (follow · (next :: path)) = _
    rw [Option.bind_assoc]
    refine Option.bind_congr fun v _ => ?_
    rw [Value.at?_cons, Value.entry?, Option.bind_assoc]
    exact Option.bind_congr fun inner _ => ih inner next

/-- A document without entries has nothing at any path. -/
theorem follow_empty (path : List String) : follow [] path = none := by
  cases path with
  | nil => rfl
  | cons key path => exact follow_cons [] key path

/-- A path goes on from a value through the entries of that value. -/
theorem at?_eq_follow (v : Value) {path : List String} (nonempty : path ≠ []) :
    v.at? path = v.entries?.bind (·.follow path) := by
  obtain ⟨key, path, rfl⟩ := List.exists_cons_of_ne_nil nonempty
  rw [Value.at?_cons, Value.entry?, Option.bind_assoc]
  exact Option.bind_congr fun d _ => (follow_cons d key path).symm

/-- **Going along a path** entry by entry leads where the path does. -/
theorem walk?_eq_lookup (d : Document) (path : String) : d.walk? path = d.lookup path := by
  unfold walk? lookup
  rw [Value.foldlM_entry?, at?_eq_follow _ (segments_ne_nil path)]
  rfl

/-- The rest of a path goes on from where its front leads. -/
theorem follow_append (d : Document) {front : List String} (nonempty : front ≠ [])
    (rest : List String) : d.follow (front ++ rest) = (d.follow front).bind (·.at? rest) := by
  obtain ⟨key, front, rfl⟩ := List.exists_cons_of_ne_nil nonempty
  rw [List.cons_append, follow_cons, follow_cons, Option.bind_assoc]
  exact Option.bind_congr fun v _ => v.at?_append front rest

/-- There is something on the way to something. -/
theorem follow_isSome_of_front {d : Document} {front path : List String} (nonempty : front ≠ [])
    (isFront : front <+: path) (found : (d.follow path).isSome) : (d.follow front).isSome := by
  obtain ⟨rest, rfl⟩ := isFront
  rw [follow_append d nonempty] at found
  cases there : d.follow front with
  | none =>
    rw [there] at found
    cases found
  | some v => rfl

/-! ### Setting a value -/

/-- Setting a value below a key sets it in the document under that key. -/
theorem setAt_cons (d : Document) (key : String) {path : List String} (nonempty : path ≠ [])
    (value : Value) : d.setAt (key :: path) value =
      d.insert key (.document ((((d.get? key).bind Value.entries?).getD []).setAt path value)) := by
  obtain ⟨next, path, rfl⟩ := List.exists_cons_of_ne_nil nonempty
  rfl

/-- What is set under a key leaves the other keys as they are. -/
theorem get?_setAt_of_ne (d : Document) {key other : String} (distinct : key ≠ other)
    (path : List String) (value : Value) :
    (d.setAt (key :: path) value).get? other = d.get? other := by
  cases path with
  | nil => exact get?_insert_of_ne d value distinct
  | cons next path => exact get?_insert_of_ne d _ distinct

/-- **What is set** is found again. -/
theorem follow_setAt_self (d : Document) {path : List String} (nonempty : path ≠ [])
    (value : Value) : (d.setAt path value).follow path = some value := by
  induction path generalizing d with
  | nil => exact absurd rfl nonempty
  | cons key path ih =>
    by_cases last : path = []
    · rw [last]
      exact get?_insert_self d key value
    · rw [setAt_cons d key last, follow_cons, get?_insert_self]
      show (Value.document _).at? path = some value
      rw [at?_eq_follow _ last]
      exact ih _ last

/-- **What lies apart** from a path keeps its value when one is set there, even if that replaces a
value on the way that is no document. -/
theorem follow_setAt_of_apart (d : Document) {path other : List String} (value : Value)
    (notBehind : ¬path <+: other) (notBefore : ¬other <+: path) :
    (d.setAt path value).follow other = d.follow other := by
  induction path generalizing d other with
  | nil => exact absurd List.nil_prefix notBehind
  | cons key path ih =>
    cases other with
    | nil => exact absurd List.nil_prefix notBefore
    | cons first other =>
      by_cases same : key = first
      · subst same
        rw [List.cons_prefix_cons] at notBehind notBefore
        have behind : ¬path <+: other := fun isFront => notBehind ⟨rfl, isFront⟩
        have before : ¬other <+: path := fun isFront => notBefore ⟨rfl, isFront⟩
        have inside : path ≠ [] := fun none => behind (none ▸ List.nil_prefix)
        have below : other ≠ [] := fun none => before (none ▸ List.nil_prefix)
        rw [setAt_cons d key inside, follow_cons, follow_cons, get?_insert_self]
        show (Value.document _).at? other = _
        rw [at?_eq_follow _ below]
        refine (ih _ behind before).trans ?_
        cases d.get? key with
        | none => exact follow_empty other
        | some v =>
          show (v.entries?.getD []).follow other = v.at? other
          rw [at?_eq_follow v below]
          cases v.entries? with
          | none => exact follow_empty other
          | some inner => rfl
      · rw [follow_cons, follow_cons, get?_setAt_of_ne d same]

/-- Setting the value that a key has changes nothing. -/
theorem insert_of_get? {d : Document} {key : String} {value : Value}
    (found : d.get? key = some value) : d.insert key value = d := by
  induction d with
  | nil => cases found
  | cons entry rest ih =>
    obtain ⟨name, old⟩ := entry
    unfold get? at found
    unfold insert
    by_cases here : name = key
    · rw [if_pos here] at found
      rw [if_pos here, Option.some.inj found]
    · rw [if_neg here] at found
      rw [if_neg here, ih found]

/-- **Setting what is there** already changes nothing. -/
theorem setAt_of_follow {d : Document} {path : List String} {value : Value}
    (found : d.follow path = some value) : d.setAt path value = d := by
  induction path generalizing d with
  | nil => rfl
  | cons key path ih =>
    by_cases last : path = []
    · subst last
      exact insert_of_get? found
    · rw [follow_cons] at found
      obtain ⟨v, there, found⟩ := Option.bind_eq_some_iff.mp found
      rw [at?_eq_follow v last] at found
      obtain ⟨inner, entries, found⟩ := Option.bind_eq_some_iff.mp found
      rw [setAt_cons d key last, there, Option.bind_some, entries, Option.getD_some, ih found]
      rw [Value.eq_document_of_entries? entries] at there
      exact insert_of_get? there

end Document

end DocTable
