/-
**Removing paths from documents.**

A path removes a key, or it changes the document under a key by the rest of the path. Both are a change of
the value under one key. So what is behind a removed path is gone, all else stays where it is, and it does
not matter in which order several paths are removed, even where they overlap.

* `Document.alter`: changing or removing the value under a key;
* `Document.removeAt_cons`: removing a path is such a change;
* `isSome_follow_removeAt_iff`, `follow_removeAt_of_apart`, `removeAt_of_follow_eq_none`, `removeAt_comm`:
  one path;
* `isSome_follow_foldl_removeAt_iff`, `follow_foldl_removeAt_of_apart`, `foldl_removeAt_perm`: many paths.
-/

import DocTable.Proofs.Document
import DocTable.Proofs.Paths

namespace DocTable

namespace Document

/-! ### The value under a key -/

/-- Changes the value under a key, or removes the key where the change gives none. -/
def alter : Document → String → (Value → Option Value) → Document
  | [], _, _ => []
  | (name, v) :: rest, key, f =>
    if name = key then
      match f v with
      | some w => (name, w) :: rest
      | none => erase rest key
    else (name, v) :: alter rest key f

section Alter

variable (d : Document) (key : String) (f g : Value → Option Value)

/-- What is under a key after its value has been changed. -/
theorem get?_alter_self : (d.alter key f).get? key = (d.get? key).bind f := by
  induction d with
  | nil => rfl
  | cons entry rest ih =>
    obtain ⟨name, v⟩ := entry
    by_cases here : name = key
    · cases changed : f v with
      | none => simp [alter, get?, here, changed, get?_erase_self]
      | some w => simp [alter, get?, here, changed]
    · simpa [alter, get?, here] using ih

/-- The other keys are as before. -/
theorem get?_alter_of_ne {other : String} (distinct : key ≠ other) :
    (d.alter key f).get? other = d.get? other := by
  induction d with
  | nil => rfl
  | cons entry rest ih =>
    obtain ⟨name, v⟩ := entry
    by_cases here : name = key
    · subst here
      cases changed : f v with
      | none => simp [alter, get?, changed, distinct, get?_erase_of_ne rest distinct]
      | some w => simp [alter, get?, changed, distinct]
    · simp [alter, get?, here, ih]

/-- Only the value that is there counts. -/
theorem alter_congr {f g : Value → Option Value} (same : ∀ v, d.get? key = some v → f v = g v) :
    d.alter key f = d.alter key g := by
  induction d with
  | nil => rfl
  | cons entry rest ih =>
    obtain ⟨name, v⟩ := entry
    by_cases here : name = key
    · have first : f v = g v := same v (by simp [get?, here])
      simp [alter, here, first]
    · have later := ih fun w found => same w (by simpa [get?, here] using found)
      simp [alter, here, later]

/-- A change that keeps the value changes nothing. -/
theorem alter_some : d.alter key some = d := by
  induction d with
  | nil => rfl
  | cons entry rest ih =>
    obtain ⟨name, v⟩ := entry
    by_cases here : name = key
    · simp [alter, here]
    · simp [alter, here, ih]

/-- A key that is not there is not changed. -/
theorem alter_erase_self : (d.erase key).alter key f = d.erase key := by
  have absent := alter_congr (d.erase key) key (f := f) (g := some) fun v found => by
    rw [get?_erase_self] at found
    cases found
  rw [absent, alter_some]

theorem erase_eq_alter : d.erase key = d.alter key fun _ => none := by
  induction d with
  | nil => rfl
  | cons entry rest ih =>
    obtain ⟨name, v⟩ := entry
    by_cases here : name = key
    · simp [alter, erase, here]
    · simpa [alter, erase, here] using ih

/-- Setting a key that is there changes its value. -/
theorem insert_eq_alter {old : Value} (found : d.get? key = some old) (value : Value) :
    d.insert key value = d.alter key fun _ => some value := by
  induction d with
  | nil => cases found
  | cons entry rest ih =>
    obtain ⟨name, v⟩ := entry
    by_cases here : name = key
    · simp [insert, alter, here]
    · simp [insert, alter, here, ih (by simpa [get?, here] using found)]

/-- Two changes under one key are one change. -/
theorem alter_alter : (d.alter key f).alter key g = d.alter key fun v => (f v).bind g := by
  induction d with
  | nil => rfl
  | cons entry rest ih =>
    obtain ⟨name, v⟩ := entry
    by_cases here : name = key
    · cases changed : f v with
      | none => simp [alter, here, changed, alter_erase_self]
      | some w => simp [alter, here, changed]
    · simp [alter, here, ih]

/-- **Changes under two keys** may be made in any order. -/
theorem alter_comm {other : String} (distinct : key ≠ other) :
    (d.alter key f).alter other g = (d.alter other g).alter key f := by
  induction d generalizing f g with
  | nil => rfl
  | cons entry rest ih =>
    obtain ⟨name, v⟩ := entry
    by_cases here : name = key
    · subst here
      cases changed : f v with
      | none =>
        have later := ih (fun _ => none) g
        rw [← erase_eq_alter, ← erase_eq_alter] at later
        simp [alter, changed, distinct, later]
      | some w => simp [alter, changed, distinct]
    · by_cases there : name = other
      · subst there
        cases changed : g v with
        | none =>
          have later := ih f fun _ => none
          rw [← erase_eq_alter, ← erase_eq_alter] at later
          simp [alter, changed, here, later]
        | some w => simp [alter, changed, here]
      · simp [alter, here, there, ih]

end Alter

end Document

/-! ### One path -/

namespace Value

/-- What removing a path leaves of the value that it starts from: nothing if the path ends here. -/
def without? : List String → Value → Option Value
  | [], _ => none
  | path, .document d => some (.document (Document.removeAt d path))
  | _, v => some v

/-- A value that is no document is left as it is. -/
theorem without?_of_no_entries {v : Value} (none : v.entries? = none) (key : String)
    (path : List String) : v.without? (key :: path) = some v := by
  cases v with
  | document d => cases none
  | _ => rfl

theorem isSome_without? (v : Value) {path : List String} (nonempty : path ≠ []) :
    (v.without? path).isSome := by
  obtain ⟨key, path, rfl⟩ := List.exists_cons_of_ne_nil nonempty
  cases v <;> rfl

/-- What is left of a value is seen through what is left of its entries. -/
theorem bind_at?_without? (v : Value) {path other : List String} (nonempty : path ≠ [])
    (inside : other ≠ []) :
    (v.without? path).bind (·.at? other) =
      v.entries?.bind fun d => (Document.removeAt d path).follow other := by
  obtain ⟨key, path, rfl⟩ := List.exists_cons_of_ne_nil nonempty
  cases entries : v.entries? with
  | none =>
    rw [without?_of_no_entries entries, Option.bind_some, Document.at?_eq_follow v inside, entries]
    rfl
  | some d =>
    rw [eq_document_of_entries? entries]
    exact Document.at?_eq_follow _ inside

end Value

namespace Document

/-- **Removing a path** changes the value under its first key. -/
theorem removeAt_cons (d : Document) (key : String) (path : List String) :
    d.removeAt (key :: path) = d.alter key (Value.without? path) := by
  cases path with
  | nil => exact erase_eq_alter d key
  | cons next path =>
    cases found : (d.get? key).bind Value.entries? with
    | none =>
      have same : d.removeAt (key :: next :: path) = d := by simp only [removeAt, found]
      rw [same]
      refine (alter_some d key).symm.trans (alter_congr d key fun v there => ?_)
      rw [there] at found
      exact (Value.without?_of_no_entries found next path).symm
    | some inner =>
      have inside : d.removeAt (key :: next :: path) =
          d.insert key (.document (inner.removeAt (next :: path))) := by simp only [removeAt, found]
      rw [inside]
      obtain ⟨v, there, entries⟩ := Option.bind_eq_some_iff.mp found
      rw [Value.eq_document_of_entries? entries] at there
      refine (insert_eq_alter d key there _).trans (alter_congr d key fun w other => ?_)
      rw [there] at other
      cases other
      rfl

/-- **On the way** to a removed path stands what the rest of the path leaves there. -/
theorem follow_removeAt_append (d : Document) {front : List String} (nonempty : front ≠ [])
    (rest : List String) :
    (d.removeAt (front ++ rest)).follow front = (d.follow front).bind (Value.without? rest) := by
  induction front generalizing d with
  | nil => exact absurd rfl nonempty
  | cons key front ih =>
    rw [List.cons_append, removeAt_cons, follow_cons, follow_cons, get?_alter_self,
      Option.bind_assoc, Option.bind_assoc]
    refine Option.bind_congr fun v _ => ?_
    by_cases last : front = []
    · subst last
      have whole : ∀ w : Value, w.at? [] = some w := fun w => by cases w <;> rfl
      simp [whole]
    · have longer : front ++ rest ≠ [] := List.append_ne_nil_of_left_ne_nil last rest
      rw [Value.bind_at?_without? v longer last, at?_eq_follow v last, Option.bind_assoc]
      exact Option.bind_congr fun inner _ => ih inner last

/-- **Behind a removed path** there is nothing. -/
theorem follow_removeAt_of_front (d : Document) {path other : List String} (nonempty : path ≠ [])
    (isFront : path <+: other) : (d.removeAt path).follow other = none := by
  have gone : (d.removeAt path).follow path = none := by
    have left := follow_removeAt_append d nonempty []
    rw [List.append_nil] at left
    rw [left]
    cases d.follow path with
    | none => rfl
    | some v => rfl
  obtain ⟨rest, rfl⟩ := isFront
  rw [follow_append _ nonempty, gone]
  rfl

/-- **What lies apart** from a removed path stays as it is. -/
theorem follow_removeAt_of_apart (d : Document) {path other : List String}
    (notBehind : ¬path <+: other) (notBefore : ¬other <+: path) :
    (d.removeAt path).follow other = d.follow other := by
  induction path generalizing d other with
  | nil => exact absurd List.nil_prefix notBehind
  | cons key path ih =>
    cases other with
    | nil => exact absurd List.nil_prefix notBefore
    | cons first other =>
      rw [removeAt_cons, follow_cons, follow_cons]
      by_cases same : key = first
      · subst same
        rw [List.cons_prefix_cons] at notBehind notBefore
        have behind : ¬path <+: other := fun isFront => notBehind ⟨rfl, isFront⟩
        have before : ¬other <+: path := fun isFront => notBefore ⟨rfl, isFront⟩
        have inside : path ≠ [] := fun none => behind (none ▸ List.nil_prefix)
        have below : other ≠ [] := fun none => before (none ▸ List.nil_prefix)
        rw [get?_alter_self, Option.bind_assoc]
        refine Option.bind_congr fun v _ => ?_
        rw [Value.bind_at?_without? v inside below, at?_eq_follow v below]
        exact Option.bind_congr fun inner _ => ih inner behind before
      · rw [get?_alter_of_ne d key _ same]

/-- **What is there** once a path has been removed: all that was there and is not behind the path. -/
theorem isSome_follow_removeAt_iff (d : Document) {path : List String} (nonempty : path ≠ [])
    (other : List String) :
    ((d.removeAt path).follow other).isSome ↔ (d.follow other).isSome ∧ ¬path <+: other := by
  by_cases behind : path <+: other
  · simp [follow_removeAt_of_front d nonempty behind, behind]
  · by_cases before : other <+: path
    · obtain ⟨rest, rfl⟩ := before
      cases other with
      | nil => simp [follow]
      | cons key other =>
        have some_rest : rest ≠ [] := by
          rintro rfl
          exact behind (by simp)
        rw [follow_removeAt_append d (List.cons_ne_nil key other)]
        cases d.follow (key :: other) with
        | none => simp
        | some v => exact iff_of_true (v.isSome_without? some_rest) ⟨rfl, behind⟩
    · simp [follow_removeAt_of_apart d behind before, behind]

/-- **Removing what is not there** changes nothing. -/
theorem removeAt_of_follow_eq_none {d : Document} {path : List String}
    (missing : d.follow path = none) : d.removeAt path = d := by
  induction path generalizing d with
  | nil => rfl
  | cons key path ih =>
    rw [follow_cons] at missing
    refine (removeAt_cons d key path).trans ((alter_congr d key fun v there => ?_).trans
      (alter_some d key))
    rw [there, Option.bind_some] at missing
    cases path with
    | nil => cases v <;> cases missing
    | cons next path =>
      cases entries : v.entries? with
      | none => exact Value.without?_of_no_entries entries next path
      | some inner =>
        rw [at?_eq_follow v (List.cons_ne_nil next path), entries] at missing
        rw [Value.eq_document_of_entries? entries]
        exact congrArg (fun left => some (Value.document left)) (ih missing)

/-- **Two paths** may be removed in any order. -/
theorem removeAt_comm (d : Document) (path other : List String) :
    (d.removeAt path).removeAt other = (d.removeAt other).removeAt path := by
  induction path generalizing d other with
  | nil => rfl
  | cons key path ih =>
    cases other with
    | nil => rfl
    | cons first other =>
      rw [removeAt_cons, removeAt_cons, removeAt_cons, removeAt_cons]
      by_cases same : key = first
      · subst same
        rw [alter_alter, alter_alter]
        refine alter_congr d key fun v _ => ?_
        cases path with
        | nil => cases v.without? other <;> rfl
        | cons next path =>
          cases other with
          | nil => cases v.without? (next :: path) <;> rfl
          | cons later other =>
            cases v with
            | document inner =>
              exact congrArg (fun left => some (Value.document left)) (ih inner (later :: other))
            | _ => rfl
      · exact alter_comm d key _ _ same

/-! ### Many paths -/

/-- **What is there** once many paths have been removed. -/
theorem isSome_follow_foldl_removeAt_iff (d : Document) {paths : List (List String)}
    (nonempty : ∀ path ∈ paths, path ≠ []) (other : List String) :
    ((paths.foldl removeAt d).follow other).isSome ↔
      (d.follow other).isSome ∧ ∀ path ∈ paths, ¬path <+: other := by
  induction paths generalizing d with
  | nil => simp
  | cons path paths ih =>
    obtain ⟨first, later⟩ := List.forall_mem_cons.mp nonempty
    rw [List.foldl_cons, ih _ later, isSome_follow_removeAt_iff d first, List.forall_mem_cons,
      and_assoc]

/-- **What lies apart** from all of them stays as it is. -/
theorem follow_foldl_removeAt_of_apart (d : Document) {paths : List (List String)}
    {other : List String} (apart : ∀ path ∈ paths, ¬path <+: other ∧ ¬other <+: path) :
    (paths.foldl removeAt d).follow other = d.follow other := by
  induction paths generalizing d with
  | nil => rfl
  | cons path paths ih =>
    obtain ⟨first, later⟩ := List.forall_mem_cons.mp apart
    rw [List.foldl_cons, ih _ later, follow_removeAt_of_apart d first.1 first.2]

/-- Removing many paths that are not there changes nothing. -/
theorem foldl_removeAt_of_follow_eq_none {d : Document} {paths : List (List String)}
    (missing : ∀ path ∈ paths, d.follow path = none) : paths.foldl removeAt d = d := by
  induction paths with
  | nil => rfl
  | cons path paths ih =>
    obtain ⟨first, later⟩ := List.forall_mem_cons.mp missing
    rw [List.foldl_cons, removeAt_of_follow_eq_none first, ih later]

/-- A key is removed once, however often it is named. -/
theorem foldl_removeAt_key (d : Document) {key : String} {paths : List (List String)}
    (some_path : paths ≠ []) (same : ∀ path ∈ paths, path = [key]) :
    paths.foldl removeAt d = d.erase key := by
  obtain ⟨first, rest, rfl⟩ := List.exists_cons_of_ne_nil some_path
  obtain ⟨rfl, later⟩ := List.forall_mem_cons.mp same
  show rest.foldl removeAt (d.erase key) = d.erase key
  apply foldl_removeAt_of_follow_eq_none
  intro path member
  rw [later path member]
  exact d.get?_erase_self key

/-- **Any order** of the same paths removes the same. -/
theorem foldl_removeAt_perm (d : Document) {paths others : List (List String)}
    (same : paths.Perm others) : paths.foldl removeAt d = others.foldl removeAt d :=
  same.foldl_eq' (fun path _ other _ left => removeAt_comm left path other) d

end Document

end DocTable
