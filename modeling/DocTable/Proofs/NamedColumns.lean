/-
**Columns that a request names.**

The columns of a request are looked through in order, up to the first one without data. A name that is
given up to there is the name of the configured column at its place. Names behind that are not looked at,
so a request may give any name there.

* `checkColumnsFrom_ok_iff`: what looking through some columns establishes;
* `checkColumns_ok_iff`: the same for all columns of a request;
* `named_of_listed`: the names in a request that is decoded, and what they have a say in;
* `unlisted_name_accepted`: a name behind the columns that are looked at.
-/

import DocTable.Proofs.Decoding
import DocTable.Proofs.Numbered

namespace DocTable

open Web (Params)

/-- A request gives data for a column and for all columns in front of it. -/
def ListsColumn (p : Params) (index : Nat) : Prop :=
  ∀ i ≤ index, (p.get? (numberedKey "columns" i "data")).isSome

/-- The name that a request gives to a column, unless it is empty, is that of the configured column at
its place. -/
def NamesColumn (p : Params) (c : TableConfig) (index : Nat) : Prop :=
  ∀ name, p.get? (numberedKey "columns" index "name") = some name → name ≠ "" →
    ∃ column, c.columns[index]? = some column ∧ column.name = name

variable {p : Params} {c : TableConfig}

theorem checkColumn_ok_iff {index : Nat} :
    checkColumn c index (p.get? (numberedKey "columns" index "name")) = .ok () ↔
      NamesColumn p c index := by
  unfold checkColumn NamesColumn
  cases p.get? (numberedKey "columns" index "name") with
  | none => simp
  | some name => simp [or_iff_not_imp_left]

/-- **Some columns** from one on: each of them up to the first one without data has its name. -/
theorem checkColumnsFrom_ok_iff {fuel first : Nat} :
    checkColumnsFrom p c fuel first = .ok () ↔
      ∀ n < fuel, (∀ i ≤ n, (p.get? (numberedKey "columns" (first + i) "data")).isSome) →
        NamesColumn p c (first + n) := by
  induction fuel generalizing first with
  | zero => simp [checkColumnsFrom]
  | succ fuel ih =>
    have next (i : Nat) : first + 1 + i = first + (i + 1) := by omega
    unfold checkColumnsFrom
    split
    · next listed =>
      constructor
      · intro checked n below given
        obtain ⟨_, here, later⟩ := bind_eq_ok.mp checked
        cases n with
        | zero => exact checkColumn_ok_iff.mp here
        | succ n =>
          rw [← next]
          refine ih.mp later n (Nat.lt_of_succ_lt_succ below) fun i before => ?_
          rw [next]
          exact given (i + 1) (Nat.succ_le_succ before)
      · intro named
        refine bind_eq_ok.mpr ⟨(), checkColumn_ok_iff.mpr ?_, ih.mpr fun n below given => ?_⟩
        · refine named 0 (Nat.succ_pos fuel) fun i first => ?_
          rw [Nat.le_zero.mp first]
          exact listed
        · rw [next]
          refine named (n + 1) (Nat.succ_lt_succ below) fun i before => ?_
          cases i with
          | zero => exact listed
          | succ i => exact next i ▸ given i (Nat.le_of_succ_le_succ before)
    · next unlisted =>
      exact ⟨fun _ n _ given => absurd (given 0 (Nat.zero_le n)) unlisted, fun _ => rfl⟩

/-- **The columns of a request** pass if each one up to the first without data has its name. The counter
suffices, as there are at least as many parameters as columns with data. -/
theorem checkColumns_ok_iff :
    checkColumns p c = .ok () ↔ ∀ index, ListsColumn p index → NamesColumn p c index := by
  unfold checkColumns
  rw [checkColumnsFrom_ok_iff]
  simp only [Nat.zero_add]
  refine forall_congr' fun index => ⟨fun named listed => named ?_ listed, fun named _ => named⟩
  exact Nat.lt_succ_of_lt (le_length_of_numbered fun i below => listed i (Nat.le_of_lt_succ below))

/-- A request is decoded if its window, its columns and its order are. -/
theorem exists_decodeRequest_ok_iff :
    (∃ q, decodeRequest p c = .ok q) ↔
      (∃ offset, decodeStart (p.get? "start") = .ok offset) ∧
      (∃ limit, decodeLength (p.get? "length") c.maxRows = .ok limit) ∧
      checkColumns p c = .ok () ∧ ∃ sort, decodeOrder p c = .ok sort := by
  constructor
  · rintro ⟨q, decoded⟩
    obtain ⟨offset, limit, sort, start, length, columns, order, _⟩ := parts_of_decodeRequest decoded
    exact ⟨⟨offset, start⟩, ⟨limit, length⟩, columns, sort, order⟩
  · rintro ⟨⟨offset, start⟩, ⟨limit, length⟩, columns, sort, order⟩
    exact ⟨_, bind_eq_ok.mpr ⟨offset, start, bind_eq_ok.mpr ⟨limit, length,
      bind_eq_ok.mpr ⟨(), columns, bind_eq_ok.mpr ⟨sort, order, rfl⟩⟩⟩⟩⟩

/-- **Names of columns.** If a request is decoded, then every column up to the first one without data
that has a name, and not an empty one, is a configured column of this name at the same place. This is all
that names have a say in: a request whose window and order can be read is decoded exactly if the columns
up to the first one without data have their names. -/
theorem named_of_listed (p : Params) (c : TableConfig) :
    (∀ q, decodeRequest p c = .ok q → ∀ index,
      (∀ i ≤ index, (p.get? (numberedKey "columns" i "data")).isSome) →
      ∀ name, p.get? (numberedKey "columns" index "name") = some name → name ≠ "" →
        ∃ column, c.columns[index]? = some column ∧ column.name = name) ∧
    ((∃ offset, decodeStart (p.get? "start") = .ok offset) →
      (∃ limit, decodeLength (p.get? "length") c.maxRows = .ok limit) →
      (∃ sort, decodeOrder p c = .ok sort) →
      ((∃ q, decodeRequest p c = .ok q) ↔
        ∀ index, ListsColumn p index → NamesColumn p c index)) := by
  constructor
  · intro q decoded index listed
    obtain ⟨_, _, columns, _⟩ := exists_decodeRequest_ok_iff.mp ⟨q, decoded⟩
    exact checkColumns_ok_iff.mp columns index listed
  · intro start length order
    rw [exists_decodeRequest_ok_iff, checkColumns_ok_iff]
    exact ⟨fun decoded => decoded.2.2.1, fun named => ⟨start, length, named, order⟩⟩

/-- Two columns by their names, in a request that gives data for both of them. -/
theorem named_of_listed_accounts :
    let c : TableConfig :=
      { collection := "accounts", maxRows := 50
        columns := [⟨"name", none⟩, ⟨"status", none⟩], searchFields := [], row := []
        highlightSearch := false, filters := [], rawFilter := none, pipeline := []
        timeoutMillis := none }
    let p : Params :=
      ⟨[("columns[1][name]", "status"), ("columns[0][data]", ""), ("columns[1][data]", "1"),
        ("columns[0][name]", "")]⟩
    let q : Query := { (default : Query) with
      table := "accounts", fields := ["name", "status"], limit := 50 }
    decodeRequest p c = .ok q ∧ (∀ i ≤ 1, (p.get? (numberedKey "columns" i "data")).isSome) ∧
      p.get? (numberedKey "columns" 1 "name") = some "status" ∧ "status" ≠ "" ∧
      ∃ column, c.columns[1]? = some column ∧ column.name = "status" := by
  intro c p q
  have decoded : decodeRequest p c = .ok q := rfl
  have listed : ∀ i ≤ 1, (p.get? (numberedKey "columns" i "data")).isSome := by decide +kernel
  have named : p.get? (numberedKey "columns" 1 "name") = some "status" := rfl
  have nonempty : "status" ≠ "" := by decide
  have column := (named_of_listed p c).1 q decoded 1 listed "status" named nonempty
  exact ⟨decoded, listed, named, nonempty, column⟩

/-- **A name behind the columns with data** may be that of any field: no column has it, and the request
is decoded. -/
theorem unlisted_name_accepted :
    let c : TableConfig :=
      { collection := "accounts", maxRows := 50
        columns := [⟨"name", none⟩, ⟨"status", none⟩], searchFields := [], row := []
        highlightSearch := false, filters := [], rawFilter := none, pipeline := []
        timeoutMillis := none }
    let p : Params :=
      ⟨[("columns[0][data]", "0"), ("columns[0][name]", "name"), ("columns[1][name]", "password")]⟩
    c.validate = .ok () ∧ (∃ q, decodeRequest p c = .ok q) ∧
      p.get? (numberedKey "columns" 1 "name") = some "password" ∧ "password" ≠ "" ∧
      ¬∃ column, c.columns[1]? = some column ∧ column.name = "password" := by
  intro c p
  exact ⟨rfl, ⟨_, rfl⟩, rfl, by decide, by simp [c]⟩

end DocTable
