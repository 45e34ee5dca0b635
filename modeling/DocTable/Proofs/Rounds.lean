/-
**Loops without a bound.**

The columns and the order entries of a request are looked through in loops over all numbers. A round goes
on to the next number only where the request has a parameter with its own number in the name. Different
numbers make different names, so each loop ends, and it takes at most one round more than there are names.
The two loops look at different names, so together they do not go on more often than there are names.

* `Round.Runs`, `Round.Runs.unique`: the rounds of a loop and its outcome;
* `Round.exists_runs`: a loop that does not go on at some number has a run, and to leave it behind that
  number makes no difference;
* `checkColumnsFrom_eq_upTo`, `decodeOrderFrom_eq_upTo`: the two loops, left after some rounds;
* `rounds_of_decoding`: how many rounds they take.
-/

import DocTable.Proofs.Numbered

namespace DocTable

open Web (Params)

/-! ### Loops over all numbers -/

/-- What a loop does at a number with its state: it ends, with a state or a fault, or it goes on to the
next number. -/
def Round (ε σ : Type) : Type := Nat → σ → Except ε (ForInStep σ)

namespace Round

variable {ε σ : Type} {round : Round ε σ}

/-- **A run of a loop** from a number on: how many rounds it takes, the last one included, and its
outcome. Nothing but a round ends a run. -/
inductive Runs (round : Round ε σ) : Nat → σ → Nat → Except ε σ → Prop
  | failed {index : Nat} {state : σ} {fault : ε} :
      round index state = .error fault → Runs round index state 1 (.error fault)
  | done {index : Nat} {state final : σ} :
      round index state = .ok (.done final) → Runs round index state 1 (.ok final)
  | yield {index : Nat} {state next : σ} {rounds : Nat} {outcome : Except ε σ} :
      round index state = .ok (.yield next) → Runs round (index + 1) next rounds outcome →
      Runs round index state (rounds + 1) outcome

namespace Runs

variable {first : Nat} {state : σ} {rounds : Nat} {outcome : Except ε σ}

/-- A loop has at most one run. -/
theorem unique {others : Nat} {other : Except ε σ} (run : Runs round first state rounds outcome)
    (again : Runs round first state others other) : others = rounds ∧ other = outcome := by
  induction run generalizing others with
  | failed here =>
    cases again with
    | failed there => cases here.symm.trans there; exact ⟨rfl, rfl⟩
    | done there => cases here.symm.trans there
    | yield there => cases here.symm.trans there
  | done here =>
    cases again with
    | failed there => cases here.symm.trans there
    | done there => cases here.symm.trans there; exact ⟨rfl, rfl⟩
    | yield there => cases here.symm.trans there
  | yield here _ ih =>
    cases again with
    | failed there => cases here.symm.trans there
    | done there => cases here.symm.trans there
    | yield there later =>
      cases here.symm.trans there
      obtain ⟨rfl, rfl⟩ := ih later
      exact ⟨rfl, rfl⟩

/-- A run has a last round. -/
theorem exists_succ (run : Runs round first state rounds outcome) :
    ∃ earlier, rounds = earlier + 1 := by
  cases run with
  | failed => exact ⟨0, rfl⟩
  | done => exact ⟨0, rfl⟩
  | yield => exact ⟨_, rfl⟩

/-- Every round in front of the last one goes on. -/
theorem goesOn (run : Runs round first state rounds outcome) :
    ∀ i, i + 1 < rounds → ∃ before next, round (first + i) before = .ok (.yield next) := by
  induction run with
  | failed => exact fun i below => absurd below (by omega)
  | done => exact fun i below => absurd below (by omega)
  | @yield index state next rounds outcome here _ ih =>
    intro i below
    cases i with
    | zero => exact ⟨state, next, here⟩
    | succ i =>
      obtain ⟨before, next, there⟩ := ih i (Nat.lt_of_succ_lt_succ below)
      rw [Nat.add_assoc, Nat.add_comm 1] at there
      exact ⟨before, next, there⟩

end Runs

/-- A loop that is left after some rounds, if it has not ended by then. -/
def upTo (round : Round ε σ) : Nat → Nat → σ → Except ε σ
  | 0, _, state => .ok state
  | rounds + 1, index, state => do
    match ← round index state with
    | .done final => return final
    | .yield next => upTo round rounds (index + 1) next

/-- **A loop that does not go on** at some number, whatever its state, has a run. To leave it behind that
number makes no difference. -/
theorem exists_runs {n enough first : Nat} {state : σ}
    (stops : ∀ before next, round (first + n) before ≠ .ok (.yield next)) (below : n < enough) :
    ∃ rounds, Runs round first state rounds (round.upTo enough first state) := by
  induction n generalizing enough first state with
  | zero =>
    obtain ⟨enough, rfl⟩ := Nat.exists_eq_add_one.mpr below
    rw [upTo]
    cases here : round first state with
    | error fault => exact ⟨1, .failed here⟩
    | ok step =>
      cases step with
      | done final => exact ⟨1, .done here⟩
      | yield next => exact absurd here (stops state next)
  | succ n ih =>
    obtain ⟨enough, rfl⟩ := Nat.exists_eq_add_one.mpr (Nat.zero_lt_of_lt below)
    have later : ∀ before next, round (first + 1 + n) before ≠ .ok (.yield next) := by
      rw [Nat.add_assoc, Nat.add_comm 1]
      exact stops
    rw [upTo]
    cases here : round first state with
    | error fault => exact ⟨1, .failed here⟩
    | ok step =>
      cases step with
      | done final => exact ⟨1, .done here⟩
      | yield next =>
        obtain ⟨rounds, rest⟩ :
            ∃ rounds, Runs round (first + 1) next rounds (round.upTo enough (first + 1) next) :=
          ih later (Nat.lt_of_succ_lt_succ below)
        exact ⟨rounds + 1, .yield here rest⟩

/-! ### Loops along a list of parameters -/

/-- A loop goes on only at those numbers of a list that a request has. -/
def Follows (round : Round ε σ) (p : Params) (list part : String) : Prop :=
  ∀ index before next, round index before = .ok (.yield next) →
    (p.get? (numberedKey list index part)).isSome

namespace Follows

variable {p : Params} {list part : String}

/-- **A loop along a list** has a run, since the list has an end. -/
theorem exists_runs (follows : round.Follows p list part) (state : σ) :
    ∃ rounds, Runs round 0 state rounds (round.upTo (p.entries.length + 1) 0 state) := by
  have present (index : Nat) (goesOn : ¬∀ before next, round index before ≠ .ok (.yield next)) :
      (p.get? (numberedKey list index part)).isSome := by
    push Not at goesOn
    obtain ⟨before, next, here⟩ := goesOn
    exact follows index before next here
  obtain ⟨n, bounded, ends, _⟩ := exists_isLeast_end present
  exact Round.exists_runs (n := n) (by rwa [Nat.zero_add]) (Nat.lt_succ_of_le bounded)

/-- The rounds in front of the last one find names of their own. -/
theorem numberedNames_subset (follows : round.Follows p list part) {state : σ} {earlier : Nat}
    {outcome : Except ε σ} (run : Runs round 0 state (earlier + 1) outcome) :
    numberedNames list part earlier ⊆ p.names := by
  refine DocTable.numberedNames_subset fun index below => ?_
  obtain ⟨before, next, here⟩ := run.goesOn index (Nat.succ_lt_succ below)
  rw [Nat.zero_add] at here
  exact follows index before next here

end Follows

end Round

/-! ### The columns and the order entries -/

/-- The check of one column; without data it is the end of the columns. -/
def columnRound (p : Params) (c : TableConfig) : Round InputFault Unit := fun index _ =>
  if (p.get? (numberedKey "columns" index "data")).isSome then
    (checkColumn c index (p.get? (numberedKey "columns" index "name"))).map .yield
  else .ok (.done ())

/-- The reading of one order entry; without a column, or with an empty one, it is the end of the
entries. -/
def orderRound (p : Params) (c : TableConfig) : Round InputFault (List SortField) :=
  fun entry sorts =>
    match p.get? (numberedKey "order" entry "column") with
    | none => .ok (.done sorts)
    | some raw =>
      if raw = "" then .ok (.done sorts) else (addOrderEntry p c sorts entry raw).map .yield

theorem checkColumnsFrom_eq_upTo (p : Params) (c : TableConfig) (rounds index : Nat) :
    checkColumnsFrom p c rounds index = (columnRound p c).upTo rounds index () := by
  induction rounds generalizing index with
  | zero => rfl
  | succ rounds ih =>
    rw [checkColumnsFrom, Round.upTo, columnRound]
    split
    · cases checkColumn c index (p.get? (numberedKey "columns" index "name")) with
      | error fault => rfl
      | ok _ => exact ih (index + 1)
    · rfl

theorem decodeOrderFrom_eq_upTo (p : Params) (c : TableConfig) (rounds entry : Nat)
    (sorts : List SortField) :
    decodeOrderFrom p c rounds entry sorts = (orderRound p c).upTo rounds entry sorts := by
  induction rounds generalizing entry sorts with
  | zero => rfl
  | succ rounds ih =>
    rw [decodeOrderFrom, Round.upTo, orderRound]
    cases p.get? (numberedKey "order" entry "column") with
    | none => rfl
    | some raw =>
      by_cases empty : raw = ""
      · simp only [if_pos empty]
        rfl
      · simp only [if_neg empty]
        cases addOrderEntry p c sorts entry raw with
        | error fault => rfl
        | ok more => exact ih (entry + 1) more

theorem columnRound_follows (p : Params) (c : TableConfig) :
    (columnRound p c).Follows p "columns" "data" := by
  intro index before next goesOn
  unfold columnRound at goesOn
  split at goesOn
  · assumption
  · cases goesOn

theorem orderRound_follows (p : Params) (c : TableConfig) :
    (orderRound p c).Follows p "order" "column" := by
  intro entry before next goesOn
  unfold orderRound at goesOn
  split at goesOn
  · cases goesOn
  · next named => rw [named]; rfl

/-- Columns and order entries are looked up by different names. -/
theorem disjoint_numberedNames (part other : String) (n m : Nat) :
    Disjoint (numberedNames "columns" part n) (numberedNames "order" other m) := by
  refine Finset.disjoint_left.mpr fun key column order => ?_
  obtain ⟨index, _, rfl⟩ := Finset.mem_map.mp column
  obtain ⟨entry, _, same⟩ := Finset.mem_map.mp order
  have first := congrArg (·.toList.head?) same
  simp [numberedKey] at first

/-- **The rounds of decoding.** Whatever the parameters of a request and the definition are, the loop over
the columns and the loop over the order entries end, each in one way only, and their outcomes are those of
`checkColumns` and `decodeOrder`. Each of them takes at most one round more than there are names of
parameters. Together they take at most two rounds more, so they do not go on more often than there are
names. -/
theorem rounds_of_decoding (p : Params) (c : TableConfig) :
    ∃ columns orders,
      (∀ rounds outcome, (columnRound p c).Runs 0 () rounds outcome ↔
        rounds = columns ∧ outcome = checkColumns p c) ∧
      (∀ rounds outcome, (orderRound p c).Runs 0 [] rounds outcome ↔
        rounds = orders ∧ outcome = decodeOrder p c) ∧
      columns ≤ p.names.card + 1 ∧ orders ≤ p.names.card + 1 ∧
      columns + orders ≤ p.names.card + 2 := by
  obtain ⟨columns, checked⟩ := (columnRound_follows p c).exists_runs ()
  obtain ⟨orders, read⟩ := (orderRound_follows p c).exists_runs []
  rw [← checkColumnsFrom_eq_upTo] at checked
  rw [← decodeOrderFrom_eq_upTo] at read
  obtain ⟨n, rfl⟩ := checked.exists_succ
  obtain ⟨m, rfl⟩ := read.exists_succ
  have together : n + m ≤ p.names.card := by
    have inside := Finset.union_subset ((columnRound_follows p c).numberedNames_subset checked)
      ((orderRound_follows p c).numberedNames_subset read)
    have counted := Finset.card_le_card inside
    rwa [Finset.card_union_of_disjoint (disjoint_numberedNames "data" "column" n m),
      card_numberedNames, card_numberedNames] at counted
  refine ⟨n + 1, m + 1, fun rounds outcome => ⟨checked.unique, ?_⟩,
    fun rounds outcome => ⟨read.unique, ?_⟩, by omega, by omega, by omega⟩
  · rintro ⟨rfl, rfl⟩
    exact checked
  · rintro ⟨rfl, rfl⟩
    exact read

end DocTable
