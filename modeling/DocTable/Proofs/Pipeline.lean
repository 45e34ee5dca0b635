/-
**Pipelines run one part after the other.**

A pipeline reads its stages in turn, so running two pipelines joined together is running the second
one on what the first one left:

* `runPipeline_append`: the law of joined pipelines, faults included;
* `Stage.run_match` and its siblings: what the stages of a query's plan do;
* `length_runPipeline_le`: no pipeline makes more documents than it was given.
-/

import DocTable.Proofs.Except
import DocTable.Proofs.Sort
import DocTable.Query.Plan

namespace DocTable

variable [Regex.Compiler]

/-! ### Joined pipelines -/

/-- **Joined pipelines**: the second one runs on what the first one left, and a fault of the first
one is the fault of both. -/
theorem runPipeline_append (docs first second : List Document) :
    runPipeline docs (first ++ second) = (runPipeline docs first).bind (runPipeline · second) := by
  induction first generalizing docs with
  | nil => rfl
  | cons stage rest ih =>
    show (Stage.run stage docs).bind (runPipeline · (rest ++ second)) =
      ((Stage.run stage docs).bind (runPipeline · rest)).bind (runPipeline · second)
    cases Stage.run stage docs with
    | error fault => rfl
    | ok left => exact ih left

/-- A pipeline of one stage is that stage. -/
theorem runPipeline_single (docs : List Document) (stage : Document) :
    runPipeline docs [stage] = Stage.run stage docs := by
  show (Stage.run stage docs).bind (fun left => runPipeline left []) = Stage.run stage docs
  cases Stage.run stage docs <;> rfl

/-! ### The stages of a plan -/

namespace Stage

theorem run_match (filter : Document) (docs : List Document) :
    run (.single "$match" (.document filter)) docs =
      (condition filter).map fun c => docs.filter (c.holds ·) := rfl

theorem run_sort (spec : Document) (docs : List Document) :
    run (.single "$sort" (.document spec)) docs =
      (SortKey.ofDocument spec).map fun keys => sortDocuments keys docs := rfl

theorem run_project (projection : Document) (docs : List Document) :
    run (.single "$project" (.document projection)) docs = docs.mapM (project · projection) := rfl

theorem run_count (docs : List Document) :
    run (.single "$count" (.string countKey)) docs =
      .ok (if docs.isEmpty then [] else [[(countKey, .int64 (Int64.ofNat docs.length))]]) := rfl

omit [Regex.Compiler] in
/-- A bound that fits the window is the number that its stage reads. -/
theorem count_windowValue (stage : String) {n : UInt64} (fits : n ≤ Query.largestWindow) :
    count stage (windowValue n) = .ok n.toNat := by
  have small : n.toNat ≤ 9223372036854775807 := fits
  have exact : n.toInt64.toInt = n.toNat := by
    rw [← Int64.toInt_toBitVec, UInt64.toBitVec_toInt64, BitVec.toInt_eq_toNat_of_lt]
    · simp
    · simp only [UInt64.toNat_toBitVec]
      omega
  have notNegative : ¬ (n.toNat : Int) < 0 := by omega
  simp only [count, windowValue, if_pos fits, integer?, exact, if_neg notNegative, Int.toNat_natCast]

theorem run_skip {n : UInt64} (fits : n ≤ Query.largestWindow) (docs : List Document) :
    run (.single "$skip" (windowValue n)) docs = .ok (docs.drop n.toNat) := by
  show (count "$skip" (windowValue n)).map (fun n => docs.drop n) = _
  rw [count_windowValue "$skip" fits]
  rfl

theorem run_limit {n : UInt64} (fits : n ≤ Query.largestWindow) (positive : n ≠ 0)
    (docs : List Document) :
    run (.single "$limit" (windowValue n)) docs = .ok (docs.take n.toNat) := by
  show (count "$limit" (windowValue n)).bind
    (fun n => if n = 0 then throw (.invalidPipeline .zeroLimit) else return docs.take n) = _
  rw [count_windowValue "$limit" fits]
  have counted : n.toNat ≠ 0 := fun zero => positive (UInt64.toNat_inj.mp zero)
  show (if n.toNat = 0 then _ else _) = _
  rw [if_neg counted]
  rfl

end Stage

/-! ### The number of documents -/

/-- **One stage makes no documents**: it leaves at most as many as it was given. -/
theorem Stage.length_run_le {stage : Document} {docs left : List Document}
    (ran : run stage docs = .ok left) : left.length ≤ docs.length := by
  obtain ⟨⟨name, spec⟩, _, applied⟩ := bind_eq_ok.mp ran
  change apply name spec docs = .ok left at applied
  unfold apply at applied
  split at applied
  · obtain ⟨filter, _, applied⟩ := bind_eq_ok.mp applied
    obtain ⟨c, _, applied⟩ := bind_eq_ok.mp applied
    cases applied
    exact List.length_filter_le _ docs
  · obtain ⟨spec, _, applied⟩ := bind_eq_ok.mp applied
    obtain ⟨keys, _, applied⟩ := bind_eq_ok.mp applied
    cases applied
    exact Nat.le_of_eq (sortDocuments_perm keys docs).length_eq
  · obtain ⟨n, _, applied⟩ := bind_eq_ok.mp applied
    cases applied
    rw [List.length_drop]
    exact Nat.sub_le _ _
  · obtain ⟨n, _, applied⟩ := bind_eq_ok.mp applied
    split at applied
    · cases applied
    · cases applied
      exact List.length_take_le' n docs
  · split at applied
    · cases applied
    · cases applied
      split
      · exact Nat.zero_le _
      · next notEmpty =>
        exact List.length_pos_iff.mpr fun empty => notEmpty (List.isEmpty_iff.mpr empty)
  · obtain ⟨projection, _, applied⟩ := bind_eq_ok.mp applied
    exact Nat.le_of_eq (mapM_eq_ok.mp applied).length_eq.symm
  · obtain ⟨fields, _, applied⟩ := bind_eq_ok.mp applied
    cases applied
    exact Nat.le_of_eq (List.length_map _)
  · obtain ⟨fields, _, applied⟩ := bind_eq_ok.mp applied
    cases applied
    exact Nat.le_of_eq (List.length_map _)
  · cases applied

/-- **No pipeline makes documents.** -/
theorem length_runPipeline_le {docs left : List Document} {stages : List Document}
    (ran : runPipeline docs stages = .ok left) : left.length ≤ docs.length := by
  induction stages generalizing docs with
  | nil =>
    cases ran
    exact Nat.le_refl _
  | cons stage rest ih =>
    obtain ⟨middle, first, ran⟩ := bind_eq_ok.mp ran
    exact Nat.le_trans (ih ran) (Stage.length_run_le first)

end DocTable
