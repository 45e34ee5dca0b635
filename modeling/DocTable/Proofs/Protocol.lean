/-
**How a request ends when reads fail or hang.**

The reads of a plan start in a fixed order, and each of them answers, fails or hangs. The first one
that fails ends the request; one that hangs holds no other read back, only the end of the request.

* `ExecutionPlan.reads`: the reads of a plan, each with what its failure is to the request;
* `Source.joined`: reads that start in order, up to the first failure;
* `joined_of_failure`, `joined_of_fine`: which calls are made and which failure is reported;
* `run_eq_joined`: running a plan is joining its reads;
* `execute_protocol`: the checks, the cancellation, the reads and the deadline, one after the other.
-/

import DocTable.Regex.Room
import DocTable.Table.Page

namespace DocTable

/-- A read that a request makes, and what its failure is to the request. -/
structure PlannedRead where
  call : Call
  failure : StoreError → TableError

/-- The reads of a plan in their order: the rows, the size of the collection and, if the plan has
one, the exact count. -/
def ExecutionPlan.reads (plan : ExecutionPlan) : List PlannedRead :=
  [⟨⟨plan.collection, plan.strategy.read⟩, .store⟩, ⟨⟨plan.collection, .size⟩, .store⟩]
    ++ plan.count.toList.map fun count => ⟨⟨plan.collection, count.read⟩, .countFailed⟩

/-- A query is answered by one kind of rows read only: it finds without a pipeline, and aggregates
with one. -/
theorem strategy_explain (q : Query) :
    (q.pipeline = [] → ∃ filter options, (explain q).strategy = .find filter options) ∧
      (q.pipeline ≠ [] → ∃ stages, (explain q).strategy = .aggregate stages) := by
  unfold explain Query.usesPipeline
  constructor
  · intro empty
    rw [empty]
    exact ⟨_, _, rfl⟩
  · intro piped
    rw [List.isEmpty_eq_false_iff.mpr piped]
    exact ⟨_, rfl⟩

namespace Source

/-! ### Reads that start in order -/

/-- How a call ends, whatever it answers. -/
def ending (s : Source) (c : Call) : Reply Unit :=
  match c.read with
  | .find filter options => (s.find c.collection filter options).map fun _ => ()
  | .aggregate pipeline => (s.aggregate c.collection pipeline).map fun _ => ()
  | .size => (s.size c.collection).map fun _ => ()
  | .count filter => (s.count c.collection filter).map fun _ => ()

def Fails (s : Source) (read : PlannedRead) : Prop := ∃ error, s.ending read.call = .failed error

/-- Reads that start in order, up to the first failure: the calls made, and that failure. -/
def joined (s : Source) : List PlannedRead → List Call × Option TableError
  | [] => ([], none)
  | read :: rest =>
    match s.ending read.call with
    | .failed error => ([read.call], some (read.failure error))
    | _ => (read.call :: (s.joined rest).1, (s.joined rest).2)

variable {s : Source}

theorem joined_cons_of_failed {read : PlannedRead} {error : StoreError}
    (failed : s.ending read.call = .failed error) (rest : List PlannedRead) :
    s.joined (read :: rest) = ([read.call], some (read.failure error)) := by
  unfold joined
  rw [failed]

theorem joined_cons_of_fine {read : PlannedRead} (fine : ¬s.Fails read) (rest : List PlannedRead) :
    s.joined (read :: rest) = (read.call :: (s.joined rest).1, (s.joined rest).2) := by
  rw [joined]
  cases ending : s.ending read.call with
  | failed error => exact absurd ⟨error, ending⟩ fine
  | answered _ => rfl
  | hanging => rfl

/-- **The first failure** is the last call, and the failure of them all. -/
theorem joined_of_failure {before : List PlannedRead} (fine : ∀ other ∈ before, ¬s.Fails other)
    {read : PlannedRead} {error : StoreError} (failed : s.ending read.call = .failed error)
    (rest : List PlannedRead) :
    s.joined (before ++ read :: rest) =
      ((before ++ [read]).map (·.call), some (read.failure error)) := by
  induction before with
  | nil => exact joined_cons_of_failed failed rest
  | cons first others ih =>
    have later := ih fun other member => fine other (List.mem_cons_of_mem first member)
    rw [List.cons_append, joined_cons_of_fine (fine first List.mem_cons_self), later]
    rfl

/-- Without a failure all calls are made. -/
theorem joined_of_fine {reads : List PlannedRead} (fine : ∀ read ∈ reads, ¬s.Fails read) :
    s.joined reads = (reads.map (·.call), none) := by
  induction reads with
  | nil => rfl
  | cons read rest ih =>
    rw [joined_cons_of_fine (fine read List.mem_cons_self),
      ih fun other member => fine other (List.mem_cons_of_mem read member)]
    rfl

/-! ### The reads of a plan -/

theorem ending_rows (collection : String) (strategy : Strategy) :
    s.ending ⟨collection, strategy.read⟩ = (s.rows collection strategy).map fun _ => () := by
  cases strategy <;> rfl

theorem ending_exactCount (collection : String) (count : CountPlan) :
    s.ending ⟨collection, count.read⟩ = (s.exactCount collection count).map fun _ => () := by
  cases count with
  | documents filter => rfl
  | pipeline stages =>
    show (s.aggregate collection stages).map _ = ((s.aggregate collection stages).map _).map _
    cases s.aggregate collection stages <;> rfl

/-- The page of a plan none of whose reads fails. -/
def pageOfPlan (s : Source) (plan : ExecutionPlan) : Outcome Page :=
  pageOf (s.rows plan.collection plan.strategy) (s.size plan.collection)
    (plan.count.map (s.exactCount plan.collection))

/-- **Running a plan** is joining its reads: the same calls, and the page if none of them fails. -/
theorem run_eq_joined (s : Source) (plan : ExecutionPlan) :
    s.run plan = ((s.joined plan.reads).1,
      ((s.joined plan.reads).2.map Outcome.failed).getD (s.pageOfPlan plan)) := by
  obtain ⟨collection, strategy, count⟩ := plan
  cases count with
  | none =>
    simp only [run, pageOfPlan, ExecutionPlan.reads, Option.toList, List.map_nil, List.append_nil,
      joined, ending_rows]
    cases s.rows collection strategy <;> cases size : s.size collection <;>
      simp only [ending, size] <;> rfl
  | some count =>
    simp only [run, pageOfPlan, ExecutionPlan.reads, Option.toList, List.map_cons, List.map_nil,
      List.cons_append, List.nil_append, joined, ending_rows, ending_exactCount, Option.map_some]
    cases s.rows collection strategy <;> cases size : s.size collection <;>
      cases s.exactCount collection count <;> simp only [ending, size] <;> rfl

/-! ### The page -/

/-- What a page shows is what the reads of its plan answered; without an exact count the size of the
collection stands in for it. -/
structure Shows (s : Source) (plan : ExecutionPlan) (page : Page) : Prop where
  rows : s.rows plan.collection plan.strategy = .answered page.rows
  total : s.size plan.collection = .answered page.total
  filtered : ∀ count ∈ plan.count, s.exactCount plan.collection count = .answered page.filtered
  unfiltered : plan.count = none → page.filtered = page.total

theorem pageOf_eq_waiting_or_done (rows : Reply (List Document)) (total : Reply Nat)
    (count : Option (Reply Nat)) :
    pageOf rows total count = .waiting ∨ ∃ page, pageOf rows total count = .done page := by
  unfold pageOf
  split
  · exact Or.inr ⟨_, rfl⟩
  · exact Or.inr ⟨_, rfl⟩
  · exact Or.inl rfl

/-- A page shows what its plan's reads answered. -/
theorem shows_of_pageOfPlan {plan : ExecutionPlan} {page : Page}
    (ended : s.pageOfPlan plan = .done page) : s.Shows plan page := by
  unfold pageOfPlan pageOf at ended
  split at ended
  · next rows total absent =>
    cases ended
    have none := Option.map_eq_none_iff.mp absent
    exact
      { rows, total
        filtered := fun count member => absurd (none.symm.trans member) (Option.some_ne_none _).symm
        unfiltered := fun _ => rfl }
  · next rows total exact =>
    cases ended
    obtain ⟨count, planned, answered⟩ := Option.map_eq_some_iff.mp exact
    exact
      { rows, total
        filtered := fun other member => by
          rw [planned] at member
          cases member
          exact answered
        unfiltered := fun none => by rw [planned] at none; cases none }
  · cases ended

theorem map_eq_answered {α : Type} {reply : Reply α} {a : α} (answered : reply = .answered a) :
    (reply.map fun _ => ()) = .answered () := by
  rw [answered]
  rfl

theorem exists_of_map_eq_answered {α : Type} {reply : Reply α}
    (answered : (reply.map fun _ => ()) = .answered ()) : ∃ a, reply = .answered a := by
  cases reply with
  | answered a => exact ⟨a, rfl⟩
  | failed error => cases answered
  | hanging => cases answered

theorem forall_reads {plan : ExecutionPlan} {holds : PlannedRead → Prop} :
    (∀ read ∈ plan.reads, holds read) ↔
      holds ⟨⟨plan.collection, plan.strategy.read⟩, .store⟩ ∧
        holds ⟨⟨plan.collection, .size⟩, .store⟩ ∧
        ∀ count ∈ plan.count, holds ⟨⟨plan.collection, count.read⟩, .countFailed⟩ := by
  unfold ExecutionPlan.reads
  simp

/-- All reads behind a page have answered. -/
theorem answered_of_shows {plan : ExecutionPlan} {page : Page} (shows : s.Shows plan page) :
    ∀ read ∈ plan.reads, s.ending read.call = .answered () := by
  refine forall_reads.mpr ⟨?_, map_eq_answered shows.total, fun count member => ?_⟩
  · exact (ending_rows _ _).trans (map_eq_answered shows.rows)
  · exact (ending_exactCount _ _).trans (map_eq_answered (shows.filtered count member))

/-- Reads that all answer make a page. -/
theorem exists_page_of_answered {plan : ExecutionPlan}
    (answered : ∀ read ∈ plan.reads, s.ending read.call = .answered ()) :
    ∃ page, s.pageOfPlan plan = .done page := by
  obtain ⟨first, second, third⟩ := forall_reads.mp answered
  obtain ⟨rows, rowsRead⟩ := exists_of_map_eq_answered ((ending_rows _ _).symm.trans first)
  obtain ⟨total, sizeRead⟩ := exists_of_map_eq_answered second
  unfold pageOfPlan
  rw [rowsRead, sizeRead]
  cases planned : plan.count with
  | none => exact ⟨_, rfl⟩
  | some count =>
    obtain ⟨filtered, counted⟩ := exists_of_map_eq_answered
      ((ending_exactCount _ _).symm.trans (third count planned))
    rw [Option.map_some, counted]
    exact ⟨_, rfl⟩

/-! ### The protocol -/

/-- How a request ends that makes the reads of a plan in its time: with the calls and the outcome. -/
structure Follows (s : Source) (plan : ExecutionPlan) (ended : List Call × Outcome Page) : Prop where
  /-- The first read that fails is the last call, and its failure is the outcome. -/
  failed : ∀ before read rest error, plan.reads = before ++ read :: rest →
    (∀ other ∈ before, ¬s.Fails other) → s.ending read.call = .failed error →
    ended = ((before ++ [read]).map (·.call), .failed (read.failure error))
  /-- Without a failure every read is made. -/
  calls : (∀ read ∈ plan.reads, ¬s.Fails read) → ended.1 = plan.reads.map (·.call)
  /-- Without a failure a read that hangs uses up the time. -/
  hung : (∀ read ∈ plan.reads, ¬s.Fails read) →
    (∃ read ∈ plan.reads, s.ending read.call = .hanging) → ended.2 = .failed .deadlineExceeded
  /-- Reads that all answer make a page. -/
  answered : (∀ read ∈ plan.reads, s.ending read.call = .answered ()) → ∃ page, ended.2 = .done page
  /-- There is no page but of reads that all answered, and it shows their answers. -/
  page : ∀ page, ended.2 = .done page →
    (∀ read ∈ plan.reads, s.ending read.call = .answered ()) ∧ s.Shows plan page

theorem not_fails_of_answered {read : PlannedRead} (answered : s.ending read.call = .answered ()) :
    ¬s.Fails read := by
  rintro ⟨error, failed⟩
  rw [answered] at failed
  cases failed

/-- Reads that do not fail: the page, or the end of the time. -/
theorem run_of_fine {plan : ExecutionPlan} (fine : ∀ read ∈ plan.reads, ¬s.Fails read) :
    s.run plan = (plan.reads.map (·.call), s.pageOfPlan plan) := by
  rw [run_eq_joined, joined_of_fine fine]
  rfl

/-- A run that ends with a page had no failure. -/
theorem pageOfPlan_of_run {plan : ExecutionPlan} {page : Page} (ended : (s.run plan).2 = .done page) :
    s.pageOfPlan plan = .done page := by
  rw [run_eq_joined] at ended
  cases failure : (s.joined plan.reads).2 with
  | some error =>
    rw [failure] at ended
    cases ended
  | none =>
    rw [failure] at ended
    exact ended

/-- The deadline makes no page. -/
theorem eq_of_withDeadline {timeoutMillis : Option UInt64} {outcome : Outcome Page} {page : Page}
    (ended : withDeadline timeoutMillis outcome = .done page) : outcome = .done page := by
  cases outcome with
  | done _ => exact ended
  | failed _ => cases ended
  | waiting =>
    cases timeoutMillis with
    | none => cases ended
    | some _ => cases ended

/-- **Running a plan in its time** follows its reads. -/
theorem follows_run (s : Source) (plan : ExecutionPlan) (timeout : UInt64) :
    s.Follows plan ((s.run plan).1, withDeadline (some timeout) (s.run plan).2) where
  failed before read rest error reads fine failed := by
    rw [run_eq_joined, reads, joined_of_failure fine failed]
    rfl
  calls fine := by rw [run_of_fine fine]
  hung fine hangs := by
    obtain ⟨read, member, hanging⟩ := hangs
    rw [run_of_fine fine]
    rcases pageOf_eq_waiting_or_done (s.rows plan.collection plan.strategy) (s.size plan.collection)
      (plan.count.map (s.exactCount plan.collection)) with waiting | ⟨page, ended⟩
    · show withDeadline (some timeout) (s.pageOfPlan plan) = _
      rw [pageOfPlan, waiting]
      rfl
    · have answered := answered_of_shows (shows_of_pageOfPlan ended) read member
      rw [hanging] at answered
      cases answered
  answered answered := by
    obtain ⟨page, ended⟩ := exists_page_of_answered answered
    have fine := fun read member => not_fails_of_answered (answered read member)
    refine ⟨page, ?_⟩
    rw [run_of_fine fine]
    show withDeadline (some timeout) (s.pageOfPlan plan) = _
    rw [ended]
    rfl
  page page ended := by
    have shows := shows_of_pageOfPlan (pageOfPlan_of_run (eq_of_withDeadline ended))
    exact ⟨answered_of_shows shows, shows⟩

end Source

/-- **The failure protocol of a request.** A query that does not pass its checks is refused before
any call, cancelled or not. A checked query that is cancelled makes no call either. Otherwise the
request makes the reads of its plan, of which one finds or aggregates the rows, up to the first one
that fails. That failure is its outcome; without one it ends at its deadline if a read hangs, and
else with a page of what the reads answered. -/
theorem execute_protocol (s : Source) (timeout : UInt64) (q : Query) :
    (∀ fault, q.validate = .error fault → ∀ cancelled,
      s.execute (some timeout) cancelled q = ([], .failed (.invalidInput (.query fault)))) ∧
    (q.validate = .ok () →
      s.execute (some timeout) true q = ([], .failed .cancelled) ∧
      s.Follows (explain q) (s.execute (some timeout) false q) ∧
      (q.pipeline = [] → ∃ filter options, (explain q).strategy = .find filter options) ∧
      (q.pipeline ≠ [] → ∃ stages, (explain q).strategy = .aggregate stages)) := by
  constructor
  · intro fault refused cancelled
    unfold Source.execute
    rw [refused]
  · intro valid
    have cancels : s.execute (some timeout) true q = ([], .failed .cancelled) := by
      unfold Source.execute
      rw [valid]
      rfl
    have runs : s.execute (some timeout) false q =
        ((s.run (explain q)).1, Source.withDeadline (some timeout) (s.run (explain q)).2) := by
      unfold Source.execute
      rw [valid]
      rfl
    refine ⟨cancels, ?_, strategy_explain q⟩
    rw [runs]
    exact s.follows_run (explain q) timeout

/-- A store of people whose rows are never read to the end and whose count fails: all three calls
are made, and the count is to blame. With a raw filter that is none, the rows fail at once; without a
table there is no call, although the request is cancelled too. -/
theorem execute_protocol_people :
    let people : Store := ⟨[("people", [[("name", .string "Ann"), ("age", .int32 30)]])], ⟨0⟩⟩
    let faulty : Source := { people.source with
      find := fun _ _ _ => .hanging
      count := fun _ _ => .failed (.unavailable "connection reset") }
    let q : Query := { (default : Query) with
      table := "people", fields := ["name"], filters := [⟨"age", .int 30⟩], limit := 10 }
    let rows : Call := ⟨"people", (explain q).strategy.read⟩
    let size : Call := ⟨"people", .size⟩
    let count : Call := ⟨"people", .count (compileMatch q).filter⟩
    let broken : Query := { q with rawFilter := some (.single "$where" (.string "1")) }
    let nowhere : Query := { q with table := "" }
    q.validate = .ok () ∧ broken.validate = .ok () ∧ nowhere.validate = .error .missingTable ∧
      faulty.execute (some 20) false q =
        ([rows, size, count], .failed (.countFailed (.unavailable "connection reset"))) ∧
      people.source.execute (some 20) false broken =
        ([⟨"people", (explain broken).strategy.read⟩],
          .failed (.store (.invalidFilter (.unknownTopLevel "$where")))) ∧
      faulty.execute (some 20) true nowhere =
        ([], .failed (.invalidInput (.query .missingTable))) := by
  intro people faulty q rows size count broken nowhere
  have valid : q.validate = .ok () := rfl
  have validBroken : broken.validate = .ok () := rfl
  have refused : nowhere.validate = .error .missingTable := rfl
  have planned : (explain q).reads = [⟨rows, .store⟩, ⟨size, .store⟩] ++ ⟨count, .countFailed⟩ :: [] :=
    rfl
  have fine : ∀ other ∈ [(⟨rows, .store⟩ : PlannedRead), ⟨size, .store⟩], ¬faulty.Fails other := by
    refine List.forall_mem_cons.mpr ⟨?_, List.forall_mem_singleton.mpr ?_⟩
    · rintro ⟨_, failed⟩
      cases failed
    · rintro ⟨_, failed⟩
      cases failed
  have first := ((execute_protocol faulty 20 q).2 valid).2.1.failed _ _ _ _ planned fine rfl
  have second := ((execute_protocol people.source 20 broken).2 validBroken).2.1.failed [] _ _ _ rfl
    (fun _ member => absurd member List.not_mem_nil) rfl
  have third := (execute_protocol faulty 20 nowhere).1 _ refused true
  exact ⟨valid, validBroken, refused, first, second, third⟩

end DocTable
