/-
**Fields that a stage adds.**

A stage that adds fields sets them one after the other, and a reference finds what the fields before it
have left. A field whose reference lies apart from these therefore holds what the document had there when
the stage began; one that refers to a field set before it holds the new value of that field.

* `lookup_addField_self`, `lookup_addField_of_apart`: one field;
* `lookup_addFields_of_apart`, `lookup_addFields_of_split`: all fields of a stage;
* `addFields_reads_input`: what a stage sets its fields to;
* `swapped_fields`: two fields that refer to each other.
-/

import DocTable.Proofs.Paths
import DocTable.Proofs.Pipeline
import DocTable.Regex.Room

namespace DocTable

/-- Neither of two paths goes on from the other. -/
def Apart (path other : String) : Prop :=
  ¬segments path <+: segments other ∧ ¬segments other <+: segments path

instance (path other : String) : Decidable (Apart path other) :=
  inferInstanceAs (Decidable (_ ∧ _))

theorem Apart.symm {path other : String} (apart : Apart path other) : Apart other path := And.symm apart

theorem not_apart_self (path : String) : ¬Apart path path := fun apart => apart.1 List.prefix_rfl

/-- What a field is set to: a literal, or what its reference finds in a document. -/
def Value.takenFrom (spec : Value) (d : Document) : Option Value :=
  match spec.reference? with
  | some path => d.lookup path
  | none => some spec

/-- What a value refers to, if it is a reference, lies apart from a path. -/
def Value.RefersApart (spec : Value) (target : String) : Prop :=
  ∀ path ∈ spec.reference?, Apart target path

instance (spec : Value) (target : String) : Decidable (spec.RefersApart target) :=
  inferInstanceAs (Decidable (∀ path ∈ spec.reference?, Apart target path))

namespace Stage

variable {d : Document} {entry : String × Value} {fields : Document}

/-- A field that is set holds what it is set to, and without anything to set what it held before. -/
theorem lookup_addField_self :
    (addField d entry).lookup entry.1 = (entry.2.takenFrom d).or (d.lookup entry.1) := by
  have found (value : Value) : (d.setPath entry.1 value).lookup entry.1 = some value :=
    d.follow_setAt_self (segments_ne_nil entry.1) value
  unfold addField Value.takenFrom
  cases entry.2.reference? with
  | none => simp [found]
  | some path =>
    cases there : d.lookup path with
    | none => simp [there]
    | some value => simp [there, found]

/-- Setting a field leaves what lies apart from it. -/
theorem lookup_addField_of_apart {path : String} (apart : Apart entry.1 path) :
    (addField d entry).lookup path = d.lookup path := by
  have kept (value : Value) : (d.setPath entry.1 value).lookup path = d.lookup path :=
    d.follow_setAt_of_apart value apart.1 apart.2
  unfold addField
  cases entry.2.reference? with
  | none => exact kept entry.2
  | some other =>
    cases there : d.lookup other with
    | none => simp [there]
    | some value => simp [there, kept]

/-- **The frame** of a stage: what lies apart from all its fields is as it was. -/
theorem lookup_addFields_of_apart {path : String} (apart : ∀ entry ∈ fields, Apart entry.1 path) :
    (addFields d fields).lookup path = d.lookup path := by
  induction fields generalizing d with
  | nil => rfl
  | cons entry rest ih =>
    obtain ⟨here, later⟩ := List.forall_mem_cons.mp apart
    exact (ih later).trans (lookup_addField_of_apart here)

/-- **A field of a stage** holds what it is set to from what the fields before it have left. -/
theorem lookup_addFields_of_split
    (targets : fields.Pairwise fun entry other => Apart entry.1 other.1) {front back : Document}
    (split : fields = front ++ entry :: back) :
    (addFields d fields).lookup entry.1 =
      (entry.2.takenFrom (addFields d front)).or (d.lookup entry.1) := by
  subst split
  obtain ⟨_, inside, between⟩ := List.pairwise_append.mp targets
  have before : ∀ earlier ∈ front, Apart earlier.1 entry.1 := fun earlier member =>
    between earlier member entry List.mem_cons_self
  have behind : ∀ later ∈ back, Apart later.1 entry.1 := fun later member =>
    ((List.pairwise_cons.mp inside).1 later member).symm
  have run : addFields d (front ++ entry :: back) =
      addFields (addField (addFields d front) entry) back := by
    simp [addFields]
  rw [run, lookup_addFields_of_apart behind, lookup_addField_self, lookup_addFields_of_apart before]

/-- A literal is a literal, and a reference apart from all fields finds what it found before them. -/
theorem takenFrom_addFields {spec : Value} (apart : ∀ earlier ∈ fields, spec.RefersApart earlier.1) :
    spec.takenFrom (addFields d fields) = spec.takenFrom d := by
  unfold Value.takenFrom
  cases reference : spec.reference? with
  | none => rfl
  | some path =>
    exact lookup_addFields_of_apart fun earlier member => apart earlier member path reference

/-- **All fields** are set from the document that came in if no reference meets another field. -/
theorem lookup_addFields_of_apart_others
    (targets : fields.Pairwise fun entry other => Apart entry.1 other.1)
    (references : ∀ entry ∈ fields, ∀ other ∈ fields, other.1 ≠ entry.1 →
      entry.2.RefersApart other.1) (member : entry ∈ fields) :
    (addFields d fields).lookup entry.1 = (entry.2.takenFrom d).or (d.lookup entry.1) := by
  obtain ⟨front, back, rfl⟩ := List.append_of_mem member
  rw [lookup_addFields_of_split targets rfl, takenFrom_addFields fun earlier inside => ?_]
  refine references entry member earlier (List.mem_append_left _ inside) fun same => ?_
  have apart := (List.pairwise_append.mp targets).2.2 earlier inside entry List.mem_cons_self
  exact not_apart_self entry.1 (same ▸ apart)

theorem runPipeline_addFields [Regex.Compiler] (d fields : Document) :
    runPipeline [d] [.single "$addFields" (.document fields)] = .ok [addFields d fields] := rfl

theorem runPipeline_set [Regex.Compiler] (d fields : Document) :
    runPipeline [d] [.single "$set" (.document fields)] = .ok [addFields d fields] := rfl

end Stage

open Stage in
/-- **What a stage sets its fields to.** If no field of a stage goes on from another one, then a field holds
its literal, or what its reference finds in what the fields before it have made of the document, or what it
held in the document that came in if the reference finds nothing. A reference apart from the fields before
it finds what it found in the document that came in. What lies apart from all fields is as it was. If every
reference lies apart from all other fields, the order of the fields does not matter. -/
theorem addFields_reads_input [Regex.Compiler] (d : Document) {fields : Document}
    (targets : fields.Pairwise fun entry other => Apart entry.1 other.1) :
    ∃ row, runPipeline [d] [.single "$addFields" (.document fields)] = .ok [row] ∧
      runPipeline [d] [.single "$set" (.document fields)] = .ok [row] ∧
      (∀ front entry back, fields = front ++ entry :: back →
        row.lookup entry.1 = (entry.2.takenFrom (addFields d front)).or (d.lookup entry.1) ∧
        ((∀ earlier ∈ front, entry.2.RefersApart earlier.1) →
          row.lookup entry.1 = (entry.2.takenFrom d).or (d.lookup entry.1))) ∧
      (∀ path, (∀ entry ∈ fields, Apart entry.1 path) → row.lookup path = d.lookup path) ∧
      ((∀ entry ∈ fields, ∀ other ∈ fields, other.1 ≠ entry.1 → entry.2.RefersApart other.1) →
        ∀ others, others.Perm fields → ∃ same,
          runPipeline [d] [.single "$addFields" (.document others)] = .ok [same] ∧
          ∀ entry ∈ fields, same.lookup entry.1 = row.lookup entry.1) := by
  refine ⟨addFields d fields, runPipeline_addFields d fields, runPipeline_set d fields, ?_,
    fun path apart => lookup_addFields_of_apart apart, fun references others order => ?_⟩
  · intro front entry back split
    have held := lookup_addFields_of_split (d := d) targets split
    refine ⟨held, fun reference => ?_⟩
    rw [held, takenFrom_addFields reference]
  · refine ⟨addFields d others, runPipeline_addFields d others, fun entry member => ?_⟩
    have targetsOther := targets.perm order.symm Apart.symm
    have referencesOther : ∀ entry ∈ others, ∀ other ∈ others, other.1 ≠ entry.1 →
        entry.2.RefersApart other.1 := fun entry inside other there =>
      references entry (order.mem_iff.mp inside) other (order.mem_iff.mp there)
    rw [lookup_addFields_of_apart_others targets references member]
    exact lookup_addFields_of_apart_others targetsOther referencesOther (order.mem_iff.mpr member)

/-- A new path, a reference that finds nothing, a literal, and a field that is made of its own part. -/
theorem addFields_reads_input_person :
    let person : Document :=
      [("nick", .string "al"), ("level", .document [("now", .int32 3)]),
        ("profile", .document [("first", .string "Ada"), ("last", .string "King")])]
    let fields : Document :=
      [("name.first", .string "$profile.first"), ("nick", .string "$profile.nick"),
        ("kind", .string "person"), ("level", .string "$level.now")]
    (fields.Pairwise fun entry other => Apart entry.1 other.1) ∧
      ∃ row same, runPipeline [person] [.single "$addFields" (.document fields)] = .ok [row] ∧
        runPipeline [person] [.single "$addFields" (.document fields.reverse)] = .ok [same] ∧
        row.lookup "name.first" = some (.string "Ada") ∧ row.lookup "nick" = some (.string "al") ∧
        row.lookup "kind" = some (.string "person") ∧ row.lookup "level" = some (.int32 3) ∧
        row.lookup "profile.last" = some (.string "King") ∧
        ∀ entry ∈ fields, same.lookup entry.1 = row.lookup entry.1 := by
  intro person fields
  have targets : fields.Pairwise fun entry other => Apart entry.1 other.1 := by decide +kernel
  have references : ∀ entry ∈ fields, ∀ other ∈ fields, other.1 ≠ entry.1 →
      entry.2.RefersApart other.1 := by decide +kernel
  obtain ⟨row, run, _, held, frame, order⟩ := addFields_reads_input person targets
  obtain ⟨same, runOther, agree⟩ := order references _ fields.reverse_perm
  refine ⟨targets, row, same, run, runOther, ?_, ?_, ?_, ?_, ?_, agree⟩
  · exact (held [] _ _ rfl).2 (by decide +kernel)
  · exact (held (fields.take 1) _ _ rfl).2 (by decide +kernel)
  · exact (held (fields.take 2) _ _ rfl).2 (by decide +kernel)
  · exact (held (fields.take 3) _ _ rfl).2 (by decide +kernel)
  · exact frame "profile.last" (by decide +kernel)

/-- **Two fields that refer to each other** are not swapped: the second one reads what the first one was set
to, and in the other order the document is another one. -/
theorem swapped_fields :
    let d : Document := [("a", .int32 1), ("b", .int32 2)]
    let fields : Document := [("a", .string "$b"), ("b", .string "$a")]
    (fields.Pairwise fun entry other => Apart entry.1 other.1) ∧
      runPipeline [d] [.single "$addFields" (.document fields)] =
        .ok [[("a", .int32 2), ("b", .int32 2)]] ∧
      runPipeline [d] [.single "$addFields" (.document fields.reverse)] =
        .ok [[("a", .int32 1), ("b", .int32 1)]] ∧
      Document.lookup [("a", .int32 2), ("b", .int32 2)] "b" ≠
        ((Value.string "$a").takenFrom d).or (d.lookup "b") := by
  intro d fields
  refine ⟨by decide +kernel, rfl, rfl, ?_⟩
  show some (Value.int32 2) ≠ some (.int32 1)
  simp

end DocTable
