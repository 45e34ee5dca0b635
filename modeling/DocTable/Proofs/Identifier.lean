/-
**The identifier in rows.**

The projection of a query drops the identifier, and a field that is the identifier itself is not
selected. A field that names an entry inside the identifier is: where an identifier is a document that
has this entry, the row shows an identifier with that entry alone.

* `IsInsideId`: fields that name an entry inside the identifier;
* `contains_id_shown`: when the row of a document has an identifier;
* `id_of_row`: no row of a page has one unless the query asks for a part of it.
-/

import DocTable.Proofs.Paging
import DocTable.Proofs.Selection
import DocTable.Regex.Room

namespace DocTable

/-- A field that names an entry inside the identifier, not the identifier itself. -/
def IsInsideId (field : String) : Prop :=
  field ≠ idKey ∧ [idKey] <+: segments field

/-- Only the identifier is a front of the identifier, as every path has a segment. -/
theorem eq_idKey_of_front {field : String} (front : segments field <+: [idKey]) : field = idKey := by
  obtain ⟨key, rest, parts⟩ := List.exists_cons_of_ne_nil (segments_ne_nil field)
  rw [parts, List.cons_prefix_cons, List.prefix_nil] at front
  obtain ⟨rfl, rfl⟩ := front
  exact segments_injective parts

/-- A key is there if its path leads somewhere. -/
theorem Document.contains_iff_follow (d : Document) (key : String) :
    d.contains key = true ↔ (d.follow [key]).isSome := Iff.rfl

/-- **The row of a document** has an identifier if some field names an entry of the document's
identifier. -/
theorem contains_id_shown (fields : List String) (d : Document) :
    (shown fields d).contains idKey = true ↔
      ∃ field ∈ fields, IsInsideId field ∧ (d.lookup field).isSome := by
  constructor
  · intro present
    by_cases nothing : keptEntries fields = []
    · unfold shown Document.contains at present
      rw [if_pos nothing, Document.get?_erase_self] at present
      cases present
    · obtain ⟨source, member, there, near⟩ :=
        (selectedFrom_shown nothing d).traced [idKey] ((Document.contains_iff_follow _ _).mp present)
      obtain ⟨field, listed, apart, rfl⟩ := mem_selectedPaths.mp member
      refine ⟨field, listed, ⟨apart, ?_⟩, there⟩
      rcases near with whole | front
      · exact absurd (eq_idKey_of_front whole) apart
      · exact front
  · rintro ⟨field, listed, ⟨apart, front⟩, there⟩
    rw [Document.contains_iff_follow]
    refine Document.follow_isSome_of_front (List.cons_ne_nil idKey []) front ?_
    show ((shown fields d).lookup field).isSome
    rw [lookup_shown listed apart]
    exact there

/-- **The identifier does not reach rows** unless a field of the query names an entry inside it.
Every row is the projection of a document that the pipeline leaves, and has an identifier exactly if
such a field leads somewhere in that document. -/
theorem id_of_row [Regex.Compiler] (s : Store) (timeoutMillis : Option UInt64) (cancelled : Bool)
    (q : Query)
    (page : Page) (ended : (s.source.execute timeoutMillis cancelled q).2 = .done page) :
    ((∀ field ∈ q.fields, ¬IsInsideId field) → ∀ row ∈ page.rows, row.contains idKey = false) ∧
      ∃ left, runPipeline (s.documents q.table) q.pipeline = .ok left ∧
        ∀ row ∈ page.rows, ∃ d ∈ left, project d (planProjection q.fields) = .ok row ∧
          (row.contains idKey = true ↔
            ∃ field ∈ q.fields, IsInsideId field ∧ (d.lookup field).isSome) := by
  obtain ⟨_, _, left, served⟩ := serves_of_execute ended
  have each : ∀ row ∈ page.rows, ∃ d ∈ left, project d (planProjection q.fields) = .ok row ∧
      (row.contains idKey = true ↔
        ∃ field ∈ q.fields, IsInsideId field ∧ (d.lookup field).isSome) := by
    intro row member
    obtain ⟨d, inside, rfl⟩ := exists_of_mem_rowsOf served.read member
    exact ⟨d, inside, project_planProjection q.fields d, contains_id_shown q.fields d⟩
  refine ⟨fun outside row member => Bool.eq_false_iff.mpr fun present => ?_, left, served.piped, each⟩
  obtain ⟨d, _, _, contained⟩ := each row member
  obtain ⟨field, listed, reaches, _⟩ := contained.mp present
  exact outside field listed reaches

/-- Two accounts, one of which has a document for its identifier. Behind a pipeline or not, asking for
the identifier shows none, and asking for its region shows the one that there is. -/
theorem id_of_row_accounts :
    let accounts : Store := ⟨[("accounts",
      [[("_id", .document [("region", .string "eu"), ("number", .int32 7)]), ("name", .string "Acme")],
        [("_id", .int32 8), ("name", .string "Globex")]])], ⟨0⟩⟩
    let named : Query := { (default : Query) with table := "accounts", fields := ["_id", "name"] }
    let piped : Query := { named with pipeline := [.single "$match" (.document [])] }
    let regions : Query := { named with fields := ["name", "_id.region"] }
    (∃ page, (accounts.source.execute none false named).2 = .done page ∧
      ∀ row ∈ page.rows, row.contains idKey = false) ∧
    (∃ page, (accounts.source.execute none false piped).2 = .done page ∧
      ∀ row ∈ page.rows, row.contains idKey = false) ∧
    ∃ page, (accounts.source.execute none false regions).2 = .done page ∧
      page.rows.map (·.contains idKey) = [true, false] ∧
      ∀ row ∈ page.rows, ∃ d ∈ accounts.documents "accounts",
        project d (planProjection regions.fields) = .ok row ∧
          (row.contains idKey = true ↔
            ∃ field ∈ regions.fields, IsInsideId field ∧ (d.lookup field).isSome) := by
  intro accounts named piped regions
  have outside : ∀ field ∈ named.fields, ¬IsInsideId field := by
    refine List.forall_mem_cons.mpr ⟨fun inside => inside.1 rfl,
      List.forall_mem_singleton.mpr fun inside => ?_⟩
    exact absurd inside.2 (by decide)
  obtain ⟨left, leaves, rows⟩ := (id_of_row accounts none false regions _ rfl).2
  cases leaves
  exact ⟨⟨_, rfl, (id_of_row accounts none false named _ rfl).1 outside⟩,
    ⟨_, rfl, (id_of_row accounts none false piped _ rfl).1 outside⟩, _, rfl, rfl, rows⟩

/-- An identifier reaches a row where a query asks for a part of it. -/
theorem id_shown_by_part :
    ¬∀ (s : Store) (q : Query) (page : Page), q.validate = .ok () →
      (s.source.execute none false q).2 = .done page →
      ∀ row ∈ page.rows, row.contains idKey = false := by
  intro never
  let accounts : Store := ⟨[("accounts",
    [[("_id", .document [("region", .string "eu"), ("number", .int32 7)]), ("name", .string "Acme")]])],
    ⟨0⟩⟩
  let q : Query := { (default : Query) with table := "accounts", fields := ["name", "_id.region"] }
  have page : (accounts.source.execute none false q).2 =
      .done ⟨[[("name", .string "Acme"), ("_id", .document [("region", .string "eu")])]], 1, 1⟩ := rfl
  exact absurd (never accounts q _ rfl page _ List.mem_cons_self) (by decide)

end DocTable
