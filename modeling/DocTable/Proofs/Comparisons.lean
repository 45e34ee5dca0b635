/-
**Comparisons in filters.**

A filter compares what stands at its field with an operand; an array passes if one of its items does. The
comparison of two numbers that cannot be compared, one of which is a NaN, counts as a tie, although they
are not equal. So a NaN is at least and at most every number, and what is known of numbers otherwise
(nothing is at least one bound and at most a smaller one, a tie is an equality) holds up to NaNs.

* `Value.between_iff`: what lies between two bounds of which the lower one is above the upper one;
* `inverted_range_admits`: the documents that such a range accepts;
* `Value.compare?_eq_iff`: a value ties with an operand if it equals it, or one of them is a NaN;
* `comparisons_admit`: `$gte` and `$lte` against `$gt`, `$lt` and `$eq`.
-/

import DocTable.Proofs.Filtering
import DocTable.Proofs.Order
import DocTable.Regex.Room

namespace DocTable

namespace Value

/-! ### Numbers and other values -/

/-- What is no number is no integer. -/
theorem toInt?_eq_none {v : Value} (other : v.toDouble? = none) : v.toInt? = none := by
  cases whole : v.toInt? with
  | none => rfl
  | some n => cases (toDouble?_of_toInt? whole).symm.trans other

section Numbers

variable {u v : Value}

theorem equals_of_toInt? {m n : Int} (left : u.toInt? = some m) (right : v.toInt? = some n) :
    u.equals v = (m == n) := by
  simp [equals, left, right]

theorem equals_of_toDouble? {x y : Double} (left : u.toDouble? = some x) (right : v.toDouble? = some y)
    (mixed : u.toInt? = none ∨ v.toInt? = none) : u.equals v = x.equal y := by
  unfold equals
  rcases mixed with none | none
  · simp [none, left, right]
  · cases u.toInt? <;> simp [none, left, right]

/-- Unless both are numbers, values are equal as they are written. -/
theorem equals_of_other (other : u.toDouble? = none ∨ v.toDouble? = none) : u.equals v = u.same v := by
  have mixed : u.toInt? = none ∨ v.toInt? = none := other.imp toInt?_eq_none toInt?_eq_none
  unfold equals
  rcases mixed with whole | whole <;> rcases other with none | none
  · simp [whole, none]
  · cases u.toDouble? <;> simp [whole, none]
  · cases u.toInt? <;> simp [whole, none]
  · cases u.toInt? <;> cases u.toDouble? <;> simp [whole, none]

end Numbers

/-- Values that are the same are of one kind. -/
theorem sortRank_of_same {u v : Value} (same : u.same v = true) : u.sortRank = v.sortRank := by
  unfold Value.same at same
  split at same
  all_goals first | rfl | cases same

/-- Equal values are of one kind. -/
theorem sortRank_of_equals {u v : Value} (equal : u.equals v = true) : u.sortRank = v.sortRank := by
  cases left : u.toDouble? with
  | none =>
    rw [equals_of_other (Or.inl left)] at equal
    exact sortRank_of_same equal
  | some x =>
    cases right : v.toDouble? with
    | none =>
      rw [equals_of_other (Or.inr right)] at equal
      exact sortRank_of_same equal
    | some y => rw [sortRank_of_toDouble? left, sortRank_of_toDouble? right]

/-! ### Values and bounds -/

/-- Numbers can be compared. -/
theorem exists_compare? {u v : Value} (left : u.sortRank = 1) (right : v.sortRank = 1) :
    ∃ order, u.compare? v = some order := by
  obtain ⟨x, first⟩ := exists_toDouble? left
  obtain ⟨y, second⟩ := exists_toDouble? right
  rcases integers_or_mixed u v with ⟨m, n, whole, other⟩ | mixed
  · exact ⟨_, compare?_of_toInt? whole other⟩
  · exact ⟨_, compare?_of_toDouble? first second mixed⟩

/-- Values that can be compared are of one kind. -/
theorem sortRank_of_compare? {u v : Value} {order : Ordering} (compared : u.compare? v = some order) :
    u.sortRank = v.sortRank := by
  unfold compare? at compared
  split at compared
  · next whole other =>
    rw [sortRank_of_toDouble? (toDouble?_of_toInt? whole),
      sortRank_of_toDouble? (toDouble?_of_toInt? other)]
  · split at compared
    · next first second => rw [sortRank_of_toDouble? first, sortRank_of_toDouble? second]
    · split at compared
      all_goals first | rfl | cases compared

section Bounds

variable {bound : Value} (number : bound.sortRank = 1) (v : Value)

include number

/-- At least a number are the numbers that are not in front of it. -/
theorem atLeast_iff :
    v.AtLeast bound ↔ v.sortRank = 1 ∧ sortCompare (some bound) (some v) ≠ .gt := by
  constructor
  · rintro ⟨order, compared, above⟩
    have same := sortRank_of_compare? compared
    refine ⟨same.trans number, ?_⟩
    rw [sortCompare_swap (some v), sortCompare_of_rank_eq same, compared]
    intro behind
    exact above (Ordering.swap_inj.mp behind)
  · rintro ⟨other, before⟩
    obtain ⟨order, compared⟩ := exists_compare? other number
    refine ⟨order, compared, ?_⟩
    rintro rfl
    rw [sortCompare_swap (some v), sortCompare_of_rank_eq (other.trans number.symm), compared] at before
    exact before rfl

/-- At most a number are the numbers that are not behind it. -/
theorem atMost_iff : v.AtMost bound ↔ v.sortRank = 1 ∧ sortCompare (some v) (some bound) ≠ .gt := by
  constructor
  · rintro ⟨order, compared, below⟩
    have same := sortRank_of_compare? compared
    refine ⟨same.trans number, ?_⟩
    rw [sortCompare_of_rank_eq same, compared]
    exact below
  · rintro ⟨other, before⟩
    obtain ⟨order, compared⟩ := exists_compare? other number
    refine ⟨order, compared, ?_⟩
    rw [sortCompare_of_rank_eq (other.trans number.symm), compared] at before
    exact before

end Bounds

/-- **Between two bounds that are turned around** there are only doubles that hide it: NaNs, and doubles
to which both bounds round. -/
theorem between_iff {min max : Value} (left : min.sortRank = 1) (right : max.sortRank = 1)
    (turned : sortCompare (some min) (some max) = .gt) (v : Value) :
    v.AtLeast min ∧ v.AtMost max ↔ ∃ x, v = .double x ∧ x.Hides min max := by
  rw [atLeast_iff left, atMost_iff right]
  constructor
  · rintro ⟨⟨_, above⟩, _, below⟩
    obtain ⟨_, x, _, first, middle, last, _, _, hides⟩ := exists_hiding above below turned
    cases first
    cases last
    exact ⟨x, Option.some.inj middle, hides⟩
  · rintro ⟨x, rfl, hides⟩
    obtain ⟨above, below⟩ := sortCompare_of_hides left right hides
    exact ⟨⟨rfl, by simp [above]⟩, rfl, by simp [below]⟩

theorem not_atLeast_array (items : List Value) {bound : Value} (number : bound.sortRank = 1) :
    ¬(Value.array items).AtLeast bound := by
  simp [atLeast_iff number, sortRank]

theorem not_atMost_array (items : List Value) {bound : Value} (number : bound.sortRank = 1) :
    ¬(Value.array items).AtMost bound := by
  simp [atMost_iff number, sortRank]

end Value

/-! ### Ranges that are turned around -/

/-- A range whose lower bound is above its upper one, with both bounds. -/
inductive FilterValue.Inverted : FilterValue → Value → Value → Prop where
  | ints {min max : Int64} (down : max < min) :
      Inverted (.intRange min max) (.int64 min) (.int64 max)
  | floats {min max : Double} (down : min.compare? max = some .gt) :
      Inverted (.floatRange min max) (.double min) (.double max)

namespace FilterValue.Inverted

variable {range : FilterValue} {min max : Value} (inverted : range.Inverted min max)

include inverted

/-- Its bounds are numbers, the first behind the second. -/
theorem bounds : min.sortRank = 1 ∧ max.sortRank = 1 ∧ sortCompare (some min) (some max) = .gt := by
  cases inverted with
  | ints down =>
    refine ⟨rfl, rfl, ?_⟩
    rw [sortCompare_of_toInt? rfl rfl, Int.compare_eq_gt]
    exact Int64.lt_iff_toInt_lt.mp down
  | floats down =>
    refine ⟨rfl, rfl, ?_⟩
    rw [sortCompare_of_toDouble? rfl rfl (Or.inl rfl), down]
    rfl

/-- It accepts what has something at least the one bound and something at most the other one. -/
theorem accepts_iff (d : Document) (path : String) :
    range.Accepts d path ↔ d.Offers path (·.AtLeast min) ∧ d.Offers path (·.AtMost max) := by
  cases inverted with
  | ints => exact Iff.rfl
  | floats => exact Iff.rfl

end FilterValue.Inverted

/-- **A range that is turned around** is read on every plain field, and accepts two kinds of documents:
those with a double at the field that hides what is between the bounds, and those with an array at the
field of which some item is at least the lower bound and some item at most the upper one. -/
theorem inverted_range_admits [Regex.Compiler] {field : String}
    (plain : Condition.isOperator field = false)
    {range : FilterValue} {min max : Value} (inverted : range.Inverted min max) :
    ∃ c, Condition.ofDocument (compileClause field range) = .ok c ∧
      ∀ d, c.holds d = true ↔
        (∃ x, d.lookup field = some (.double x) ∧ x.Hides min max) ∨
          ∃ items, d.lookup field = some (.array items) ∧
            (∃ item ∈ items, item.AtLeast min) ∧ ∃ item ∈ items, item.AtMost max := by
  obtain ⟨left, right, turned⟩ := inverted.bounds
  refine ⟨_, ofDocument_compileClause plain range, fun d => ?_⟩
  rw [holds_asCondition_iff, inverted.accepts_iff]
  constructor
  · rintro ⟨⟨v, found, first⟩, w, same, second⟩
    cases same.symm.trans found
    rcases first with above | ⟨items, rfl, above⟩
    · rcases second with below | ⟨items, rfl, _⟩
      · obtain ⟨x, rfl, hides⟩ := (Value.between_iff left right turned v).mp ⟨above, below⟩
        exact Or.inl ⟨x, found, hides⟩
      · exact absurd above (Value.not_atLeast_array items left)
    · rcases second with below | ⟨others, array, below⟩
      · exact absurd below (Value.not_atMost_array items right)
      · cases array
        exact Or.inr ⟨items, found, above, below⟩
  · rintro (⟨x, found, hides⟩ | ⟨items, found, above, below⟩)
    · obtain ⟨above, below⟩ := (Value.between_iff left right turned (.double x)).mpr ⟨x, rfl, hides⟩
      exact ⟨⟨_, found, Or.inl above⟩, _, found, Or.inl below⟩
    · exact ⟨⟨_, found, Or.inr ⟨items, rfl, above⟩⟩, _, found, Or.inr ⟨items, rfl, below⟩⟩

/-- A range from thirty down to eighteen accepts the ages ten and forty together, and no age between. -/
theorem inverted_range_admits_ages :
    Condition.isOperator "age" = false ∧
      (FilterValue.intRange 30 18).Inverted (.int64 30) (.int64 18) ∧
      ∃ c, Condition.ofDocument (compileClause "age" (.intRange 30 18)) = .ok c ∧
        c.holds [("age", .array [.int32 10, .int32 40])] = true ∧ c.holds [("age", .int32 25)] = false := by
  have plain : Condition.isOperator "age" = false := by decide
  have inverted : (FilterValue.intRange 30 18).Inverted (.int64 30) (.int64 18) := .ints (by decide)
  obtain ⟨c, read, accepted⟩ := inverted_range_admits plain inverted
  refine ⟨plain, inverted, c, read, ?_, ?_⟩
  · refine (accepted _).mpr (Or.inr ⟨_, rfl, ⟨.int32 40, by simp, ?_⟩, .int32 10, by simp, ?_⟩)
    · exact ⟨.gt, by decide, by decide⟩
    · exact ⟨.lt, by decide, by decide⟩
  · have found : Document.lookup [("age", .int32 25)] "age" = some (.int32 25) := rfl
    rw [Bool.eq_false_iff, ne_eq, accepted, found]
    simp

/-- A range that is turned around may accept an array with an item on either side, a NaN, and a double to
which both of its bounds round. -/
theorem inverted_range_met :
    ¬(∀ (field : String) (range : FilterValue) (min max : Value) (d : Document),
        Condition.isOperator field = false → range.Inverted min max →
          ¬(compileClause field range).Admits d) ∧
      (compileClause "age" (.intRange 30 18)).Admits [("age", .array [.int32 10, .int32 40])] ∧
      (compileClause "age" (.intRange 30 18)).Admits [("age", .double .nan)] ∧
      (compileClause "size" (.intRange 9007199254740993 9007199254740992)).Admits
        [("size", .double ⟨0x4340000000000000⟩)] := by
  have array : (compileClause "age" (.intRange 30 18)).Admits [("age", .array [.int32 10, .int32 40])] :=
    ⟨_, ofDocument_compileClause (by decide) _, by decide +kernel⟩
  refine ⟨fun never => ?_, array, ?_, ?_⟩
  · exact never "age" (.intRange 30 18) _ _ _ (by decide) (.ints (by decide)) array
  · exact ⟨_, ofDocument_compileClause (by decide) _, by decide +kernel⟩
  · exact ⟨_, ofDocument_compileClause (by decide) _, by decide +kernel⟩

/-! ### Comparing and equality -/

/-- The kinds of values that filters compare with. -/
def Value.isOrdered : Value → Bool
  | .int32 _ | .int64 _ | .double _ | .string _ | .bool _ | .dateTime _ => true
  | _ => false

/-- Two numbers that cannot be compared: one of them is a NaN. -/
def Value.Unordered (v w : Value) : Prop :=
  ∃ x y, v.toDouble? = some x ∧ w.toDouble? = some y ∧ (x.isNaN = true ∨ y.isNaN = true)

namespace Value

theorem compareText_eq_iff (s t : String) : compareText s t = .eq ↔ s = t := by
  unfold compareText compareOfLessAndEq
  by_cases same : s = t
  · simp [same]
  · simp only [same, if_false, iff_false]
    split <;> exact Ordering.noConfusion

theorem compareBool_eq_iff (p q : Bool) : compareBool p q = .eq ↔ p = q := by
  cases p <;> cases q <;> simp [compareBool]

/-- Two numbers tie if they are equal or cannot be compared. -/
theorem compare?_eq_iff_of_numbers {v w : Value} {x y : Double} (left : v.toDouble? = some x)
    (right : w.toDouble? = some y) :
    v.compare? w = some .eq ↔ v.equals w = true ∨ v.Unordered w := by
  have unordered : v.Unordered w ↔ x.isNaN = true ∨ y.isNaN = true := by
    simp [Unordered, left, right]
  rw [unordered]
  rcases integers_or_mixed v w with ⟨m, n, whole, other⟩ | mixed
  · cases (toDouble?_of_toInt? whole).symm.trans left
    cases (toDouble?_of_toInt? other).symm.trans right
    rw [compare?_of_toInt? whole other, equals_of_toInt? whole other]
    simp [Double.isNaN_ofInt]
  · rw [compare?_of_toDouble? left right mixed, equals_of_toDouble? left right mixed]
    unfold Double.compare? Double.equal
    cases x.isNaN <;> cases y.isNaN <;> simp

/-- **A tie** with a value of an ordered kind is equality, or there is a NaN. -/
theorem compare?_eq_iff (v : Value) {operand : Value} (ordered : operand.isOrdered = true) :
    v.compare? operand = some .eq ↔ v.equals operand = true ∨ v.Unordered operand := by
  by_cases same : v.sortRank = operand.sortRank
  · by_cases number : operand.sortRank = 1
    · obtain ⟨x, left⟩ := exists_toDouble? (same.trans number)
      obtain ⟨y, right⟩ := exists_toDouble? number
      exact compare?_eq_iff_of_numbers left right
    · have unordered : ¬v.Unordered operand := by
        rintro ⟨_, _, _, right, _⟩
        exact number (sortRank_of_toDouble? right)
      rw [or_iff_left unordered]
      cases operand
      case string t =>
        cases v
        case string s => simp [compare?, equals, toInt?, toDouble?, Value.same, compareText_eq_iff]
        all_goals cases same
      case bool q =>
        cases v
        case bool p => simp [compare?, equals, toInt?, toDouble?, Value.same, compareBool_eq_iff]
        all_goals cases same
      case dateTime n =>
        cases v
        case dateTime m => simp [compare?, equals, toInt?, toDouble?, Value.same, Int64.toInt_inj]
        all_goals cases same
      case int32 | int64 | double => exact absurd rfl number
      all_goals cases ordered
  · refine iff_of_false (fun tie => same (sortRank_of_compare? tie)) ?_
    rintro (equal | ⟨_, _, left, right, _⟩)
    · exact same (sortRank_of_equals equal)
    · exact same ((sortRank_of_toDouble? left).trans (sortRank_of_toDouble? right).symm)

end Value

/-- The filter that compares a field with an operand. -/
def Document.comparing (field operator : String) (operand : Value) : Document :=
  .single field (.document [(operator, operand)])

/-- The key of a comparison in a filter. -/
def Comparison.operator : Comparison → String
  | .greater => "$gt"
  | .atLeast => "$gte"
  | .less => "$lt"
  | .atMost => "$lte"

section Operators

variable [Regex.Compiler] {field : String} (operand : Value) (d : Document)

/-- A comparison with a plain field is read. -/
theorem ofDocument_comparing (plain : Condition.isOperator field = false) (c : Comparison) :
    Condition.ofDocument (.comparing field c.operator operand) = .ok (.compared c field operand) := by
  unfold Document.comparing
  rw [Condition.ofDocument_single_field plain]
  cases c <;> rfl

theorem ofDocument_equal (plain : Condition.isOperator field = false) :
    Condition.ofDocument (.comparing field "$eq" operand) = .ok (.equal field operand) := by
  unfold Document.comparing
  rw [Condition.ofDocument_single_field plain]
  rfl

/-- A field with the name of an operator is not compared. -/
theorem not_read_comparing (reserved : Condition.isOperator field = true) (operator : String) :
    ¬∃ c, Condition.ofDocument (.comparing field operator operand) = .ok c := by
  rintro ⟨c, read⟩
  have single (items : List Value) : Value.document [(operator, operand)] ≠ .array items :=
    Value.noConfusion
  obtain ⟨fault, refused⟩ := Condition.ofDocument_operator_field reserved single
  cases read.symm.trans refused

theorem not_admits_comparing (reserved : Condition.isOperator field = true) (operator : String) :
    ¬(Document.comparing field operator operand).Admits d := by
  rintro ⟨c, read, _⟩
  exact not_read_comparing operand reserved operator ⟨c, read⟩

/-- **A comparison** is met by what compares that way. -/
theorem admits_comparing_iff (plain : Condition.isOperator field = false) (c : Comparison) :
    (Document.comparing field c.operator operand).Admits d ↔
      d.Offers field fun v => ∃ order, v.compare? operand = some order ∧ c.accepts order = true := by
  rw [admits_iff (ofDocument_comparing operand plain c)]
  show testFound (d.lookup field) (c.test operand) = true ↔ _
  rw [testFound_iff]
  apply d.offers_congr
  intro v
  unfold Comparison.test
  cases v.compare? operand <;> simp

variable {operand} (ordered : operand.isOrdered = true)

include ordered

/-- **Equality** with an operand of an ordered kind is met by what equals it. -/
theorem admits_equal_iff (plain : Condition.isOperator field = false) :
    (Document.comparing field "$eq" operand).Admits d ↔ d.Offers field (·.equals operand = true) := by
  rw [admits_iff (ofDocument_equal operand plain)]
  apply holds_equal_iff
  · cases operand <;> first | rfl | cases ordered
  · cases operand <;> first | rfl | cases ordered

/-- A comparison that lets ties pass is met by what meets the strict one, by what equals the operand, and
by what cannot be compared with it. -/
theorem admits_loose_iff {loose strict : Comparison}
    (ties : ∀ order, loose.accepts order = true ↔ strict.accepts order = true ∨ order = .eq) :
    (Document.comparing field loose.operator operand).Admits d ↔
      (Document.comparing field strict.operator operand).Admits d ∨
        (Document.comparing field "$eq" operand).Admits d ∨
          (Condition.isOperator field = false ∧ d.Offers field (·.Unordered operand)) := by
  cases plain : Condition.isOperator field with
  | true => simp [not_admits_comparing operand d plain]
  | false =>
    rw [admits_comparing_iff operand d plain, admits_comparing_iff operand d plain,
      admits_equal_iff d ordered plain, and_iff_right rfl, ← Document.offers_or, ← Document.offers_or]
    apply d.offers_congr
    intro v
    rw [← Value.compare?_eq_iff v ordered]
    simp only [ties, and_or_left, exists_or]
    simp

end Operators

/-- **The comparison operators and equality.** All five are read on every plain field, and on no other
one. With an operand of an ordered kind, `$gte` is met by what meets `$gt` or `$eq`, and `$lte` by what
meets `$lt` or `$eq`; and both are also met by a number at the field that cannot be compared with the
operand, because one of the two is a NaN. -/
theorem comparisons_admit [Regex.Compiler] (field : String) {operand : Value}
    (ordered : operand.isOrdered = true) :
    (∀ operator ∈ ["$eq", "$gt", "$gte", "$lt", "$lte"],
      (∃ c, Condition.ofDocument (.comparing field operator operand) = .ok c) ↔
        Condition.isOperator field = false) ∧
    ∀ d : Document,
      ((Document.comparing field "$gte" operand).Admits d ↔
        (Document.comparing field "$gt" operand).Admits d ∨
          (Document.comparing field "$eq" operand).Admits d ∨
            (Condition.isOperator field = false ∧ d.Offers field (·.Unordered operand))) ∧
      ((Document.comparing field "$lte" operand).Admits d ↔
        (Document.comparing field "$lt" operand).Admits d ∨
          (Document.comparing field "$eq" operand).Admits d ∨
            (Condition.isOperator field = false ∧ d.Offers field (·.Unordered operand))) := by
  refine ⟨fun operator member => ?_, fun d => ⟨?_, ?_⟩⟩
  · cases plain : Condition.isOperator field with
    | true => exact iff_of_false (not_read_comparing operand plain operator) (by simp)
    | false =>
      refine iff_of_true ?_ rfl
      simp only [List.mem_cons, List.not_mem_nil, or_false] at member
      rcases member with rfl | rfl | rfl | rfl | rfl
      · exact ⟨_, ofDocument_equal operand plain⟩
      · exact ⟨_, ofDocument_comparing operand plain .greater⟩
      · exact ⟨_, ofDocument_comparing operand plain .atLeast⟩
      · exact ⟨_, ofDocument_comparing operand plain .less⟩
      · exact ⟨_, ofDocument_comparing operand plain .atMost⟩
  · have ties (order : Ordering) : Comparison.atLeast.accepts order = true ↔
        Comparison.greater.accepts order = true ∨ order = .eq := by
      cases order <;> simp [Comparison.accepts]
    exact @admits_loose_iff _ field operand d ordered .atLeast .greater ties
  · have ties (order : Ordering) : Comparison.atMost.accepts order = true ↔
        Comparison.less.accepts order = true ∨ order = .eq := by
      cases order <;> simp [Comparison.accepts]
    exact @admits_loose_iff _ field operand d ordered .atMost .less ties

/-- Scores with five as a double among them are at least the integer five, because they equal it. -/
theorem comparisons_admit_score :
    Value.isOrdered (.int64 5) = true ∧
      (Document.comparing "score" "$eq" (.int64 5)).Admits
        [("score", .array [.null, .double ⟨0x4014000000000000⟩])] ∧
      (Document.comparing "score" "$gte" (.int64 5)).Admits
        [("score", .array [.null, .double ⟨0x4014000000000000⟩])] := by
  have ordered : Value.isOrdered (.int64 5) = true := rfl
  have equal : (Document.comparing "score" "$eq" (.int64 5)).Admits
      [("score", .array [.null, .double ⟨0x4014000000000000⟩])] :=
    ⟨_, ofDocument_equal _ (by decide), by decide +kernel⟩
  obtain ⟨_, laws⟩ := comparisons_admit "score" ordered
  exact ⟨ordered, equal, (laws _).1.mpr (Or.inr (Or.inl equal))⟩

/-- A NaN is at least and at most five, but neither above five, nor below it, nor equal to it. -/
theorem nan_at_least_and_at_most :
    ¬(∀ (field : String) (operand : Value) (d : Document), operand.isOrdered = true →
        ((Document.comparing field "$gte" operand).Admits d ↔
          (Document.comparing field "$gt" operand).Admits d ∨
            (Document.comparing field "$eq" operand).Admits d)) ∧
      (Document.comparing "score" "$gte" (.int64 5)).Admits [("score", .double .nan)] ∧
      (Document.comparing "score" "$lte" (.int64 5)).Admits [("score", .double .nan)] ∧
      ∀ operator ∈ ["$gt", "$lt", "$eq"],
        ¬(Document.comparing "score" operator (.int64 5)).Admits [("score", .double .nan)] := by
  have plain : Condition.isOperator "score" = false := by decide
  have greater : ¬(Document.comparing "score" "$gt" (.int64 5)).Admits [("score", .double .nan)] :=
    mt (admits_iff (ofDocument_comparing _ plain .greater) _).mp (by decide +kernel)
  have less : ¬(Document.comparing "score" "$lt" (.int64 5)).Admits [("score", .double .nan)] :=
    mt (admits_iff (ofDocument_comparing _ plain .less) _).mp (by decide +kernel)
  have equal : ¬(Document.comparing "score" "$eq" (.int64 5)).Admits [("score", .double .nan)] :=
    mt (admits_iff (ofDocument_equal _ plain) _).mp (by decide +kernel)
  have atLeast : (Document.comparing "score" "$gte" (.int64 5)).Admits [("score", .double .nan)] :=
    ⟨_, ofDocument_comparing _ plain .atLeast, by decide +kernel⟩
  have atMost : (Document.comparing "score" "$lte" (.int64 5)).Admits [("score", .double .nan)] :=
    ⟨_, ofDocument_comparing _ plain .atMost, by decide +kernel⟩
  refine ⟨fun law => ?_, atLeast, atMost, ?_⟩
  · rcases (law "score" (.int64 5) _ rfl).mp atLeast with above | same
    · exact greater above
    · exact equal same
  · simp [greater, less, equal]

end DocTable
