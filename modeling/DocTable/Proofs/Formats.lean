/-
**Formatted values show the value.**

A format puts a number beside its text. The number is the whole value, at both ends of 64 bits too: the
milliseconds of seconds stop at the ends, but what lies there is beyond the calendar and has no text at all.

* `dateText?`: the text of a date, if there is one;
* `Format.date_apply`: dates, which stay as they are without a text;
* `durationText_eq`: hours, minutes and seconds have one sign and add up;
* `durationText_injective`: a text of a length of time is read back;
* `apply_shows`: all of it together.
-/

import DocTable.Proofs.ValueText
import DocTable.Proofs.WholeNumbers
import DocTable.Table.Format
import DocTable.Value.Order

namespace DocTable

/-- A formatted value: a number at a key, beside a text. -/
def Value.Shows (v : Value) (key : String) (n : Int) (text : String) : Prop :=
  ∃ number : Int64, number.toInt = n ∧
    v = .document [(key, .int64 number), (formattedKey, .string text)]

/-- The number of an integer value, in 64 bits. -/
theorem Value.exists_wholeNumber? {v : Value} {n : Int} (integer : v.toInt? = some n) :
    ∃ number : Int64, v.wholeNumber? = some number ∧ number.toInt = n := by
  cases v with
  | int32 m =>
    cases integer
    exact ⟨m.toInt64, rfl, Int32.toInt_toInt64 m⟩
  | int64 m =>
    cases integer
    exact ⟨m, rfl, rfl⟩
  | _ => cases integer

/-! ### Dates -/

/-- The text of milliseconds in a layout, if the calendar reaches so far and the layout is in order. -/
def dateText? (layout : String) (millis : Int) : Option String :=
  if millis = 0 then some "N/A"
  else (Calendar.Moment.ofMillis? millis).bind (Calendar.layOut? layout)

/-- A date is its seconds, rounded down, and its text. -/
theorem dateCellOf?_eq (layout : String) (millis : Int) :
    dateCellOf? layout millis =
      (dateText? layout millis).map (dateCell (Int64.ofInt (millis.fdiv 1000))) := by
  unfold dateCellOf? dateText?
  by_cases start : millis = 0
  · rw [if_pos start, if_pos start, start]
    rfl
  rw [if_neg start, if_neg start]
  unfold Calendar.Moment.ofMillis?
  by_cases reach : Calendar.firstMillis ≤ millis ∧ millis ≤ Calendar.lastMillis
  · rw [if_pos reach]
    show (Calendar.layOut? layout (Calendar.Moment.ofMillis millis)).bind _ = Option.map _
      (Calendar.layOut? layout (Calendar.Moment.ofMillis millis))
    cases Calendar.layOut? layout (Calendar.Moment.ofMillis millis) <;> rfl
  · rw [if_neg reach]
    rfl

/-- Only the calendar's years have texts. -/
theorem reach_of_dateText? {layout text : String} {millis : Int}
    (found : dateText? layout millis = some text) :
    Calendar.firstMillis ≤ millis ∧ millis ≤ Calendar.lastMillis := by
  unfold dateText? Calendar.Moment.ofMillis? at found
  by_cases start : millis = 0
  · rw [start]
    decide
  by_cases reach : Calendar.firstMillis ≤ millis ∧ millis ≤ Calendar.lastMillis
  · exact reach
  · rw [if_neg start, if_neg reach] at found
    cases found

/-- Milliseconds that stop at the ends of 64 bits. -/
def saturate (millis : Int) : Int := max (-2 ^ 63) (min (2 ^ 63 - 1) millis)

theorem saturate_eq {millis : Int} (low : -2 ^ 63 ≤ millis) (high : millis < 2 ^ 63) :
    saturate millis = millis := by
  unfold saturate
  omega

/-- What has stopped at an end has no text, as it had none before. -/
theorem dateText?_saturate (layout : String) (millis : Int) :
    dateText? layout (saturate millis) = dateText? layout millis := by
  by_cases inside : -2 ^ 63 ≤ millis ∧ millis < 2 ^ 63
  · rw [saturate_eq inside.1 inside.2]
  have beyond {far : Int} (outside : far < Calendar.firstMillis ∨ Calendar.lastMillis < far) :
      dateText? layout far = none := by
    refine Option.eq_none_iff_forall_ne_some.mpr fun text found => ?_
    have reach := reach_of_dateText? found
    omega
  rw [beyond, beyond]
  · unfold Calendar.firstMillis Calendar.lastMillis
    omega
  · unfold saturate Calendar.firstMillis Calendar.lastMillis
    omega

/-- **A date** shows its seconds, rounded down, beside its text, or stays as it is if it has none. -/
theorem Format.date_apply (layout : String) {v : Value} {millis : Int}
    (instant : v.instantMillis? = some (saturate millis)) :
    (dateText? layout millis = none ∧ (Format.date layout).apply v = v) ∨
      ∃ text, dateText? layout millis = some text ∧
        ((Format.date layout).apply v).Shows "unix" (millis / 1000) text := by
  have applied : (Format.date layout).apply v =
      ((dateText? layout millis).map
        (dateCell (Int64.ofInt ((saturate millis).fdiv 1000)))).getD v := by
    show (v.instantMillis?.bind (dateCellOf? layout)).getD v = _
    rw [instant, Option.bind_some, dateCellOf?_eq, dateText?_saturate]
  cases found : dateText? layout millis with
  | none =>
    rw [found] at applied
    exact Or.inl ⟨rfl, applied⟩
  | some text =>
    have reach := reach_of_dateText? found
    unfold Calendar.firstMillis Calendar.lastMillis at reach
    have seconds : (saturate millis).fdiv 1000 = millis / 1000 := by
      rw [saturate_eq (by omega) (by omega), Int.fdiv_eq_ediv_of_nonneg millis (by decide)]
    rw [found, seconds] at applied
    exact Or.inr ⟨text, rfl, Int64.ofInt (millis / 1000),
      Int64.toInt_ofInt_of_le (by omega) (by omega), applied⟩

/-! ### Lengths of time -/

/-- The parts of a length of time that is not negative. -/
theorem clock_of_nonneg {n : Int} (nonneg : 0 ≤ n) :
    n.tdiv 3600 = n / 3600 ∧ (n.tmod 3600).tdiv 60 = n % 3600 / 60 ∧ n.tmod 60 = n % 60 := by
  rw [Int.tdiv_eq_ediv_of_nonneg nonneg, Int.tmod_eq_emod_of_nonneg nonneg,
    Int.tmod_eq_emod_of_nonneg nonneg, Int.tdiv_eq_ediv_of_nonneg (by omega)]
  exact ⟨rfl, rfl, rfl⟩

/-- **Hours, minutes and seconds** have one sign, and make up the whole length. -/
theorem durationText_eq (n : Int) : ∃ h m s : Int,
    durationText n = toString h ++ "h " ++ toString m ++ "m " ++ toString s ++ "s" ∧
      3600 * h + 60 * m + s = n ∧ m.natAbs < 60 ∧ s.natAbs < 60 ∧
      ((0 ≤ h ∧ 0 ≤ m ∧ 0 ≤ s) ∨ (h ≤ 0 ∧ m ≤ 0 ∧ s ≤ 0)) := by
  refine ⟨n.tdiv 3600, (n.tmod 3600).tdiv 60, n.tmod 60, rfl, ?_⟩
  by_cases nonneg : 0 ≤ n
  · obtain ⟨hours, minutes, seconds⟩ := clock_of_nonneg nonneg
    omega
  · obtain ⟨hours, minutes, seconds⟩ := clock_of_nonneg (n := -n) (by omega)
    rw [Int.neg_tdiv] at hours
    rw [Int.neg_tmod, Int.neg_tdiv] at minutes
    rw [Int.neg_tmod] at seconds
    omega

/-- A whole number in front of a letter is read back. -/
theorem int_append {n k : Int} {back rest : List Char} (ends : Json.Ends back)
    (stops : Json.Ends rest) (same : (toString n).toList ++ back = (toString k).toList ++ rest) :
    n = k ∧ back = rest := by
  have numeral (n : Int) : ∀ c ∈ (toString n).toList, Json.isNumeral c = true := by
    cases written_int n with
    | number _ _ numeral => exact numeral
  obtain ⟨letters, tail⟩ := Json.numeral_append (numeral n) (numeral k) ends stops same
  exact ⟨toString_int_injective (String.toList_inj.mp letters), tail⟩

/-- **Different lengths of time** have different texts. -/
theorem durationText_injective {n k : Int} (same : durationText n = durationText k) : n = k := by
  obtain ⟨h, m, s, text, sum, _⟩ := durationText_eq n
  obtain ⟨i, j, t, other, total, _⟩ := durationText_eq k
  have letters (h m s : Int) :
      (toString h ++ "h " ++ toString m ++ "m " ++ toString s ++ "s").toList =
        (toString h).toList ++ 'h' :: ' ' :: ((toString m).toList ++ 'm' :: ' ' ::
          ((toString s).toList ++ ['s'])) := by
    simp [String.toList_append]
  have ends {c : Char} (letter : Json.isNumeral c = false) (rest : List Char) :
      Json.Ends (c :: rest) := by
    rintro _ ⟨⟩
    exact letter
  rw [text, other, ← String.toList_inj, letters, letters] at same
  obtain ⟨rfl, later⟩ := int_append (ends rfl _) (ends rfl _) same
  have minutes := (List.cons.inj (List.cons.inj later).2).2
  obtain ⟨rfl, last⟩ := int_append (ends rfl _) (ends rfl _) minutes
  have seconds := (List.cons.inj (List.cons.inj last).2).2
  obtain ⟨rfl, _⟩ := int_append (ends rfl _) (ends rfl _) seconds
  exact sum.symm.trans total

/-- **A length of time** shows its seconds beside their text. -/
theorem Format.duration_apply {v : Value} {n : Int} (integer : v.toInt? = some n) :
    (Format.duration.apply v).Shows "seconds" n (durationText n) := by
  obtain ⟨number, whole, rfl⟩ := Value.exists_wholeNumber? integer
  refine ⟨number, rfl, ?_⟩
  show (v.wholeNumber?.map durationCell).getD v = _
  rw [whole]
  rfl

/-! ### Both formats -/

/-- **Formatted values show the value.** Whole numbers and instants in a layout are shown by their exact
seconds, beside the text of that instant and no other, or stay as they are. Whole numbers as lengths of time
are shown by their exact seconds, beside parts of one sign that make them up and belong to no other length. -/
theorem apply_shows :
    (∀ layout v n, v.toInt? = some n →
        (dateText? layout (n * 1000) = none ∧ (Format.date layout).apply v = v) ∨
          ∃ text, dateText? layout (n * 1000) = some text ∧
            ((Format.date layout).apply v).Shows "unix" n text) ∧
      (∀ layout (millis : Int64),
        (dateText? layout millis.toInt = none ∧
            (Format.date layout).apply (.dateTime millis) = .dateTime millis) ∨
          ∃ text, dateText? layout millis.toInt = some text ∧
            ((Format.date layout).apply (.dateTime millis)).Shows "unix" (millis.toInt / 1000) text) ∧
      (∀ v n, v.toInt? = some n →
        (Format.duration.apply v).Shows "seconds" n (durationText n) ∧ ∃ h m s : Int,
          durationText n = toString h ++ "h " ++ toString m ++ "m " ++ toString s ++ "s" ∧
            3600 * h + 60 * m + s = n ∧ m.natAbs < 60 ∧ s.natAbs < 60 ∧
            ((0 ≤ h ∧ 0 ≤ m ∧ 0 ≤ s) ∨ (h ≤ 0 ∧ m ≤ 0 ∧ s ≤ 0))) ∧
      ∀ n k : Int, n ≠ k → durationText n ≠ durationText k := by
  refine ⟨fun layout v n integer => ?_, fun layout millis => ?_,
    fun v n integer => ⟨Format.duration_apply integer, durationText_eq n⟩,
    fun n k different same => different (durationText_injective same)⟩
  · obtain ⟨number, whole, rfl⟩ := Value.exists_wholeNumber? integer
    have instant : v.instantMillis? = some (saturate (number.toInt * 1000)) := by
      cases v with
      | int32 _ => cases whole; rfl
      | int64 _ => cases whole; rfl
      | _ => cases whole
    have shown := Format.date_apply layout instant
    rwa [Int.mul_ediv_cancel _ (by decide)] at shown
  · refine Format.date_apply layout ?_
    rw [saturate_eq millis.le_toInt millis.toInt_lt]
    rfl

theorem apply_shows_ends :
    (Format.date "%Y").apply (.int64 9223372036854775807) = .int64 9223372036854775807 ∧
      ((Format.date "%Y").apply (.int32 (-1))).Shows "unix" (-1) "1969" ∧
      ((Format.date "%S").apply (.dateTime (-1))).Shows "unix" (-1) "59" ∧
      (Format.duration.apply (.int64 (-9223372036854775808))).Shows "seconds" (-9223372036854775808)
        (durationText (-9223372036854775808)) ∧
      durationText 61 ≠ durationText (-61) := by
  obtain ⟨date, instant, duration, apart⟩ := apply_shows
  have far : dateText? "%Y" (9223372036854775807 * 1000) = none := by decide +kernel
  have year : dateText? "%Y" (-1 * 1000) = some "1969" := by decide +kernel
  have second : dateText? "%S" (-1) = some "59" := by decide +kernel
  refine ⟨?_, ?_, ?_, (duration (.int64 (-9223372036854775808)) _ rfl).1, apart 61 (-61) (by decide)⟩
  · obtain ⟨_, same⟩ | ⟨_, found, _⟩ := date "%Y" (.int64 9223372036854775807) _ rfl
    · exact same
    · cases far.symm.trans found
  · obtain ⟨none, _⟩ | ⟨_, found, shown⟩ := date "%Y" (.int32 (-1)) _ rfl
    · cases year.symm.trans none
    · cases year.symm.trans found
      exact shown
  · obtain ⟨none, _⟩ | ⟨_, found, shown⟩ := instant "%S" (-1)
    · cases second.symm.trans none
    · cases second.symm.trans found
      exact shown

end DocTable
