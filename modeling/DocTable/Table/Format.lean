/-
**Formats of columns.**

A formatted value is a document that holds the number it shows beside the text that shows it. A
value that a format is not made for stays as it is.

* `durationText`: seconds as hours, minutes and seconds;
* `Format.apply`: a value in a format;
* `Format.toJson`, `Format.ofJson?`: formats as JSON.
-/

import DocTable.Calendar.Layout
import DocTable.Json.Reader
import DocTable.Value.Basic

namespace DocTable

/-- How the values of a column are shown. -/
inductive Format where
  /-- An instant, or seconds since the start of 1970, in a layout. -/
  | date (layout : String)
  /-- Seconds as a length of time. -/
  | duration
deriving DecidableEq, Repr

/-- The key of the text in a formatted value. -/
def formattedKey : String := "formatted"

/-- Seconds in hours, minutes and seconds, all rounded towards zero and each with its sign. -/
def durationText (seconds : Int) : String :=
  toString (seconds.tdiv 3600) ++ "h " ++ toString ((seconds.tmod 3600).tdiv 60) ++ "m "
    ++ toString (seconds.tmod 60) ++ "s"

/-- The value of a whole number. -/
def Value.wholeNumber? : Value → Option Int64
  | .int32 n => some n.toInt64
  | .int64 n => some n
  | _ => none

/-- A formatted instant. -/
def dateCell (unix : Int64) (text : String) : Value :=
  .document [("unix", .int64 unix), (formattedKey, .string text)]

/-- A formatted length of time. -/
def durationCell (seconds : Int64) : Value :=
  .document [("seconds", .int64 seconds), (formattedKey, .string (durationText seconds.toInt))]

/-- The milliseconds of an instant, or of seconds, which stop at the ends of 64 bits. -/
def Value.instantMillis? : Value → Option Int
  | .dateTime millis => some millis.toInt
  | v => v.wholeNumber?.map fun seconds =>
    max (-2 ^ 63) (min (2 ^ 63 - 1) (seconds.toInt * 1000))

/-- The formatted value of milliseconds, if the calendar reaches so far and the layout is in order.
The start of 1970 stands for no date at all. -/
def dateCellOf? (layout : String) (millis : Int) : Option Value :=
  if millis = 0 then some (dateCell 0 "N/A")
  else do
    let moment ← Calendar.Moment.ofMillis? millis
    let text ← Calendar.layOut? layout moment
    return dateCell (Int64.ofInt moment.unix) text

namespace Format

/-- Whether the layout of a date is in order. -/
def isValid : Format → Bool
  | .date layout => Calendar.isWellFormed layout
  | .duration => true

/-- A value in a format. -/
def apply (f : Format) (v : Value) : Value :=
  match f with
  | .date layout => (v.instantMillis?.bind (dateCellOf? layout)).getD v
  | .duration => (v.wholeNumber?.map durationCell).getD v

def toJson : Format → Json
  | .date layout => .object [("kind", .string "date"), ("format", .string layout)]
  | .duration => .object [("kind", .string "duration")]

/-- The members of an object that are not its kind, all of them readable. -/
def detailsOfJson? (room : Nat) (members : List (String × Json)) :
    Option (List (String × Json)) :=
  let details := members.filter fun member => member.1 ≠ "kind"
  if details.all (·.2.isReadable room) then some details else none

/-- Reads an object with the kind and, for a date, the layout, or an array of the two. -/
def ofJson? : Json.Reader Format := fun room j =>
  match j with
  | .array [.string "duration"] => (Json.enter room).map fun _ => .duration
  | .array [.string "date", .string layout] => (Json.enter room).map fun _ => .date layout
  | .object members => do
    let parts ← Json.record ["kind"] room j
    let kind ← parts.required "kind" Json.text
    let details ← detailsOfJson? parts.room members
    match kind with
    | "date" =>
      let parts ← Json.record ["format"] room (.object details)
      return .date (← parts.required "format" Json.text)
    | "duration" => some .duration
    | _ => none
  | _ => none

end Format

end DocTable
