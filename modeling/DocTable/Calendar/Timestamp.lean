/-
**Instants as texts.**

* `Moment.toUtc`: date and time joined by `T`, with three digits of milliseconds and a `Z`;
* `Moment.plain`: date, time and offset set apart by blanks;
* `readMillis?`: a date and a time with an offset, as milliseconds since the start of 1970.
-/

import DocTable.Calendar.Basic
import DocTable.Calendar.Digits
import DocTable.Number.Decimal

namespace DocTable.Calendar

def Date.text (d : Date) : List Char :=
  yearText d.year ++ '-' :: zeroPadded 2 d.month ++ '-' :: zeroPadded 2 d.day

def Moment.clockText (m : Moment) : List Char :=
  zeroPadded 2 m.hour ++ ':' :: zeroPadded 2 m.minute ++ ':' :: zeroPadded 2 m.second

/-- The form `2023-11-14T22:13:20.123Z`. -/
def Moment.toUtc (m : Moment) : String :=
  String.ofList (m.date.text ++ 'T' :: m.clockText ++ '.' :: zeroPadded 3 m.milli ++ ['Z'])

/-- The form `2023-11-14 22:13:20.5 +00:00:00`: the hour is not padded and the fraction has no
zeros at its end, but one digit at least. -/
def Moment.plain (m : Moment) : String :=
  let sign := if m.date.year < 0 then ['-'] else []
  let date := zeroPadded 4 m.date.year.natAbs ++ '-' :: zeroPadded 2 m.date.month
    ++ '-' :: zeroPadded 2 m.date.day
  let clock := (toString m.hour).toList ++ ':' :: zeroPadded 2 m.minute
    ++ ':' :: zeroPadded 2 m.second
  let fraction :=
    if m.milli % 100 = 0 then toString (m.milli / 100)
    else if m.milli % 10 = 0 then String.ofList (zeroPadded 2 (m.milli / 10))
    else String.ofList (zeroPadded 3 m.milli)
  String.ofList (sign ++ date ++ ' ' :: clock ++ '.' :: fraction.toList ++ " +00:00:00".toList)

/-- Exactly `width` digits. -/
def takeNumber? (width : Nat) (chars : List Char) : Option (Nat × List Char) :=
  let digits := chars.take width
  if digits.length = width ∧ digits.all Char.isDigit then
    some (digitsValue digits, chars.drop width)
  else none

/-- The given character. -/
def takeChar? (expected : Char) : List Char → Option (List Char)
  | c :: rest => if c = expected then some rest else none
  | [] => none

/-- The nanoseconds of a fraction of a second; digits past the ninth count nothing. -/
def takeFraction? : List Char → Option (Nat × List Char)
  | '.' :: rest =>
    let digits := rest.takeWhile Char.isDigit
    if digits = [] then none
    else
      let nine := (digits ++ List.replicate 9 '0').take 9
      some (digitsValue nine, rest.dropWhile Char.isDigit)
  | rest => some (0, rest)

/-- The seconds by which local time is ahead, at most 25 hours and 59 minutes either way. -/
def takeOffset? : List Char → Option (Int × List Char)
  | 'Z' :: rest => some (0, rest)
  | 'z' :: rest => some (0, rest)
  | sign :: rest => do
    let factor : Int ← if sign = '+' then some 1 else if sign = '-' then some (-1) else none
    let (hours, rest) ← takeNumber? 2 rest
    let rest ← takeChar? ':' rest
    let (minutes, rest) ← takeNumber? 2 rest
    if hours ≤ 25 ∧ minutes ≤ 59 then some (factor * (hours * 3600 + minutes * 60), rest) else none
  | [] => none

/-- The milliseconds of a date and time such as `2023-11-14T22:13:20.5+02:00`. Any one character of
ASCII may stand between the two. A leap second is the last second of a month in universal time and
counts as the end of the second before it. Fractions of a millisecond are cut off towards 1970. -/
def readMillis? (s : String) : Option Int := do
  let (year, rest) ← takeNumber? 4 s.toList
  let rest ← takeChar? '-' rest
  let (month, rest) ← takeNumber? 2 rest
  let rest ← takeChar? '-' rest
  let (day, rest) ← takeNumber? 2 rest
  let rest ← match rest with
    | c :: more => if c.toNat < 128 then some more else none
    | [] => none
  let (hour, rest) ← takeNumber? 2 rest
  let rest ← takeChar? ':' rest
  let (minute, rest) ← takeNumber? 2 rest
  let rest ← takeChar? ':' rest
  let (second, rest) ← takeNumber? 2 rest
  let (nanos, rest) ← takeFraction? rest
  let (offset, rest) ← takeOffset? rest
  let date : Date := ⟨year, month, day⟩
  let leap := second = 60
  if rest = [] ∧ date.isValid ∧ hour ≤ 23 ∧ minute ≤ 59 ∧ second ≤ 60 then
    let wholeSecond := if leap then 59 else second
    let nano := if leap then 999999999 else nanos
    let unix := date.toDays * 86400 + hour * 3600 + minute * 60 + wholeSecond - offset
    let utc := Moment.ofMillis (unix * 1000)
    let endOfMonth := utc.hour = 23 ∧ utc.minute = 59 ∧ utc.second = 59
      ∧ utc.date.day = daysInMonth utc.date.year utc.date.month
    if leap ∧ ¬ endOfMonth then none
    else some ((unix * 1000000000 + nano).tdiv 1000000)
  else none

end DocTable.Calendar
