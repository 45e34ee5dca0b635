/-
**Dates laid out by a format with percent directives.**

A format is read into parts: text that stands for itself, numbers of the date and the clock, names,
and faults. A format with a fault lays out nothing.

* `Part.ofFormat`: the parts of a format;
* `isWellFormed`: no part is a fault;
* `layOut?`: the text of a moment.
-/

import DocTable.Calendar.Basic
import DocTable.Calendar.Digits

namespace DocTable.Calendar

/-- What fills the places in front of a number. -/
inductive Fill where
  | zeros
  | blanks
  | nothing
deriving DecidableEq, Repr

/-- The numbers of a moment. -/
inductive Number where
  | year | century | yearOfCentury
  | isoYear | isoYearOfCentury | isoWeekNumber
  | quarter | month | day | ordinal
  | sundayWeek | mondayWeek | weekdayFromSunday | weekdayFromMonday
  | hour | hourOfHalf | minute | second | nanosecond | unix
deriving DecidableEq, Repr

/-- The names and other texts of a moment. -/
inductive Wording where
  | shortMonth | longMonth | shortWeekday | longWeekday
  | lowerHalf | upperHalf
  /-- The fraction of a second with its point: as many digits as it needs, in groups of three. -/
  | fraction
  /-- The fraction of a second cut to some digits, with or without a point. -/
  | fixedFraction (digits : Nat) (point : Bool)
  | zone
  /-- The distance from universal time, which is none. -/
  | offset (text : String)
  | timestamp
deriving DecidableEq, Repr

/-- One part of a format. -/
inductive Part where
  | text (chars : List Char)
  | number (which : Number) (fill : Fill)
  | wording (which : Wording)
  /-- A directive that is understood but has no text. -/
  | silent
  | fault
deriving DecidableEq, Repr

/-- A number filled with zeros. -/
def Part.zeros (which : Number) : Part := .number which .zeros

def Part.clock : List Part :=
  [.zeros .hour, .text [':'], .zeros .minute, .text [':'], .zeros .second]

def Part.shortDate : List Part :=
  [.zeros .month, .text ['/'], .zeros .day, .text ['/'], .zeros .yearOfCentury]

/-- What a letter behind the percent sign stands for. -/
def Part.ofLetter (letter : Char) : List Part :=
  match letter with
  | 'A' => [.wording .longWeekday]
  | 'B' => [.wording .longMonth]
  | 'C' => [.zeros .century]
  | 'D' => shortDate
  | 'F' => [.zeros .year, .text ['-'], .zeros .month, .text ['-'], .zeros .day]
  | 'G' => [.zeros .isoYear]
  | 'H' => [.zeros .hour]
  | 'I' => [.zeros .hourOfHalf]
  | 'M' => [.zeros .minute]
  | 'P' => [.wording .lowerHalf]
  | 'R' => [.zeros .hour, .text [':'], .zeros .minute]
  | 'S' => [.zeros .second]
  | 'T' => clock
  | 'U' => [.zeros .sundayWeek]
  | 'V' => [.zeros .isoWeekNumber]
  | 'W' => [.zeros .mondayWeek]
  | 'X' => clock
  | 'Y' => [.zeros .year]
  | 'Z' => [.wording .zone]
  | 'a' => [.wording .shortWeekday]
  | 'b' => [.wording .shortMonth]
  | 'c' => [.wording .shortWeekday, .text [' '], .wording .shortMonth, .text [' '],
      .number .day .blanks, .text [' ']] ++ clock ++ [.text [' '], .zeros .year]
  | 'd' => [.zeros .day]
  | 'e' => [.number .day .blanks]
  | 'f' => [.zeros .nanosecond]
  | 'g' => [.zeros .isoYearOfCentury]
  | 'h' => [.wording .shortMonth]
  | 'j' => [.zeros .ordinal]
  | 'k' => [.number .hour .blanks]
  | 'l' => [.number .hourOfHalf .blanks]
  | 'm' => [.zeros .month]
  | 'n' => [.text ['\n']]
  | 'p' => [.wording .upperHalf]
  | 'q' => [.number .quarter .nothing]
  | 'r' => [.zeros .hourOfHalf, .text [':'], .zeros .minute, .text [':'], .zeros .second,
      .text [' '], .wording .upperHalf]
  | 's' => [.number .unix .nothing]
  | 't' => [.text ['\t']]
  | 'u' => [.number .weekdayFromMonday .nothing]
  | 'v' => [.number .day .blanks, .text ['-'], .wording .shortMonth, .text ['-'], .zeros .year]
  | 'w' => [.number .weekdayFromSunday .nothing]
  | 'x' => shortDate
  | 'y' => [.zeros .yearOfCentury]
  | 'z' => [.wording (.offset "+0000")]
  | '+' => [.wording .timestamp]
  | '%' => [.text ['%']]
  | _ => [.fault]

/-- The fill that a flag asks for. -/
def Fill.ofFlag? (flag : Char) : Option Fill :=
  match flag with
  | '-' => some .nothing
  | '0' => some .zeros
  | '_' => some .blanks
  | _ => none

/-- Another fill is possible for a single number only. -/
def Part.refill (fill : Fill) (parts : List Part) : List Part :=
  match parts with
  | [.number which _] => [.number which fill]
  | _ => [.fault]

/-- The number of digits that a fraction directive names. -/
def fractionWidth? (c : Char) : Option Nat :=
  match c with
  | '3' => some 3
  | '6' => some 6
  | '9' => some 9
  | _ => none

/-- A directive without flags, and how many of the characters behind the percent sign it takes. -/
def Part.ofDirective : List Char → List Part × Nat
  | [] => ([.fault], 0)
  | ':' :: ':' :: ':' :: 'z' :: _ => ([.wording (.offset "+00")], 4)
  | ':' :: ':' :: 'z' :: _ => ([.wording (.offset "+00:00:00")], 3)
  | ':' :: 'z' :: _ => ([.wording (.offset "+00:00")], 2)
  | '.' :: 'f' :: _ => ([.wording .fraction], 2)
  | '.' :: digit :: 'f' :: _ =>
    match fractionWidth? digit with
    | some width => ([.wording (.fixedFraction width true)], 3)
    | none => ([.fault], 3)
  | letter :: 'f' :: _ =>
    match fractionWidth? letter with
    | some width => ([.wording (.fixedFraction width false)], 2)
    | none => (ofLetter letter, 1)
  | letter :: _ => (ofLetter letter, 1)

/-- A directive with its flag, and how many characters behind the percent sign it takes. -/
def Part.ofFlagged : List Char → List Part × Nat
  | [] => ([.fault], 0)
  | flag :: rest =>
    match Fill.ofFlag? flag with
    | some fill => (refill fill (ofDirective rest).1, (ofDirective rest).2 + 1)
    | none =>
      if flag = '#' then
        match rest with
        | 'z' :: _ => ([.silent], 2)
        | _ => ([.fault], 1)
      else ofDirective (flag :: rest)

/-- The parts of a format; the counter is the number of characters that the directive before them
still covers. -/
def Part.ofFormatFrom : Nat → List Char → List Part
  | _, [] => []
  | covered + 1, _ :: rest => ofFormatFrom covered rest
  | 0, c :: rest =>
    if c = '%' then (ofFlagged rest).1 ++ ofFormatFrom (ofFlagged rest).2 rest
    else .text [c] :: ofFormatFrom 0 rest

def Part.ofFormat (format : String) : List Part := ofFormatFrom 0 format.toList

/-- Whether every directive of a format is known. -/
def isWellFormed (format : String) : Bool := (Part.ofFormat format).all (· != .fault)

def monthNames : List String :=
  ["January", "February", "March", "April", "May", "June", "July", "August", "September",
    "October", "November", "December"]

def weekdayNames : List String :=
  ["Sunday", "Monday", "Tuesday", "Wednesday", "Thursday", "Friday", "Saturday"]

/-- The fill in front of a number of some width. -/
def Fill.char? : Fill → Option Char
  | .zeros => some '0'
  | .blanks => some ' '
  | .nothing => none

/-- Two places. The value is taken modulo 256; where its tens exceed nine, the character that far
behind the zero stands for them. -/
def twoPlaces (fill : Fill) (value : Int) : List Char :=
  let byte := (value % 256).toNat
  let ones := Char.ofNat ('0'.toNat + byte % 10)
  if byte / 10 = 0 then
    match fill.char? with
    | some c => [c, ones]
    | none => [ones]
  else [Char.ofNat ('0'.toNat + byte / 10), ones]

/-- A signed number on at least `width` places; zeros stand behind the sign and blanks in front of
it. -/
def placed (fill : Fill) (width : Nat) (sign : List Char) (n : Nat) : List Char :=
  let digits := (toString n).toList
  let gap := width - (sign.length + digits.length)
  match fill with
  | .zeros => sign ++ List.replicate gap '0' ++ digits
  | .blanks => List.replicate gap ' ' ++ sign ++ digits
  | .nothing => sign ++ digits

def signed (fill : Fill) (width : Nat) (n : Int) : List Char :=
  placed fill width (if n < 0 then ['-'] else []) n.natAbs

/-- A year on four places; outside 0 to 9999 it has a sign and one place more. -/
def yearPlaces (fill : Fill) (year : Int) : List Char :=
  if 0 ≤ year ∧ year ≤ 9999 then placed fill 4 [] year.toNat
  else placed fill 5 [if year < 0 then '-' else '+'] year.natAbs

/-- The hour on a dial of twelve. -/
def hourOfHalf (hour : Nat) : Nat := if hour % 12 = 0 then 12 else hour % 12

/-- The text of a number. -/
def Number.text (m : Moment) (fill : Fill) : Number → List Char
  | .year => yearPlaces fill m.date.year
  | .century => twoPlaces fill (m.date.year.fdiv 100)
  | .yearOfCentury => twoPlaces fill (m.date.year.fmod 100)
  | .isoYear => yearPlaces fill (isoWeek m.days).1
  | .isoYearOfCentury => twoPlaces fill ((isoWeek m.days).1.fmod 100)
  | .isoWeekNumber => twoPlaces fill (isoWeek m.days).2
  | .quarter => (toString ((m.date.month - 1) / 3 + 1)).toList
  | .month => twoPlaces fill m.date.month
  | .day => twoPlaces fill m.date.day
  | .ordinal => signed fill 3 (Calendar.ordinal m.days)
  | .sundayWeek => twoPlaces fill (weeksBegun m.days (weekday m.days))
  | .mondayWeek => twoPlaces fill (weeksBegun m.days (isoWeekday m.days - 1))
  | .weekdayFromSunday => (toString (weekday m.days)).toList
  | .weekdayFromMonday => (toString (isoWeekday m.days)).toList
  | .hour => twoPlaces fill m.hour
  | .hourOfHalf => twoPlaces fill (Calendar.hourOfHalf m.hour)
  | .minute => twoPlaces fill m.minute
  | .second => twoPlaces fill m.second
  | .nanosecond => signed fill 9 (m.milli * 1000000 : Nat)
  | .unix => signed fill 9 m.unix

/-- The text of a name. -/
def Wording.text (m : Moment) : Wording → List Char
  | .shortMonth => ((monthNames[m.date.month - 1]?).getD "").toList.take 3
  | .longMonth => ((monthNames[m.date.month - 1]?).getD "").toList
  | .shortWeekday => ((weekdayNames[weekday m.days]?).getD "").toList.take 3
  | .longWeekday => ((weekdayNames[weekday m.days]?).getD "").toList
  | .lowerHalf => if m.hour < 12 then ['a', 'm'] else ['p', 'm']
  | .upperHalf => if m.hour < 12 then ['A', 'M'] else ['P', 'M']
  | .fraction => if m.milli = 0 then [] else '.' :: zeroPadded 3 m.milli
  | .fixedFraction digits point =>
    (if point then ['.'] else []) ++ (zeroPadded 3 m.milli ++ List.replicate (digits - 3) '0')
  | .zone => ['U', 'T', 'C']
  | .offset text => text.toList
  | .timestamp =>
    yearText m.date.year ++ '-' :: zeroPadded 2 m.date.month ++ '-' :: zeroPadded 2 m.date.day
      ++ 'T' :: zeroPadded 2 m.hour ++ ':' :: zeroPadded 2 m.minute ++ ':' :: zeroPadded 2 m.second
      ++ (if m.milli = 0 then [] else '.' :: zeroPadded 3 m.milli) ++ "+00:00".toList

/-- The text of a part, which a fault does not have. -/
def Part.text? (m : Moment) : Part → Option (List Char)
  | .text chars => some chars
  | .number which fill => some (which.text m fill)
  | .wording which => some (which.text m)
  | .silent => none
  | .fault => none

/-- The text of a moment in a format, if every part of the format has one. -/
def layOut? (format : String) (m : Moment) : Option String :=
  ((Part.ofFormat format).mapM (Part.text? m)).map fun texts => String.ofList texts.flatten

end DocTable.Calendar
