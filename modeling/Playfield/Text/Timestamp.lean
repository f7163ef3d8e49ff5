import Playfield.Span
import Playfield.Text.Blank

/-!
# Timestamps

Instants in universal time as RFC 3339 texts. Writing uses the form with `T` and `Z`, and no,
three, six or nine digits of a second. Reading is more lenient: blanks may stand around the parts,
a space or a small `t` may stand for the `T`, one digit is enough for each part, and the offset
may be `Z`, `UTC`, or hours and minutes with a sign. The sixtieth second is a leap second: it is
kept as the second before it with a whole second more of nanoseconds.
-/
namespace Playfield.Text

/-- An instant in universal time. -/
structure Timestamp where
  /-- Days since 1970-01-01. -/
  day : Int
  /-- Seconds since midnight. -/
  second : Nat
  /-- Nanoseconds since the second; a whole second more in a leap second. -/
  nanos : Nat
  deriving DecidableEq, Repr, Inhabited

/-- A day of the Gregorian calendar. -/
structure CivilDate where
  year : Int
  month : Nat
  day : Nat
  deriving DecidableEq, Repr, Inhabited

namespace CivilDate

/-- The year has a 29th of February. -/
def isLeap (year : Int) : Bool := year % 4 == 0 && (year % 100 != 0 || year % 400 == 0)

/-- Days of a month. -/
def monthDays (year : Int) (month : Nat) : Nat :=
  if month = 2 then (if isLeap year then 29 else 28)
  else if month = 4 ∨ month = 6 ∨ month = 9 ∨ month = 11 then 30
  else 31

/-- The years dates may lie in. -/
def firstYear : Int := -262143

/-- The years dates may lie in. -/
def lastYear : Int := 262142

/-- Days from 1970-01-01 to a date. Years are counted from March, so that a leap day ends its
year. -/
def toDay (d : CivilDate) : Int :=
  let year := if d.month ≤ 2 then d.year - 1 else d.year
  let era := year / 400
  let yearOfEra := year % 400
  let monthOfYear : Int := (d.month + 9) % 12
  let dayOfYear := (153 * monthOfYear + 2) / 5 + d.day - 1
  let dayOfEra := yearOfEra * 365 + yearOfEra / 4 - yearOfEra / 100 + dayOfYear
  era * 146097 + dayOfEra - 719468

/-- The date so many days after 1970-01-01. -/
def ofDay (n : Int) : CivilDate :=
  let z := n + 719468
  let era := z / 146097
  let dayOfEra := z % 146097
  let yearOfEra := (dayOfEra - dayOfEra / 1460 + dayOfEra / 36524 - dayOfEra / 146096) / 365
  let dayOfYear := dayOfEra - (365 * yearOfEra + yearOfEra / 4 - yearOfEra / 100)
  let monthOfYear := (5 * dayOfYear + 2) / 153
  let day := dayOfYear - (153 * monthOfYear + 2) / 5 + 1
  let month := if monthOfYear < 10 then monthOfYear + 3 else monthOfYear - 9
  let year := yearOfEra + era * 400
  ⟨if month ≤ 2 then year + 1 else year, month.toNat, day.toNat⟩

end CivilDate

namespace Timestamp

/-- The text without blanks in front. -/
def skip (cs : List Char) : List Char := cs.dropWhile isBlank

/-- The value of a string of decimal digits. -/
def decimal (cs : List Char) : Nat := cs.foldl (fun n c => n * 10 + (c.toNat - '0'.toNat)) 0

/-- A number of at least one and, if there is a limit, at most so many digits. -/
def digits? (limit : Option Nat) (cs : List Char) : Option (Nat × List Char) :=
  let run := cs.takeWhile Char.isDigit
  let run := match limit with
    | some n => run.take n
    | none => run
  if run.isEmpty then none else some (decimal run, cs.drop run.length)

/-- A number between two bounds, with blanks in front. -/
def part? (low high : Nat) (cs : List Char) : Option (Nat × List Char) := do
  let (n, rest) ← digits? (some 2) (skip cs)
  if low ≤ n ∧ n ≤ high then some (n, rest) else none

/-- A year: four digits at most, or any number of digits after a sign. -/
def year? (cs : List Char) : Option (Int × List Char) :=
  match skip cs with
  | '-' :: rest => (digits? none rest).map fun (n, rest) => (-Int.ofNat n, rest)
  | '+' :: rest => (digits? none rest).map fun (n, rest) => (Int.ofNat n, rest)
  | rest => (digits? (some 4) rest).map fun (n, rest) => (Int.ofNat n, rest)

/-- A mark, with blanks in front. -/
def mark? (c : Char) (cs : List Char) : Option (List Char) :=
  match skip cs with
  | d :: rest => if d = c then some rest else none
  | [] => none

/-- The fraction of a second in nanoseconds; digits past the ninth are dropped. -/
def fraction? (cs : List Char) : Option (Nat × List Char) :=
  match cs with
  | '.' :: rest =>
    let run := (rest.takeWhile Char.isDigit).take 9
    if run.isEmpty then none
    else some (decimal run * Nat.pow 10 (9 - run.length), rest.dropWhile Char.isDigit)
  | _ => some (0, cs)

/-- Two decimal digits. -/
def twoDigits? (cs : List Char) : Option (Nat × List Char) :=
  match cs with
  | a :: b :: rest => if a.isDigit ∧ b.isDigit then some (decimal [a, b], rest) else none
  | _ => none

/-- Hours and minutes of an offset, in seconds. -/
def offsetParts? (cs : List Char) : Option (Nat × List Char) := do
  let (hours, rest) ← twoDigits? cs
  let (minutes, rest) ← twoDigits? (rest.dropWhile fun c => c = ':' || isBlank c)
  if minutes < 60 then some (hours * 3600 + minutes * 60, rest) else none

/-- The offset from universal time in seconds. -/
def offset? (cs : List Char) : Option (Int × List Char) :=
  match skip cs with
  | 'Z' :: rest | 'z' :: rest => some (0, rest)
  | '+' :: rest => (offsetParts? rest).map fun (n, rest) => (Int.ofNat n, rest)
  | '-' :: rest | '−' :: rest => (offsetParts? rest).map fun (n, rest) => (-Int.ofNat n, rest)
  | u :: t :: c :: rest =>
    if u.toUpper = 'U' ∧ t.toUpper = 'T' ∧ c.toUpper = 'C' then some (0, rest) else none
  | _ => none

/-- The `T` between date and time. -/
def separator? : List Char → Option (List Char)
  | 'T' :: rest | 't' :: rest | ' ' :: rest => some rest
  | _ => none

/-- The instant of a local date and time at an offset. -/
def ofLocal? (date : CivilDate) (second nanos : Nat) (offset : Int) : Option Timestamp :=
  let inYears (year : Int) : Bool := CivilDate.firstYear ≤ year && year ≤ CivilDate.lastYear
  if inYears date.year && 1 ≤ date.day && date.day ≤ CivilDate.monthDays date.year date.month &&
      offset.natAbs < 86400 then
    let total := Int.ofNat second - offset
    let day := date.toDay + total / 86400
    if inYears (CivilDate.ofDay day).year then some ⟨day, (total % 86400).toNat, nanos⟩ else none
  else none

/-- The instant a text stands for. -/
def parse? (s : String) : Option Timestamp := do
  let (year, rest) ← year? s.toList
  let (month, rest) ← part? 1 12 (← mark? '-' rest)
  let (day, rest) ← part? 1 31 (← mark? '-' rest)
  let (hour, rest) ← part? 0 23 (← separator? rest)
  let (minute, rest) ← part? 0 59 (← mark? ':' rest)
  let (second, rest) ← part? 0 60 (← mark? ':' rest)
  let (nanos, rest) ← fraction? rest
  let (offset, rest) ← offset? rest
  if !(skip rest).isEmpty then none
  else if second = 60 then
    ofLocal? ⟨year, month, day⟩ (hour * 3600 + minute * 60 + 59) (nanos + Span.perSecond) offset
  else ofLocal? ⟨year, month, day⟩ (hour * 3600 + minute * 60 + second) nanos offset

/-- A year with four digits at least, and with a sign outside of 0 to 9999. -/
def yearText (year : Int) : String :=
  if 0 ≤ year ∧ year ≤ 9999 then Span.padded 4 year.toNat
  else (if year < 0 then "-" else "+") ++ Span.padded 4 year.natAbs

/-- The digits of a second behind the point. -/
def fractionText (nanos : Nat) : String :=
  if nanos = 0 then ""
  else if nanos % 1000000 = 0 then "." ++ Span.padded 3 (nanos / 1000000)
  else if nanos % 1000 = 0 then "." ++ Span.padded 6 (nanos / 1000)
  else "." ++ Span.padded 9 nanos

/-- The text of an instant. -/
def text (t : Timestamp) : String :=
  let date := CivilDate.ofDay t.day
  let leap := Span.perSecond ≤ t.nanos
  let second := t.second % 60 + if leap then 1 else 0
  yearText date.year ++ "-" ++ Span.padded 2 date.month ++ "-" ++ Span.padded 2 date.day ++ "T" ++
    Span.padded 2 (t.second / 3600) ++ ":" ++ Span.padded 2 (t.second / 60 % 60) ++ ":" ++
    Span.padded 2 second ++
    fractionText (if leap then t.nanos - Span.perSecond else t.nanos) ++ "Z"

/-- Nanoseconds from one instant to another. A leap second that lies between them counts. -/
def nanosSince (t u : Timestamp) : Int :=
  let seconds := Int.ofNat t.second - Int.ofNat u.second
  let leap : Int :=
    if u.second < t.second ∧ Span.perSecond ≤ u.nanos then 1
    else if t.second < u.second ∧ Span.perSecond ≤ t.nanos then -1
    else 0
  ((t.day - u.day) * 86400 + seconds + leap) * Int.ofNat Span.perSecond +
    (Int.ofNat t.nanos - Int.ofNat u.nanos)

/-- Whole milliseconds from one instant to another, cut toward zero. -/
def millisSince (t u : Timestamp) : Int := (t.nanosSince u).tdiv 1000000

end Timestamp

end Playfield.Text
