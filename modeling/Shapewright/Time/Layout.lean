import Shapewright.Number.Digits
import Shapewright.Time.Calendar

/-!
# Written times

A layout is the list of the things that are written one after the other.  Reading is lenient where
the layouts are old: names are recognised in either case, blanks may be repeated, an hour may have
one digit, and seconds may carry a fraction that the layout does not mention.

* `Element`, `Layout` — what a written time consists of.
* `dateTime`, `httpDate`, `httpDateLong`, `httpDatePlain` — the layouts in use.
* `Layout.read?` — reading an instant.
* `Instant.dateTime`, `Instant.httpDate` — writing one in UTC.
-/

set_option autoImplicit false

namespace Shapewright
namespace Time

/-- One thing that a layout writes. -/
inductive Element where
  | text (s : String)
  /-- The day of the week by its first three letters. -/
  | shortWeekday
  | longWeekday
  | shortMonth
  /-- The month by two digits. -/
  | month
  /-- The month by one or two digits. -/
  | plainMonth
  /-- The day by two digits. -/
  | day
  /-- The day by one or two digits. -/
  | plainDay
  /-- The day by one or two digits, padded with a blank. -/
  | paddedDay
  /-- The year by four digits. -/
  | year
  /-- The year by its last two digits. -/
  | shortYear
  | hour
  | minute
  /-- The minute by one or two digits. -/
  | plainMinute
  /-- Seconds, with a fraction if there is one. -/
  | second
  /-- Seconds by one or two digits, with a fraction if there is one. -/
  | plainSecond
  /-- `Z`, or an offset from UTC in hours and minutes. -/
  | offset
  /-- The abbreviation of a time zone. -/
  | zone
  deriving DecidableEq, Repr

/-- The things that are written one after the other. -/
abbrev Layout := List Element

/-- A date, a time and an offset from UTC. -/
def dateTime : Layout :=
  [.year, .text "-", .month, .text "-", .day, .text "T", .hour, .text ":", .minute, .text ":",
   .second, .offset]

/-- The form that web servers write. -/
def httpDate : Layout :=
  [.shortWeekday, .text ", ", .day, .text " ", .shortMonth, .text " ", .year, .text " ", .hour,
   .text ":", .minute, .text ":", .second, .text " GMT"]

/-- An older form with two digits for the year. -/
def httpDateLong : Layout :=
  [.longWeekday, .text ", ", .day, .text "-", .shortMonth, .text "-", .shortYear, .text " ", .hour,
   .text ":", .minute, .text ":", .second, .text " ", .zone]

/-- An older form that ends with the year. -/
def httpDatePlain : Layout :=
  [.shortWeekday, .text " ", .shortMonth, .text " ", .paddedDay, .text " ", .hour, .text ":",
   .minute, .text ":", .second, .text " ", .year]

/-- What has been read so far. -/
structure Parts where
  date : Date := ⟨0, 1, 1⟩
  hour : Nat := 0
  minute : Nat := 0
  second : Nat := 0
  nanos : Nat := 0
  /-- Seconds east of UTC by which the written time is ahead. -/
  ahead : Int := 0
  /-- The offset to show for an instant, which for an abbreviation need not move it. -/
  offset : Int := 0

/-- Full names of the days, from Sunday. -/
def weekdays : List String :=
  ["Sunday", "Monday", "Tuesday", "Wednesday", "Thursday", "Friday", "Saturday"]

/-- The first three letters of the months. -/
def months : List String :=
  ["Jan", "Feb", "Mar", "Apr", "May", "Jun", "Jul", "Aug", "Sep", "Oct", "Nov", "Dec"]

/-- The first three letters of a name. -/
def abbreviated (name : String) : String :=
  String.ofList (name.toList.take 3)

/-- Recognises one of several names at the start of a text, case aside, and gives its index. -/
def readName? (names : List String) (cs : List Char) : Option (Nat × List Char) :=
  (names.zipIdx.find? fun (name, _) =>
    name.toList.map Char.toLower == (cs.take name.length).map Char.toLower).map
      fun (name, i) => (i, cs.drop name.length)

/-- One or two digits; with `fixed` there have to be two. -/
def readDigits? (fixed : Bool) : List Char → Option (Nat × List Char)
  | a :: b :: rest =>
    if !Number.isDigit a then none
    else if Number.isDigit b then some (Number.value [a, b], rest)
    else if fixed then none
    else some (Number.digitValue a, b :: rest)
  | [a] => if Number.isDigit a && !fixed then some (Number.digitValue a, []) else none
  | [] => none

/-- Matches literal text, in which a blank stands for any positive number of blanks, and for none at
the end of the input. -/
def readText? : List Char → List Char → Option (List Char)
  | [], cs => some cs
  | ' ' :: pattern, cs =>
    if cs.isEmpty || cs.head? == some ' ' then
      readText? pattern (cs.dropWhile (· == ' '))
    else none
  | p :: pattern, c :: cs => if p == c then readText? pattern cs else none
  | _ :: _, [] => none

/-- Nanoseconds of a fraction; digits beyond the ninth are dropped. -/
def fractionNanos (digits : List Char) : Nat :=
  let shown := digits.take 9
  Number.value shown * Nat.pow 10 (9 - shown.length)

/-- A fraction behind a point or a comma, if there is one. -/
def readFraction (cs : List Char) : Nat × List Char :=
  match cs with
  | mark :: d :: rest =>
    if (mark == '.' || mark == ',') && Number.isDigit d then
      let digits := (d :: rest).takeWhile Number.isDigit
      (fractionNanos digits, (d :: rest).dropWhile Number.isDigit)
    else (0, cs)
  | _ => (0, cs)

/-- A signed number of hours from 0 to 23, as it may follow the name of a zone: its value and how
much of the text it takes. -/
def readHours? (cs : List Char) : Option (Int × List Char) :=
  match cs with
  | sign :: rest =>
    let digits := rest.takeWhile Number.isDigit
    if (sign == '+' || sign == '-') && !digits.isEmpty && Number.value digits ≤ 23 then
      some (Number.signed (sign == '-') (Number.value digits), rest.dropWhile Number.isDigit)
    else none
  | [] => none

/-- The abbreviation of a time zone: three to five capitals, of which the fourth or fifth is a `T`,
`GMT` with a number of hours, or a number of hours alone. Gives the offset to show. -/
def readZone? (cs : List Char) : Option (Int × List Char) :=
  let startsWith := fun (name : String) => name.toList.isPrefixOf cs
  if cs.length < 3 then none
  else if startsWith "UTC" then some (0, cs.drop 3)
  else if startsWith "ChST" || startsWith "MeST" then some (0, cs.drop 4)
  else if startsWith "GMT" then
    match readHours? (cs.drop 3) with
    | some (hours, rest) => some (hours * 3600, rest)
    | none => some (0, cs.drop 3)
  else if startsWith "+" || startsWith "-" then
    (readHours? cs).map fun (_, rest) => (0, rest)
  else
    let capitals := ((cs.take 6).takeWhile fun c => 'A' ≤ c && c ≤ 'Z')
    match capitals with
    | [_, _, _] => some (0, cs.drop 3)
    | [_, _, _, d] => if d == 'T' || startsWith "WITA" then some (0, cs.drop 4) else none
    | [_, _, _, _, e] => if e == 'T' then some (0, cs.drop 5) else none
    | _ => none

/-- `Z`, or a sign, two digits of hours up to 24, a colon and two digits of minutes up to 60. -/
def readOffset? : List Char → Option (Int × List Char)
  | 'Z' :: rest => some (0, rest)
  | sign :: a :: b :: ':' :: c :: d :: rest => do
    let hours ← Number.readNat? [a, b]
    let minutes ← Number.readNat? [c, d]
    if hours ≤ 24 && minutes ≤ 60 && (sign == '+' || sign == '-') then
      some (Number.signed (sign == '-') ((hours * 60 + minutes) * 60), rest)
    else none
  | _ => none

/-- Reads a month by its number. -/
def readMonth? (fixed : Bool) (p : Parts) (cs : List Char) : Option (Parts × List Char) := do
  let (n, rest) ← readDigits? fixed cs
  if n == 0 || 12 < n then none
  return ({ p with date := { p.date with month := n } }, rest)

/-- Reads a day. -/
def readDay? (fixed : Bool) (p : Parts) (cs : List Char) : Option (Parts × List Char) :=
  (readDigits? fixed cs).map fun (n, rest) => ({ p with date := { p.date with day := n } }, rest)

/-- Reads a minute. -/
def readMinute? (fixed : Bool) (p : Parts) (cs : List Char) : Option (Parts × List Char) := do
  let (n, rest) ← readDigits? fixed cs
  if 60 ≤ n then none
  return ({ p with minute := n }, rest)

/-- Reads seconds and their fraction. -/
def readSecond? (fixed : Bool) (p : Parts) (cs : List Char) : Option (Parts × List Char) := do
  let (n, rest) ← readDigits? fixed cs
  if 60 ≤ n then none
  let (nanos, rest) := readFraction rest
  return ({ p with second := n, nanos }, rest)

/-- Reads one element. -/
def Element.read? (p : Parts) (cs : List Char) : Element → Option (Parts × List Char)
  | .text s => (readText? s.toList cs).map fun rest => (p, rest)
  | .shortWeekday => (readName? (weekdays.map abbreviated) cs).map fun (_, rest) => (p, rest)
  | .longWeekday => (readName? weekdays cs).map fun (_, rest) => (p, rest)
  | .shortMonth => (readName? months cs).map fun (i, rest) =>
    ({ p with date := { p.date with month := i + 1 } }, rest)
  | .month => readMonth? true p cs
  | .plainMonth => readMonth? false p cs
  | .day => readDay? true p cs
  | .plainDay => readDay? false p cs
  | .paddedDay => readDay? false p (if cs.head? == some ' ' then cs.drop 1 else cs)
  | .year => do
    let n ← if cs.length < 4 then none else Number.readNat? (cs.take 4)
    return ({ p with date := { p.date with year := n } }, cs.drop 4)
  | .shortYear => do
    let n ← if cs.length < 2 then none else Number.readInt? (String.ofList (cs.take 2))
    return ({ p with date := { p.date with year := if 69 ≤ n then n + 1900 else n + 2000 } },
      cs.drop 2)
  | .hour => do
    let (n, rest) ← readDigits? false cs
    if 24 ≤ n then none
    return ({ p with hour := n }, rest)
  | .minute => readMinute? true p cs
  | .plainMinute => readMinute? false p cs
  | .second => readSecond? true p cs
  | .plainSecond => readSecond? false p cs
  | .offset => (readOffset? cs).map fun (seconds, rest) =>
    ({ p with ahead := seconds, offset := seconds }, rest)
  | .zone => (readZone? cs).map fun (seconds, rest) => ({ p with offset := seconds }, rest)

/-- Reads the elements one after the other; nothing may be left over. -/
def Layout.parts? (p : Parts) (cs : List Char) : Layout → Option Parts
  | [] => if cs.isEmpty then some p else none
  | e :: rest => do
    let (p, cs) ← e.read? p cs
    Layout.parts? p cs rest

/-- The instant of a complete set of parts, if the day exists. -/
def Parts.instant? (p : Parts) : Option Instant :=
  if p.date.isValid then
    some {
      seconds := p.date.toDays * 86400 + p.hour * 3600 + p.minute * 60 + p.second - p.ahead
      nanos := p.nanos
      offset := p.offset }
  else none

/-- The instant that a text writes in a layout. -/
def Layout.read? (l : Layout) (s : String) : Option Instant :=
  (l.parts? {} s.toList).bind Parts.instant?

/-- The instant that a text writes in any of the three forms that web servers understand. -/
def readHttpDate? (s : String) : Option Instant :=
  (httpDate.read? s <|> httpDateLong.read? s) <|> httpDatePlain.read? s

/-! ## Writing -/

/-- A year by at least four digits. -/
def yearText (year : Int) : String :=
  (if year < 0 then "-" else "") ++ Text.padNat 4 year.natAbs

/-- Hours, minutes and seconds of a day between colons. -/
def clockText (second : Nat) : String :=
  ":".intercalate [Text.padNat 2 (second / 3600), Text.padNat 2 (second / 60 % 60),
    Text.padNat 2 (second % 60)]

namespace Instant

/-- The days since 1970-01-01 in UTC. -/
def days (t : Instant) : Int := t.calendarSeconds.fdiv 86400

/-- The seconds since midnight in UTC. -/
def secondOfDay (t : Instant) : Nat := (t.calendarSeconds.fmod 86400).toNat

/-- The fraction of a second, without zeros at its end. -/
def fractionText (t : Instant) : String :=
  if t.nanos == 0 then ""
  else "." ++ Text.trimRightBy (· == '0') (Text.padNat 9 t.nanos)

/-- Date and time in UTC. -/
def dateTime (t : Instant) : String :=
  let d := Date.ofDays t.days
  yearText d.year ++ "-" ++ Text.padNat 2 d.month ++ "-" ++ Text.padNat 2 d.day ++ "T"
    ++ clockText t.secondOfDay ++ t.fractionText ++ "Z"

/-- The form that web servers write, in UTC. -/
def httpDate (t : Instant) : String :=
  let d := Date.ofDays t.days
  abbreviated (weekdays.getD (weekday t.days) "") ++ ", " ++ Text.padNat 2 d.day ++ " "
    ++ months.getD (d.month - 1) "" ++ " " ++ yearText d.year ++ " " ++ clockText t.secondOfDay
    ++ " GMT"

end Instant
end Time
end Shapewright
