import Storefront.Text.Blank

/-! # Instants

An instant is kept as the date and the time of day that clocks on the zero meridian
show.  A minute may have a sixty-first second.  Instants are written in the form of
RFC 3339 with `Z`, with as many digits of the second as are needed out of none,
three, six and nine.

Reading is laxer than writing: parts need not be padded, spaces may stand between
them, a blank may stand for the `T`, years outside 0 to 9999 carry a sign, further
digits of the second are dropped, and an offset from the zero meridian is taken off.
Taking it off moves the date by one day at most.
-/
namespace Storefront

/-! ### Dates -/

/-- A day of the proleptic Gregorian calendar, not checked. -/
structure Date where
  year : Int
  month : Nat
  day : Nat
  deriving DecidableEq

namespace Date

/-- Whether February has a twenty-ninth day. -/
def isLeap (year : Int) : Bool := year % 4 == 0 && (year % 100 != 0 || year % 400 == 0)

/-- The number of days of a month. -/
def daysIn (year : Int) : Nat → Nat
  | 2 => if isLeap year then 29 else 28
  | 4 | 6 | 9 | 11 => 30
  | _ => 31

/-- The first and the last year of the calendar. -/
def firstYear : Int := -262143

/-- The last year of the calendar. -/
def lastYear : Int := 262142

/-- Whether there is such a day. -/
def isValid (d : Date) : Bool :=
  firstYear ≤ d.year && d.year ≤ lastYear && 1 ≤ d.month && d.month ≤ 12 && 1 ≤ d.day &&
    d.day ≤ daysIn d.year d.month

/-- The day after. -/
def next (d : Date) : Date :=
  if d.day < daysIn d.year d.month then { d with day := d.day + 1 }
  else if d.month < 12 then ⟨d.year, d.month + 1, 1⟩
  else ⟨d.year + 1, 1, 1⟩

/-- The day before. -/
def previous (d : Date) : Date :=
  if 1 < d.day then { d with day := d.day - 1 }
  else if 1 < d.month then ⟨d.year, d.month - 1, daysIn d.year (d.month - 1)⟩
  else ⟨d.year - 1, 12, 31⟩

/-- The day some days later or earlier, of which only one is ever needed. -/
def shift (d : Date) (days : Int) : Date :=
  if days < 0 then d.previous else if 0 < days then d.next else d

end Date

/-! ### Instants -/

/-- Whether the numbers are those of a date and a time of day. -/
def Timestamp.isValid (date : Date) (hour minute second nanosecond : Nat) : Bool :=
  date.isValid && hour < 24 && minute < 60 && second ≤ 60 && nanosecond < 1000000000

/-- An instant, as a date and a time of day on the zero meridian. -/
structure Timestamp where
  date : Date
  hour : Nat
  minute : Nat
  second : Nat
  nanosecond : Nat
  valid : Timestamp.isValid date hour minute second nanosecond = true
  deriving DecidableEq

namespace Timestamp

/-- The instant of the given date and time, if there is one. -/
def make? (date : Date) (hour minute second nanosecond : Nat) : Option Timestamp :=
  if h : isValid date hour minute second nanosecond = true then
    some ⟨date, hour, minute, second, nanosecond, h⟩
  else none

/-- Midnight before the first of January 1970. -/
def epoch : Timestamp := ⟨⟨1970, 1, 1⟩, 0, 0, 0, 0, by decide⟩

instance : Inhabited Timestamp := ⟨epoch⟩

/-- Later parts decide between instants that agree in the earlier ones. -/
def le (a b : Timestamp) : Bool :=
  let key (t : Timestamp) : Int × List Nat :=
    (t.date.year, [t.date.month, t.date.day, t.hour, t.minute, t.second, t.nanosecond])
  let (y, ks) := key a
  let (z, ls) := key b
  y < z || (y == z && !List.lex ls ks fun a b => decide (a < b))

/-! ### Writing -/

/-- A number filled up with zeros to a width. -/
def padded (width : Nat) (n : Nat) : String :=
  let digits := toString n
  String.ofList (List.replicate (width - digits.length) '0') ++ digits

/-- A year; outside 0 to 9999 it carries a sign. -/
def yearText (year : Int) : String :=
  if year < 0 then "-" ++ padded 4 year.natAbs
  else if year ≤ 9999 then padded 4 year.natAbs
  else "+" ++ padded 4 year.natAbs

/-- The digits of the second, as few as tell it out of none, three, six and nine. -/
def fractionText (nanosecond : Nat) : String :=
  if nanosecond = 0 then ""
  else if nanosecond % 1000000 = 0 then "." ++ padded 3 (nanosecond / 1000000)
  else if nanosecond % 1000 = 0 then "." ++ padded 6 (nanosecond / 1000)
  else "." ++ padded 9 nanosecond

/-- The instant in the form of RFC 3339. -/
def text (t : Timestamp) : String :=
  yearText t.date.year ++ "-" ++ padded 2 t.date.month ++ "-" ++ padded 2 t.date.day ++ "T" ++
    padded 2 t.hour ++ ":" ++ padded 2 t.minute ++ ":" ++ padded 2 t.second ++
    fractionText t.nanosecond ++ "Z"

/-! ### Reading -/

/-- A part of the text that was read, and the text behind it. -/
abbrev Part (α : Type) := Option (α × List Char)

/-- The number that decimal digits write. -/
def digitsValue (ds : List Char) : Nat := ds.foldl (fun n c => n * 10 + (c.toNat - 0x30)) 0

/-- A number of at least one digit and, if a width is given, at most that many. -/
def number? (width : Option Nat) (cs : List Char) : Part Nat :=
  let run := cs.takeWhile Char.isDigit
  let ds := match width with
    | some w => run.take w
    | none => run
  if ds.isEmpty then none else some (digitsValue ds, cs.drop ds.length)

/-- A number of at most two digits, with space before it. -/
def twoDigits? (cs : List Char) : Part Nat := number? (some 2) (Text.trimStart cs)

/-- A year of at most four digits, or of any number of them after a sign. -/
def year? (cs : List Char) : Part Int :=
  match Text.trimStart cs with
  | '-' :: rest => (number? none rest).map fun (n, rest) => (-(n : Int), rest)
  | '+' :: rest => (number? none rest).map fun (n, rest) => (n, rest)
  | cs => (number? (some 4) cs).map fun (n, rest) => (n, rest)

/-- A separating character, with space before it. -/
def separator? (c : Char) (cs : List Char) : Option (List Char) :=
  match Text.trimStart cs with
  | d :: rest => if c = d then some rest else none
  | [] => none

/-- The digits of the second behind a point; those after the ninth are dropped. -/
def fraction? (cs : List Char) : Part Nat :=
  match cs with
  | '.' :: rest =>
    let run := rest.takeWhile Char.isDigit
    if run.isEmpty then none
    else
      let ds := run.take 9
      some (digitsValue ds * Nat.pow 10 (9 - ds.length), rest.dropWhile Char.isDigit)
  | _ => some (0, cs)

/-- The minutes of an offset: two digits below sixty. -/
def offsetMinutes? (cs : List Char) : Part Nat :=
  match cs with
  | a :: b :: rest =>
    if a.isDigit && b.isDigit && digitsValue [a, b] < 60 then some (digitsValue [a, b], rest)
    else none
  | _ => none

/-- An offset in minutes: a sign, two digits of hours, and two of minutes, with colons
and spaces between them. -/
def signedOffset? (cs : List Char) : Part Int :=
  let read (rest : List Char) : Part Nat :=
    match rest with
    | a :: b :: rest =>
      if a.isDigit && b.isDigit then
        (offsetMinutes? (rest.dropWhile fun c => c == ':' || Text.isWhiteSpace c)).map
          fun (m, rest) => (digitsValue [a, b] * 60 + m, rest)
      else none
    | _ => none
  match cs with
  | '+' :: rest => (read rest).map fun (n, rest) => (n, rest)
  | '-' :: rest | '\u2212' :: rest => (read rest).map fun (n, rest) => (-(n : Int), rest)
  | _ => none

/-- An offset in minutes, or one of the names of the zero meridian. -/
def offset? (cs : List Char) : Part Int :=
  match cs with
  | 'Z' :: rest | 'z' :: rest => some (0, rest)
  | a :: b :: c :: rest =>
    if [a.toUpper, b.toUpper, c.toUpper] = ['U', 'T', 'C'] then some (0, rest)
    else signedOffset? cs
  | _ => signedOffset? cs

/-- The instant at which clocks with an offset show a date and a time of day. -/
def ofLocal? (shown : Timestamp) (offset : Int) : Option Timestamp :=
  let minutes : Int := (shown.hour * 60 + shown.minute : Nat) - offset
  if offset.natAbs ≥ 1440 then none
  else
    let ofDay := (minutes % 1440).toNat
    make? (shown.date.shift (minutes / 1440)) (ofDay / 60) (ofDay % 60) shown.second
      shown.nanosecond

/-- Reads an instant. -/
def parse? (s : String) : Option Timestamp := do
  let (year, cs) ← year? s.toList
  let cs ← separator? '-' cs
  let (month, cs) ← twoDigits? cs
  let cs ← separator? '-' cs
  let (day, cs) ← twoDigits? cs
  let cs ← match cs with
    | 'T' :: rest | 't' :: rest | ' ' :: rest => some rest
    | _ => none
  let (hour, cs) ← twoDigits? cs
  let cs ← separator? ':' cs
  let (minute, cs) ← twoDigits? cs
  let cs ← separator? ':' cs
  let (second, cs) ← twoDigits? cs
  let (nanosecond, cs) ← fraction? cs
  let (offset, cs) ← offset? (Text.trimStart cs)
  if Text.trimStart cs ≠ [] then none
  let shown ← make? ⟨year, month, day⟩ hour minute second nanosecond
  ofLocal? shown offset

end Timestamp

end Storefront
