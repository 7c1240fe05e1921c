/-
Points of time. Seconds are read from a date, a time of day and an offset in a generous form of RFC
3339 (blanks around the parts, a space between date and time, `UTC` for the offset, any number of
decimals of a second) and written in universal time. What a clock shows is finer.
-/
import Tenancy.Text.Numeral

namespace Tenancy

/-- A second of universal time: the day counted from the first of January 1970, and the second of
the day. A leap second counts as the second before it. -/
structure Timestamp where
  day : Int
  second : Nat
  leap : Bool := false
  deriving DecidableEq, Repr

namespace Timestamp

/-! ## The calendar -/

/-- Number of the day of a date; years run from March inside an era of 400 years. -/
def dayNumber (year : Int) (month day : Nat) : Int :=
  let y := if month ≤ 2 then year - 1 else year
  let era := y.fdiv 400
  let yearOfEra := (y.fmod 400).toNat
  let dayOfYear := (153 * ((month + 9) % 12) + 2) / 5 + day - 1
  let dayOfEra := yearOfEra * 365 + yearOfEra / 4 - yearOfEra / 100 + dayOfYear
  era * 146097 + dayOfEra - 719468

/-- The date of a day. -/
def date (number : Int) : Int × Nat × Nat :=
  let z := number + 719468
  let era := z.fdiv 146097
  let dayOfEra := (z.fmod 146097).toNat
  let yearOfEra := (dayOfEra - dayOfEra / 1460 + dayOfEra / 36524 - dayOfEra / 146096) / 365
  let dayOfYear := dayOfEra - (365 * yearOfEra + yearOfEra / 4 - yearOfEra / 100)
  let m := (5 * dayOfYear + 2) / 153
  let month := if m < 10 then m + 3 else m - 9
  let year : Int := era * 400 + yearOfEra
  (if month ≤ 2 then year + 1 else year, month, dayOfYear - (153 * m + 2) / 5 + 1)

def leapYear (year : Int) : Bool :=
  year % 4 = 0 && (year % 100 ≠ 0 || year % 400 = 0)

def daysIn (year : Int) (month : Nat) : Nat :=
  if month = 2 then (if leapYear year then 29 else 28)
  else if [4, 6, 9, 11].contains month then 30 else 31

/-! ## Writing -/

def yearText (year : Int) : String :=
  if 0 ≤ year ∧ year ≤ 9999 then Numeral.padded 4 year.toNat
  else (if year < 0 then "-" else "+") ++ Numeral.padded 4 year.natAbs

/-- The time in seconds of universal time. -/
def text (t : Timestamp) : String :=
  let (year, month, day) := date t.day
  let second := t.second % 60 + if t.leap then 1 else 0
  yearText year ++ "-" ++ Numeral.padded 2 month ++ "-" ++ Numeral.padded 2 day ++ "T" ++
    Numeral.padded 2 (t.second / 3600) ++ ":" ++ Numeral.padded 2 (t.second / 60 % 60) ++ ":" ++
    Numeral.padded 2 second ++ "Z"

/-! ## Reading -/

/-- The characters that count as blanks around the parts of a time. -/
def blank (c : Char) : Bool :=
  let n := c.toNat
  (9 ≤ n && n ≤ 13) || n = 0x20 || n = 0x85 || n = 0xA0 || n = 0x1680 ||
    (0x2000 ≤ n && n ≤ 0x200A) || n = 0x2028 || n = 0x2029 || n = 0x202F || n = 0x205F || n = 0x3000

/-- A reader of the beginning of a text. -/
abbrev Part (α : Type) := List Char → Option (α × List Char)

/-- A number of at least one and at most `width` digits. -/
def digits (width : Nat) : Part Nat := fun cs => do
  let ds := (cs.take width).takeWhile Char.isDigit
  let n ← Numeral.digits? ds
  some (n, cs.drop ds.length)

/-- A number after blanks. -/
def number (width : Nat) : Part Nat := fun cs => digits width (cs.dropWhile blank)

/-- A year after blanks: at most four digits, or a sign and any number of them. -/
def year : Part Int := fun cs =>
  match cs.dropWhile blank with
  | '-' :: rest => (digits rest.length rest).map fun (n, rest) => (-(n : Int), rest)
  | '+' :: rest => (digits rest.length rest).map fun (n, rest) => ((n : Int), rest)
  | cs => (digits 4 cs).map fun (n, rest) => ((n : Int), rest)

/-- One character, after blanks. -/
def mark (c : Char) : Part Unit := fun cs =>
  match cs.dropWhile blank with
  | d :: rest => if c = d then some ((), rest) else none
  | [] => none

/-- Exactly two digits. -/
def twoDigits : Part Nat
  | a :: b :: rest => do some ((← Numeral.digit? a) * 10 + (← Numeral.digit? b), rest)
  | _ => none

/-- An offset from universal time, in seconds. -/
def offset : Part Int := fun cs =>
  match cs with
  | 'Z' :: rest | 'z' :: rest => some (0, rest)
  | u :: t :: c :: rest =>
    if [u, t, c].map Char.toUpper = ['U', 'T', 'C'] then some (0, rest)
    else do
      let negative ← if u = '+' then some false else if u = '-' ∨ u = '\u2212' then some true else none
      let (hours, cs) ← twoDigits (t :: c :: rest)
      let (minutes, cs) ← twoDigits (cs.dropWhile fun c => c = ':' || blank c)
      let size : Int := hours * 3600 + minutes * 60
      if minutes < 60 ∧ size < 86400 then some (if negative then -size else size, cs) else none
  | _ => none

/-- Drops the decimals of a second; a point has to be followed by one. -/
def decimals : Part Unit
  | '.' :: rest =>
    let rest' := rest.dropWhile Char.isDigit
    if rest'.length < rest.length then some ((), rest') else none
  | cs => some ((), cs)

/-- The first and the last day of the calendar. -/
def firstDay : Int := dayNumber (-262143) 1 1

def lastDay : Int := dayNumber 262142 12 31

/-- Whether the calendar has a day. -/
def inCalendar (day : Int) : Bool := decide (firstDay ≤ day ∧ day ≤ lastDay)

/-- Reads a time and moves it by its offset; the calendar has to have the day before and after. -/
def read? (s : String) : Option Timestamp := do
  let (y, cs) ← year s.toList
  let (_, cs) ← mark '-' cs
  let (m, cs) ← number 2 cs
  let (_, cs) ← mark '-' cs
  let (d, cs) ← number 2 cs
  let cs ← match cs with
    | 't' :: rest | 'T' :: rest | ' ' :: rest => some rest
    | _ => none
  let (hour, cs) ← number 2 cs
  let (_, cs) ← mark ':' cs
  let (minute, cs) ← number 2 cs
  let (_, cs) ← mark ':' cs
  let (second, cs) ← number 2 cs
  let (_, cs) ← decimals cs
  let (off, cs) ← offset (cs.dropWhile blank)
  if !(cs.all blank) then none else
  let here := dayNumber y m d
  let leap := second = 60
  let moved : Int := hour * 3600 + minute * 60 + (if leap then 59 else second) - off
  let day := here + moved.fdiv 86400
  if 1 ≤ m ∧ m ≤ 12 ∧ 1 ≤ d ∧ d ≤ daysIn y m ∧ hour < 24 ∧ minute < 60 ∧ second ≤ 60 ∧
      inCalendar here ∧ inCalendar day then
    some { day, second := (moved.fmod 86400).toNat, leap }
  else none

end Timestamp

/-! ## Instants -/

/-- A point of time with a resolution of nanoseconds. -/
structure Instant where
  second : Timestamp
  nanos : Nat := 0
  deriving DecidableEq, Repr

namespace Instant

/-- The time in microseconds. -/
def microText (t : Instant) : String :=
  String.ofList (t.second.text.toList.dropLast) ++ "." ++ Numeral.padded 6 (t.nanos / 1000) ++ "Z"

/-- Nanoseconds since the start of 1970; before it, none have passed. -/
def sinceEpoch (t : Instant) : Nat :=
  (t.second.day * 86400 + t.second.second).toNat * 1000000000 + t.nanos

/-- The nanoseconds since the start of 1970 in hexadecimal. -/
def stamp (t : Instant) : String := String.ofList (Nat.toDigits 16 t.sinceEpoch)

end Instant
end Tenancy
