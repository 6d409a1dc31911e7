import Waterway.Decimal.Integer
import Waterway.Instant.Basic
import Waterway.Text.Blank

/-!
# The text of an instant

Instants are written as in `2025-06-12T14:00:00.5Z`: date, time of day and `Z`. They are read with any
offset from universal time.

## Main definitions

- `Instant.text` — the written form
- `Instant.parse?` — the instant that a text denotes

## Design notes

The fraction has as few of 3, 6 or 9 digits as are exact and is left out if it is zero. Years outside
0 to 9999 carry a sign. A reader is more lenient than the writer: months and days, hours, minutes and
seconds may have one digit, blanks may stand before each part, `t` and a blank may stand for `T`, and
the offset may be `Z`, `z`, `UTC` or hours and minutes with or without a colon.
-/

namespace Waterway.Instant

/-- A natural number with zeros in front, at least `width` digits. -/
def padded (width n : Nat) : List Char :=
  let ds := Nat.toDigits 10 n
  List.replicate (width - ds.length) '0' ++ ds

/-- The written form of a year. -/
def yearText (year : Int) : List Char :=
  if 0 ≤ year ∧ year ≤ 9999 then padded 4 year.toNat
  else (if year < 0 then '-' else '+') :: padded 4 year.natAbs

/-- The written form of a fraction of a second. -/
def fractionText (nano : Nat) : List Char :=
  if nano = 0 then []
  else if nano % 1000000 = 0 then '.' :: padded 3 (nano / 1000000)
  else if nano % 1000 = 0 then '.' :: padded 6 (nano / 1000)
  else '.' :: padded 9 nano

def text (t : Instant) : String :=
  let leap := if t.isLeap then 1 else 0
  String.ofList <|
    yearText t.date.year ++ '-' :: padded 2 t.date.month ++ '-' :: padded 2 t.date.day ++
    'T' :: padded 2 (t.second / 3600) ++ ':' :: padded 2 (t.second / 60 % 60) ++
    ':' :: padded 2 (t.second % 60 + leap) ++ fractionText (t.nano % 1000000000) ++ ['Z']

/-- The value of decimal digits. -/
def digits (ds : List Char) : Nat :=
  ds.foldl (fun n c => 10 * n + (c.toNat - '0'.toNat)) 0

/-- A number of one digit or more, and what follows it. -/
def number? (cs : List Char) : Option (Nat × List Char) :=
  match cs.takeWhile Char.isDigit with
  | [] => none
  | ds => some (digits ds, cs.dropWhile Char.isDigit)

/-- A number of one to `width` digits after blanks, and what follows it. -/
def numberWithin? (width : Nat) (cs : List Char) : Option (Nat × List Char) :=
  let cs := cs.dropWhile Text.isBlank
  match (cs.take width).takeWhile Char.isDigit with
  | [] => none
  | ds => some (digits ds, cs.drop ds.length)

/-- A character after blanks, and what follows it. -/
def mark? (c : Char) (cs : List Char) : Option (List Char) :=
  match cs.dropWhile Text.isBlank with
  | [] => none
  | d :: ds => if d = c then some ds else none

/-- A year, which has more than four digits only after a sign. -/
def year? (cs : List Char) : Option (Int × List Char) :=
  match cs.dropWhile Text.isBlank with
  | '-' :: ds => do
    let (n, rest) ← number? ds
    some (-(n : Int), rest)
  | '+' :: ds => do
    let (n, rest) ← number? ds
    some ((n : Int), rest)
  | ds => do
    let (n, rest) ← numberWithin? 4 ds
    some ((n : Int), rest)

/-- The nanoseconds of a fraction; digits after the ninth are passed over. -/
def fraction? : List Char → Option (Nat × List Char)
  | '.' :: cs =>
    match (cs.takeWhile Char.isDigit).take 9 with
    | [] => none
    | ds => some (digits ds * Nat.pow 10 (9 - ds.length), cs.dropWhile Char.isDigit)
  | cs => some (0, cs)

/-- The value of two digits at the start. -/
def twoDigits? : List Char → Option (Nat × List Char)
  | a :: b :: rest => if a.isDigit && b.isDigit then some (digits [a, b], rest) else none
  | _ => none

/-- The seconds by which a clock with a given offset is ahead of universal time. -/
def offset? (cs : List Char) : Option (Int × List Char) :=
  match cs with
  | 'Z' :: rest | 'z' :: rest => some (0, rest)
  | c :: rest =>
    let cs' := cs.take 3
    if cs'.map Char.toUpper = ['U', 'T', 'C'] then some (0, cs.drop 3)
    else if c = '+' ∨ c = '-' ∨ c = '−' then do
      let (hours, rest) ← twoDigits? rest
      let (minutes, rest) ← twoDigits? (rest.dropWhile fun c => c == ':' || Text.isBlank c)
      if minutes < 60 then
        let seconds : Int := hours * 3600 + minutes * 60
        some (if c = '+' then seconds else -seconds, rest)
      else none
    else none
  | [] => none

/-- Whether a year is one that instants may have. -/
def yearInRange (year : Int) : Bool :=
  -262143 ≤ year && year ≤ 262142

/-- The instant of a clock reading and its offset from universal time. -/
def ofClock? (year : Int) (month day hour minute second nano : Nat) (offset : Int) : Option Instant := do
  guard (yearInRange year && hour < 24 && minute < 60 && second ≤ 60 && offset.natAbs < 86400)
  let date ← Date.mk? year month day
  let leap := if second = 60 then 1 else 0
  let local_ ← mk? date (hour * 3600 + minute * 60 + second - leap) (nano + leap * 1000000000)
  let t := local_.addSeconds (-offset)
  guard (yearInRange t.date.year)
  some t

/-- The instant that characters denote. -/
def parseChars? (cs : List Char) : Option Instant := do
  let (year, cs) ← year? cs
  let cs ← mark? '-' cs
  let (month, cs) ← numberWithin? 2 cs
  let cs ← mark? '-' cs
  let (day, cs) ← numberWithin? 2 cs
  let cs ← match cs with
    | 'T' :: cs | 't' :: cs | ' ' :: cs => some cs
    | _ => none
  let (hour, cs) ← numberWithin? 2 cs
  let cs ← mark? ':' cs
  let (minute, cs) ← numberWithin? 2 cs
  let cs ← mark? ':' cs
  let (second, cs) ← numberWithin? 2 cs
  let (nano, cs) ← fraction? cs
  let (offset, cs) ← offset? (cs.dropWhile Text.isBlank)
  guard (cs.all Text.isBlank)
  ofClock? year month day hour minute second nano offset

/-- The instant that a text denotes. -/
def parse? (s : String) : Option Instant :=
  parseChars? s.toList

end Waterway.Instant
