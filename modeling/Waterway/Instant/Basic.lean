import Waterway.Instant.Calendar

/-!
# Instants

Instants of universal time, to the nanosecond, with leap seconds.

## Main definitions

- `Instant` — a date, a second of the day and the nanoseconds since its start
- `Instant.since` — the signed distance of two instants in nanoseconds
- `Instant.addSeconds` — the instant some seconds away on the clock
- `Instant.toMicroseconds` — the instant as a store of microsecond precision keeps it

## Design notes

A leap second is the second nanosecond-billion of the second it follows, so `nano` goes up to two
billion. It counts in a distance that spans it within one day, and in no other.
-/

namespace Waterway

/-- An instant of universal time. -/
structure Instant where
  date : Date
  /-- The second of the day. -/
  second : Nat
  /-- Nanoseconds since the start of the second; a billion and more inside a leap second. -/
  nano : Nat
  second_lt : second < 86400
  nano_lt : nano < 2000000000
deriving DecidableEq, Repr

namespace Instant

/-- The instant with the given parts, if it exists. -/
def mk? (date : Date) (second nano : Nat) : Option Instant :=
  if h : second < 86400 ∧ nano < 2000000000 then some ⟨date, second, nano, h.1, h.2⟩ else none

/-- Whether an instant lies in a leap second. -/
def isLeap (t : Instant) : Bool :=
  1000000000 ≤ t.nano

/-- The leap second that a distance from `b` to `a`, measured on clocks, has left out or counted
twice. -/
def leapAdjustment (a b : Instant) : Int :=
  if b.second < a.second then (if b.isLeap then 1 else 0)
  else if a.second < b.second then (if a.isLeap then -1 else 0)
  else 0

/-- The nanoseconds from `b` to `a`. -/
def since (a b : Instant) : Int :=
  let days := a.date.number - b.date.number
  let seconds : Int := (a.second : Int) - b.second + leapAdjustment a b
  (days * 86400 + seconds) * 1000000000 + ((a.nano : Int) - b.nano)

/-- The order of instants: by date, then by the clock. -/
def compare (a b : Instant) : Ordering :=
  (Ord.compare a.date.number b.date.number).then
    ((Ord.compare a.second b.second).then (Ord.compare a.nano b.nano))

def before (a b : Instant) : Bool :=
  a.compare b == .lt

/-- The instant some seconds away on the clock. -/
def addSeconds (t : Instant) (seconds : Int) : Instant :=
  let total := (t.second : Int) + seconds
  { date := t.date.addDays (total / 86400)
    second := (total % 86400).toNat
    nano := t.nano
    second_lt := by omega
    nano_lt := t.nano_lt }

/-- The start of the year 2000, from which a store of microsecond precision counts. -/
def year2000 : Instant :=
  ⟨.newYear 2000, 0, 0, by omega, by omega⟩

/-- The instant that keeps whole microseconds only. They are counted from the start of the year 2000
and cut towards it; a leap second becomes the first second after it. -/
def toMicroseconds (t : Instant) : Instant :=
  let up := if t.since year2000 < 0 ∧ t.nano % 1000 ≠ 0 then 1 else 0
  let micros := t.nano / 1000 + up
  { t.addSeconds (micros / 1000000 : Nat) with
    nano := micros % 1000000 * 1000
    nano_lt := by omega }

end Instant

end Waterway
