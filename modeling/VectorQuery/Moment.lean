import VectorQuery.Text.Digit
/-! Days of the calendar, and moments: a local date and time to the microsecond, with or without an
offset from universal time. Both have an ISO 8601 text. -/
namespace VectorQuery
open VectorQuery.Text

/-- An offset from universal time, in microseconds to the east. -/
structure Offset where
  microseconds : Int
  deriving DecidableEq

namespace Offset

/-- No offset from universal time. -/
def zero : Offset := ⟨0⟩

def ofSeconds (s : Int) : Offset := ⟨s * 1000000⟩

/-- A number is taken for one of seconds. -/
instance : Coe Int Offset := ⟨ofSeconds⟩

/-- An offset as `+hh:mm`, with seconds and their fraction only when there are some. -/
def text (o : Offset) : List Char :=
  let n := o.microseconds.natAbs
  (if o.microseconds < 0 then '-' else '+') ::
    padded 2 (n / 3600000000) ++ ':' :: padded 2 (n / 60000000 % 60) ++
      (if n % 60000000 = 0 then []
        else ':' :: padded 2 (n / 1000000 % 60) ++
          (if n % 1000000 = 0 then [] else '.' :: padded 6 (n % 1000000)))

example : (text ⟨500000⟩) = "+00:00:00.500000".toList ∧ (ofSeconds (-3661)).text = "-01:01:01".toList := by
  decide

end Offset

structure Moment where
  year : Nat
  month : Nat
  day : Nat
  hour : Nat
  minute : Nat
  second : Nat
  microsecond : Nat
  /-- A moment without an offset is local to nowhere. -/
  offset : Option Offset
  deriving DecidableEq

namespace Moment

def isLeap (y : Nat) : Bool := y % 4 == 0 && (y % 100 != 0 || y % 400 == 0)

def daysIn (y m : Nat) : Nat :=
  if m = 2 then (if isLeap y then 29 else 28)
  else if m = 4 ∨ m = 6 ∨ m = 9 ∨ m = 11 then 30 else 31

/-- Years 1 to 9999 of the calendar, a time of day, and an offset of less than one day. -/
def isValid (t : Moment) : Bool :=
  1 ≤ t.year && t.year ≤ 9999 && 1 ≤ t.month && t.month ≤ 12 &&
    1 ≤ t.day && t.day ≤ daysIn t.year t.month &&
    t.hour < 24 && t.minute < 60 && t.second < 60 && t.microsecond < 1000000 &&
    t.offset.all fun o => o.microseconds.natAbs < 86400000000

/-- Days of the first months of a year. -/
def daysOfMonths (y : Nat) : (months : Nat) → Nat
  | 0 => 0
  | m + 1 => daysOfMonths y m + daysIn y (m + 1)

/-- Days from the first day of year 1. -/
def dayNumber (y m d : Nat) : Nat :=
  let p := y - 1
  365*p + p/4 - p/100 + p/400 + daysOfMonths y (m - 1) + (d - 1)

/-- Microseconds of the local clock from the first midnight of year 1. -/
def localMicroseconds (t : Moment) : Int :=
  (((dayNumber t.year t.month t.day * 24 + t.hour) * 60 + t.minute) * 60 + t.second) * 1000000 +
    t.microsecond

/-- The same instant, or the same local time when neither has an offset. -/
def same (a b : Moment) : Bool :=
  match a.offset, b.offset with
  | none, none => a.localMicroseconds == b.localMicroseconds
  | some x, some y =>
    a.localMicroseconds - x.microseconds == b.localMicroseconds - y.microseconds
  | _, _ => false

/-- Date and time with `separator` between them, a fraction only when there is one, the offset. -/
def text (separator : Char) (t : Moment) : List Char :=
  padded 4 t.year ++ '-' :: padded 2 t.month ++ '-' :: padded 2 t.day ++
    separator :: padded 2 t.hour ++ ':' :: padded 2 t.minute ++ ':' :: padded 2 t.second ++
    (if t.microsecond = 0 then [] else '.' :: padded 6 t.microsecond) ++
    (match t.offset with
      | none => []
      | some o => o.text)

/-- The ISO 8601 text. -/
def iso (t : Moment) : List Char := t.text 'T'

/-- The moment with offset zero when it has none. -/
def inUniversalTime (t : Moment) : Moment :=
  { t with offset := some (t.offset.getD .zero) }

end Moment

/-- A day of the calendar, without a time. -/
structure Day where
  year : Nat
  month : Nat
  day : Nat
  deriving DecidableEq

namespace Day

/-- The day as it begins. -/
def midnight (d : Day) : Moment := ⟨d.year, d.month, d.day, 0, 0, 0, 0, none⟩

def isValid (d : Day) : Bool := d.midnight.isValid

/-- The ISO 8601 text. -/
def iso (d : Day) : List Char :=
  padded 4 d.year ++ '-' :: padded 2 d.month ++ '-' :: padded 2 d.day

end Day

end VectorQuery
