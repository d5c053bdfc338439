import VectorQuery.Datum.Basic
import VectorQuery.Fault
import VectorQuery.Text.Digit
/-! Timestamps: a date, or a date and a time with or without an offset from universal time. -/
namespace VectorQuery.Yaml
open VectorQuery.Text

/-- A time of day as it is written. -/
structure ClockTime where
  hour : Nat
  minute : Nat
  second : Nat
  /-- the digits after the point -/
  fraction : List Nat
  /-- seconds east of universal time -/
  offset : Option Int

/-- A timestamp as it is written; it need not be in the calendar. -/
structure Timestamp where
  date : Day
  time : Option ClockTime

namespace Timestamp

/-- The number that a text begins with, of `most` digits or fewer but at least `least`, and the rest. -/
def number? (least most : Nat) (s : List Char) : Option (Nat × List Char) :=
  let ds := (s.take most).takeWhile Char.isDigit
  if ds.length < least then none
  else some (ofDigits 10 (ds.filterMap asciiDigit?), s.drop ds.length)

/-- A text after a character that it begins with. -/
def after? (c : Char) : List Char → Option (List Char)
  | [] => none
  | x :: r => if x = c then some r else none

def isBlank (c : Char) : Bool := c == ' ' || c == '\t'

/-- The offset at the end of a timestamp, if any. -/
def offset? (s : List Char) : Option (Option Int) :=
  match s, s.dropWhile isBlank with
  | [], _ => some none
  | _, ['Z'] => some (some 0)
  | _, sign :: r => do
    if sign != '+' && sign != '-' then none
    let (hours, r) ← number? 1 2 r
    let minutes ← match r with
      | [] => pure 0
      | r => do
        let (minutes, r) ← number? 2 2 (← after? ':' r)
        if r.isEmpty then pure minutes else none
    let seconds : Int := hours * 3600 + minutes * 60
    return some (if sign = '-' then -seconds else seconds)
  | _, [] => none

/-- The time of day that a text is. -/
def clockTime? (s : List Char) : Option ClockTime := do
  let (hour, r) ← number? 1 2 s
  let (minute, r) ← number? 2 2 (← after? ':' r)
  let (second, r) ← number? 2 2 (← after? ':' r)
  match r with
  | '.' :: r =>
    let ds := r.takeWhile Char.isDigit
    let offset ← offset? (r.drop ds.length)
    return ⟨hour, minute, second, ds.filterMap asciiDigit?, offset⟩
  | r => return ⟨hour, minute, second, [], ← offset? r⟩

/-- The text after what separates a date from a time: a letter, or blanks. -/
def afterDate? : List Char → Option (List Char)
  | [] => none
  | c :: r => if c = 'T' ∨ c = 't' then some r else if isBlank c then some (r.dropWhile isBlank) else none

/-- A text without one line feed at its end. -/
def withoutLineFeed (s : List Char) : List Char := if s.getLast? = some '\n' then s.dropLast else s

/-- The timestamp that a text is; one line feed may follow it. -/
def read? (s : List Char) : Option Timestamp := do
  let (year, r) ← number? 4 4 (withoutLineFeed s)
  let (month, r) ← number? 1 2 (← after? '-' r)
  let (day, r) ← number? 1 2 (← after? '-' r)
  if r.isEmpty then return ⟨⟨year, month, day⟩, none⟩
  else return ⟨⟨year, month, day⟩, some (← clockTime? (← afterDate? r))⟩

/-- A plain scalar that is a timestamp: a date alone has all its digits. -/
def isTimestamp (s : List Char) : Bool :=
  (read? s).any fun t => t.time.isSome || (withoutLineFeed s).length == 10

/-- The microseconds of the digits after the point; further digits do not count. -/
def microseconds (ds : List Nat) : Nat :=
  ofDigits 10 (ds.take 6 ++ List.replicate (6 - ds.length) 0)

/-- The day or the moment that a timestamp is, if the calendar has it. -/
def datum (t : Timestamp) : Checked Datum :=
  match t.time with
  | none => if t.date.isValid then .ok (.day t.date) else .error .badValue
  | some c =>
    let m : Moment := ⟨t.date.year, t.date.month, t.date.day, c.hour, c.minute, c.second,
      microseconds c.fraction, c.offset.map Offset.ofSeconds⟩
    if m.isValid then .ok (.moment m) else .error .badValue

end Timestamp

end VectorQuery.Yaml
