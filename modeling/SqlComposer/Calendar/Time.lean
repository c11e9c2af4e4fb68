import SqlComposer.Calendar.Date

/-! # Times of day and timestamps

A time has nanoseconds and allows the second sixty for leap seconds.  A timestamp is a date and a
time; the instants of a time zone are kept as timestamps in UTC. -/

namespace SqlComposer

/-- A time of day. -/
structure Time where
  hour : Nat
  minute : Nat
  second : Nat
  nanosecond : Nat
  inRange : hour < 24 ∧ minute < 60 ∧ second ≤ 60 ∧ nanosecond < 1000000000
  deriving DecidableEq, Repr

namespace Time

/-- The time of the given parts, if they are in range. -/
def ofParts? (hour minute second nanosecond : Nat) : Option Time :=
  if h : hour < 24 ∧ minute < 60 ∧ second ≤ 60 ∧ nanosecond < 1000000000 then
    some ⟨hour, minute, second, nanosecond, h⟩
  else none

/-- Nanoseconds since midnight; a leap second counts as the second after the fifty-ninth. -/
def nanoseconds (t : Time) : Nat :=
  ((t.hour * 60 + t.minute) * 60 + t.second) * 1000000000 + t.nanosecond

/-- A fraction of a second: none, or three, six or nine digits, the fewest that are exact. -/
def fractionText (nanosecond : Nat) : List Char :=
  if nanosecond = 0 then []
  else if nanosecond % 1000000 = 0 then '.' :: padded 3 (nanosecond / 1000000)
  else if nanosecond % 1000 = 0 then '.' :: padded 6 (nanosecond / 1000)
  else '.' :: padded 9 nanosecond

/-- Hour, minute and second with colons between them, and the fraction. -/
def chars (t : Time) : List Char :=
  padded 2 t.hour ++ ':' :: (padded 2 t.minute ++ ':' :: (padded 2 t.second ++
    fractionText t.nanosecond))

/-- The text of a time. -/
def text (t : Time) : String := String.ofList t.chars

end Time

/-- A date and a time of day. -/
structure Timestamp where
  date : Date
  time : Time
  deriving DecidableEq, Repr

namespace Timestamp

/-- Date and time with a character between them. -/
def chars (separator : Char) (t : Timestamp) : List Char :=
  t.date.chars ++ separator :: t.time.chars

/-- Nanoseconds since the beginning of the year 2000. -/
def nanoseconds (t : Timestamp) : Int :=
  t.date.dayNumber * 86400000000000 + (t.time.nanoseconds : Int)

/-- The time of day some minutes earlier or later, with the days gone by. -/
def shiftTime (t : Time) (minutes : Int) : Int × Time :=
  let total : Int := (t.hour * 60 + t.minute : Nat) + minutes
  let ofDay := (total % 1440).toNat
  have h : ofDay < 1440 := by omega
  (total / 1440, ⟨ofDay / 60, ofDay % 60, t.second, t.nanosecond,
    by omega, by omega, t.inRange.2.2.1, t.inRange.2.2.2⟩)

/-- The timestamp at most one day earlier or later, unless the calendar ends before. -/
def addMinutes? (t : Timestamp) (minutes : Int) : Option Timestamp :=
  let (days, time) := shiftTime t.time minutes
  let date := if days = 0 then some t.date else if days < 0 then t.date.previous? else t.date.next?
  date.map fun date => ⟨date, time⟩

end Timestamp

end SqlComposer
