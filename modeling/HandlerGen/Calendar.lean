import HandlerGen.Text
/-!
# Dates and times

Calendar dates of the years 1 to 9999 and times of day on them, with or
without a distance from universal time. A day or a time that does not
exist has no value here: `Date.of?` and `Moment.of?` refuse it.
-/

namespace HandlerGen

/-- A calendar date. -/
structure Date where
  year : Nat
  month : Nat
  day : Nat
deriving DecidableEq, Repr

/-- A date with a time of day. The distance from universal time is in
minutes, if it is known. -/
structure Moment where
  date : Date
  hour : Nat
  minute : Nat
  second : Nat
  microsecond : Nat
  offset : Option Int
deriving DecidableEq, Repr

namespace Date

/-- Whether February has a twenty-ninth day. -/
def isLeap (year : Nat) : Bool := (year % 4 = 0 && year % 100 ≠ 0) || year % 400 = 0

/-- The number of days of a month. -/
def monthLength (year month : Nat) : Nat :=
  if month = 2 then (if isLeap year then 29 else 28)
  else if month = 4 ∨ month = 6 ∨ month = 9 ∨ month = 11 then 30
  else 31

/-- The date of a year, a month and a day, if there is one. -/
def of? (year month day : Nat) : Option Date :=
  if 1 ≤ year ∧ year ≤ 9999 ∧ 1 ≤ month ∧ month ≤ 12 ∧ 1 ≤ day ∧ day ≤ monthLength year month then
    some ⟨year, month, day⟩
  else none

end Date

/-- The moment with these parts, if there is one. A distance from
universal time is less than a day. -/
def Moment.of? (date : Option Date) (hour minute second microsecond : Nat) (offset : Option Int) :
    Option Moment :=
  match date with
  | none => none
  | some date =>
    let near : Bool := offset.all fun m => m.natAbs < 24 * 60
    if hour < 24 ∧ minute < 60 ∧ second < 60 ∧ near then
      some ⟨date, hour, minute, second, microsecond, offset⟩
    else none

end HandlerGen
