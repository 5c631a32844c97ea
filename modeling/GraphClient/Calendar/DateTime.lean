/-
  Dates and times of day.

  Key definitions include:
    * `GraphClient.Calendar.Date`
    * `GraphClient.Calendar.Clock`
    * `GraphClient.Calendar.DateTime`

  Dates follow the Gregorian calendar in both directions.  A
  minute may have a second 60, so that every leap second can be
  named, whether or not one took place.
-/

------------------------------------------------------------
-- Dates
------------------------------------------------------------

namespace GraphClient

namespace Calendar

/- The first supported year. -/
def firstYear : Int :=
  -262143

/- The last supported year. -/
def lastYear : Int :=
  262142

/- Whether a year has 366 days. -/
def isLeapYear
    (year : Int) :
    Bool :=
  year % 4 == 0 && (year % 100 != 0 || year % 400 == 0)

/- The number of days of a month. -/
def daysInMonth
    (year : Int)
    (month : Nat) :
    Nat :=
  if month = 2 then
    if isLeapYear year then 29 else 28
  else if month = 4 ∨ month = 6 ∨ month = 9 ∨ month = 11 then
    30
  else
    31

/- Whether year, month and day name a date. -/
def IsDate
    (year : Int)
    (month day : Nat) :
    Prop :=
  (firstYear ≤ year ∧ year ≤ lastYear) ∧
    (1 ≤ month ∧ month ≤ 12) ∧
    (1 ≤ day ∧ day ≤ daysInMonth year month)

instance
    (year : Int)
    (month day : Nat) :
    Decidable (IsDate year month day) := by
  unfold IsDate
  infer_instance

/- A date. -/
structure Date where
  year : Int
  month : Nat
  day : Nat
  isDate : IsDate year month day
deriving DecidableEq

/- The date of a year, month and day, if there is one. -/
def Date.of?
    (year : Int)
    (month day : Nat) :
    Option Date :=
  if hDate : IsDate year month day then
    some ⟨year, month, day, hDate⟩
  else
    none

end Calendar

end GraphClient

------------------------------------------------------------
-- Times of Day
------------------------------------------------------------

namespace GraphClient

namespace Calendar

/- Whether hour, minute and second name a time of day. -/
def IsClock
    (hour minute second : Nat) :
    Prop :=
  hour < 24 ∧ minute < 60 ∧ second ≤ 60

instance
    (hour minute second : Nat) :
    Decidable (IsClock hour minute second) := by
  unfold IsClock
  infer_instance

/- A time of day. -/
structure Clock where
  hour : Nat
  minute : Nat
  second : Nat
  isClock : IsClock hour minute second
deriving DecidableEq

/- The time of an hour, minute and second, if there is one. -/
def Clock.of?
    (hour minute second : Nat) :
    Option Clock :=
  if hClock : IsClock hour minute second then
    some ⟨hour, minute, second, hClock⟩
  else
    none

/- The start of a day. -/
def Clock.midnight : Clock :=
  ⟨0, 0, 0, by decide⟩

/- A date with a time of day. -/
structure DateTime where
  date : Date
  clock : Clock
deriving DecidableEq

end Calendar

end GraphClient
