/-!
# The calendar

## Main definitions

* `isLeapYear`, `daysInMonth`, `daysInYear`: how long months and years are.
* `Date`, `dateOfDay`: the date of a day that is given by its distance from another.
* `timestampText`: how a moment is written in generated files.

## Main results

* `daysInYear_pos`: every year has a day, so counting years comes to an end.
-/

namespace WrapperGen

/-! ### Months and years -/

/-- Whether a year has a leap day. -/
def isLeapYear (year : Nat) : Bool := year % 4 == 0 && (year % 100 != 0 || year % 400 == 0)

/-- How many days a month has.  Months are counted from one. -/
def daysInMonth (year month : Nat) : Nat :=
  if month = 2 then if isLeapYear year then 29 else 28
  else if month = 4 || month = 6 || month = 9 || month = 11 then 30
  else 31

/-- How many days a year has. -/
def daysInYear (year : Nat) : Nat := if isLeapYear year then 366 else 365

theorem daysInYear_pos (year : Nat) : 0 < daysInYear year := by
  unfold daysInYear
  split <;> omega

/-! ### Dates -/

/-- A date. -/
structure Date where
  /-- The year. -/
  year : Nat
  /-- The month, from 1 to 12. -/
  month : Nat
  /-- The day, from 1. -/
  day : Nat
  deriving DecidableEq, Repr, Inhabited

/-- The date that is `days` behind the first day of the first of some months. -/
def dateInMonths (year days : Nat) : List Nat → Date
  | [] => ⟨year, 12, 31⟩
  | month :: rest =>
      if days < daysInMonth year month then ⟨year, month, days + 1⟩
      else dateInMonths year (days - daysInMonth year month) rest

/-- The date that is `days` behind the first day of a year. -/
def dateInYears (year days : Nat) : Date :=
  if days < daysInYear year then dateInMonths year days (List.range' 1 12)
  else dateInYears (year + 1) (days - daysInYear year)
termination_by days
decreasing_by
  have := daysInYear_pos year
  omega

/-- The date that is `days` behind the first day of 1970. -/
def dateOfDay (days : Nat) : Date := dateInYears 1970 days

/-! ### Moments -/

/-- A number with zeros in front up to a number of digits. -/
def padNumber (width n : Nat) : String :=
  let digits := toString n
  String.ofList (List.replicate (width - digits.length) '0') ++ digits

/-- The moment that is some seconds behind the start of 1970, at the zero meridian. -/
def timestampText (seconds : Nat) : String :=
  let date := dateOfDay (seconds / 86400)
  let rest := seconds % 86400
  padNumber 4 date.year ++ "-" ++ padNumber 2 date.month ++ "-" ++ padNumber 2 date.day ++ "T"
    ++ padNumber 2 (rest / 3600) ++ ":" ++ padNumber 2 (rest / 60 % 60) ++ ":"
    ++ padNumber 2 (rest % 60) ++ "Z"

end WrapperGen
