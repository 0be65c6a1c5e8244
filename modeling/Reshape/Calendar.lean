/-!
# The proleptic Gregorian calendar

Days are counted from 1 January of the year 0, years before it being negative. `Date.ofDay` finds
the date of a day, `Date.day` the day of a date.
-/

namespace Reshape

/-- A `Date` is a year, a month from 1 to 12, and a day of the month from 1. -/
structure Date where
  year : Int
  month : Nat
  dayOfMonth : Nat
deriving DecidableEq

namespace Date

/-- `isLeap year` says the year has 366 days. -/
def isLeap (year : Int) : Bool :=
  year % 4 == 0 && (year % 100 != 0 || year % 400 == 0)

/-- `monthLengths year` are the lengths of the twelve months. -/
def monthLengths (year : Int) : List Nat :=
  [31, if isLeap year then 29 else 28, 31, 30, 31, 30, 31, 31, 30, 31, 30, 31]

/-- `yearStart year` is the day on which the year begins. -/
def yearStart (year : Int) : Int :=
  365 * year + (year + 3).fdiv 4 - (year + 99).fdiv 100 + (year + 399).fdiv 400

/-- `date.isValid` says the month exists and has that day. -/
def isValid (date : Date) : Bool :=
  match date.month with
  | 0 => false
  | month + 1 =>
    match (monthLengths date.year)[month]? with
    | some length => 1 ≤ date.dayOfMonth && date.dayOfMonth ≤ length
    | none => false

/-- `daysBefore year month` are the days of the year before a month. -/
def daysBefore (year : Int) (month : Nat) : Nat :=
  ((monthLengths year).take (month - 1)).foldl (· + ·) 0

/-- `date.day` is the day of a valid date. -/
def day (date : Date) : Int :=
  yearStart date.year + daysBefore date.year date.month + date.dayOfMonth - 1

/-- `inMonth lengths month n` finds the month and the day of the month of the `n`-th day, counted
from 0, of the months from `month` on. -/
def inMonth : List Nat → Nat → Nat → Nat × Nat
  | [], month, n => (month, n + 1)
  | length :: rest, month, n =>
    if n < length then (month, n + 1) else inMonth rest (month + 1) (n - length)

/-- `yearOf n` is the year in which day `n` falls. -/
def yearOf (n : Int) : Int :=
  let guess := (n * 400).fdiv 146097
  if n < yearStart guess then guess - 1
  else if n < yearStart (guess + 1) then guess
  else guess + 1

/-- `ofDay n` is the date of day `n`. -/
def ofDay (n : Int) : Date :=
  let year := yearOf n
  let (month, dayOfMonth) := inMonth (monthLengths year) 1 (n - yearStart year).toNat
  ⟨year, month, dayOfMonth⟩

end Date

end Reshape
