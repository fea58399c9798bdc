import Restock.Calendar.Day

/-!
Years, months and days of the month. Years are counted from the first of March, so that a leap day
is the last day of its year, in cycles of 400 years.
-/
namespace Restock

/-- A day by its year, month and day of the month, each as it is written. -/
structure Civil where
  year : Nat
  month : Nat
  day : Nat
deriving DecidableEq, Repr

/-- The days of a cycle of 400 years. -/
def cycleDays : Nat := 146097

/-- The days from the first of March of the year 0 to the day before day 1. -/
def daysBeforeFirst : Nat := 305

/-- Whether the year has a 29th of February. -/
def isLeapYear (y : Nat) : Bool := y % 4 == 0 && (y % 100 != 0 || y % 400 == 0)

/-- How many days a month has. -/
def daysInMonth (y m : Nat) : Nat :=
  if m = 2 then (if isLeapYear y then 29 else 28)
  else if m = 4 ∨ m = 6 ∨ m = 9 ∨ m = 11 then 30 else 31

/-- A day within its cycle: the year of the cycle, the month from March on, the day of the month. -/
structure CycleDay where
  cycle : Nat
  year : Nat
  month : Nat
  day : Nat

/-- Finds the place of a day in its cycle. -/
def Day.cycleDay (d : Day) : CycleDay :=
  let n := d.ordinal.toNat + daysBeforeFirst
  let inCycle := n % cycleDays
  let year := (inCycle - inCycle / 1460 + inCycle / 36524 - inCycle / 146096) / 365
  let inYear := inCycle - (365 * year + year / 4 - year / 100)
  let month := (5 * inYear + 2) / 153
  ⟨n / cycleDays, year, month, inYear - (153 * month + 2) / 5 + 1⟩

/-- The month of a day. -/
def Day.month (d : Day) : Month := ⟨(d.cycleDay.month + 2) % 12, Nat.mod_lt _ (by decide)⟩

/-- The year, month and day of the month of a day. -/
def Day.civil (d : Day) : Civil :=
  let c := d.cycleDay
  ⟨400 * c.cycle + c.year + (if c.month < 10 then 0 else 1), d.month.number, c.day⟩

/-- The day that a year, month and day of the month name, if there is one. -/
def Day.ofCivil? (c : Civil) : Option Day :=
  if 1 ≤ c.year ∧ c.year ≤ 9999 ∧ 1 ≤ c.month ∧ c.month ≤ 12 ∧ 1 ≤ c.day
      ∧ c.day ≤ daysInMonth c.year c.month then
    let year := if c.month ≤ 2 then c.year - 1 else c.year
    let month := (c.month + 9) % 12
    let inCycle := year % 400 * 365 + year % 400 / 4 - year % 400 / 100
      + ((153 * month + 2) / 5 + c.day - 1)
    Day.ofOrdinal? (year / 400 * cycleDays + inCycle - daysBeforeFirst)
  else none

end Restock
