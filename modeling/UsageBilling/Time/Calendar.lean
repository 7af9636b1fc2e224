/-!
The proleptic Gregorian calendar. Days are numbered from 1 January of the year 1, which is day 0;
years before it are 0, -1 and so on.
-/
namespace UsageBilling.Time

structure Date where
  year : Int
  month : Nat
  day : Nat
  deriving DecidableEq, Repr

def isLeap (year : Int) : Bool :=
  year % 4 == 0 && (year % 100 != 0 || year % 400 == 0)

def leapDays (year : Int) : Nat := if isLeap year then 1 else 0

def daysInMonth (year : Int) : Nat → Nat
  | 2 => 28 + leapDays year
  | 4 | 6 | 9 | 11 => 30
  | _ => 31

def daysBeforeMonth (year : Int) : Nat → Nat
  | 0 | 1 => 0
  | month + 1 => daysBeforeMonth year month + daysInMonth year month

def daysBeforeYear (year : Int) : Int :=
  let past := year - 1
  365 * past + past / 4 - past / 100 + past / 400

/-- The year that day `number` lies in: whole cycles of 400, 100, 4 and 1 years are taken off in
turn, where the last century of a cycle and the last year of four may be a day longer. -/
def yearOf (number : Int) : Int :=
  let cycle := number / 146097
  let inCycle := number % 146097
  let century := min 3 (inCycle / 36524)
  let inCentury := inCycle - 36524 * century
  let four := inCentury / 1461
  let inFour := inCentury % 1461
  let single := min 3 (inFour / 365)
  400 * cycle + 100 * century + 4 * four + single + 1

def monthOf (year : Int) (index : Nat) : Nat :=
  1 + ((List.range 11).filter fun month => daysBeforeMonth year (month + 2) ≤ index).length

namespace Date

def number (date : Date) : Int :=
  daysBeforeYear date.year + daysBeforeMonth date.year date.month + (date.day - 1 : Nat)

def ofNumber (number : Int) : Date :=
  let year := yearOf number
  let index := (number - daysBeforeYear year).toNat
  let month := monthOf year index
  ⟨year, month, index - daysBeforeMonth year month + 1⟩

def Valid (date : Date) : Prop :=
  1 ≤ date.month ∧ date.month ≤ 12 ∧ 1 ≤ date.day ∧ date.day ≤ daysInMonth date.year date.month

instance (date : Date) : Decidable date.Valid := inferInstanceAs (Decidable (_ ∧ _))

/-- The same day of the next month, or the last day of that month if it is shorter. -/
def nextMonth (date : Date) : Date :=
  let year := if date.month = 12 then date.year + 1 else date.year
  let month := if date.month = 12 then 1 else date.month + 1
  ⟨year, month, min date.day (daysInMonth year month)⟩

end Date

end UsageBilling.Time
