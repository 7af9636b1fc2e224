import Mathlib.Algebra.Group.Int.Defs
import Mathlib.Algebra.Order.Group.Unbundled.Int
import UsageBilling.Proofs.Time.Months
/-!
The calendar day by day. Every day is followed by the next one of its month, or by the first of the
month after it, and the date of a day is what counting from 1 January 1970 comes to, forward and
backward.
-/
namespace UsageBilling.Time

namespace Date

def tomorrow (date : Date) : Date :=
  if date.day < daysInMonth date.year date.month then ⟨date.year, date.month, date.day + 1⟩
  else if date.month < 12 then ⟨date.year, date.month + 1, 1⟩
  else ⟨date.year + 1, 1, 1⟩

variable {date : Date}

theorem tomorrow_of_last (valid : date.Valid) (last : ¬ date.day < daysInMonth date.year date.month) :
    date.tomorrow = nextMonth ⟨date.year, date.month, 1⟩ := by
  have first := day_nextMonth_firstOfMonth date.year date.month
  obtain ⟨_, within, _, _⟩ := valid
  by_cases december : date.month = 12
  · simp_all [tomorrow, nextMonth]
  · have early : date.month < 12 := by omega
    simp_all [tomorrow, nextMonth]

theorem tomorrow_valid (valid : date.Valid) : date.tomorrow.Valid := by
  by_cases inside : date.day < daysInMonth date.year date.month
  · obtain ⟨first, last, _, _⟩ := valid
    simp only [tomorrow, if_pos inside]
    exact ⟨first, last, Nat.le_add_left .., inside⟩
  · rw [tomorrow_of_last valid inside]
    exact nextMonth_valid (firstOfMonth_valid valid)

theorem number_tomorrow (valid : date.Valid) : date.tomorrow.number = date.number + 1 := by
  by_cases inside : date.day < daysInMonth date.year date.month
  · obtain ⟨_, _, _, _⟩ := valid
    simp only [tomorrow, if_pos inside, number]
    omega
  · have next := number_nextMonth (firstOfMonth_valid valid)
    have first := day_nextMonth_firstOfMonth date.year date.month
    rw [tomorrow_of_last valid inside, next, first]
    obtain ⟨_, _, _, _⟩ := valid
    simp only [number]
    omega

theorem ofNumber_succ (number : Int) : ofNumber (number + 1) = (ofNumber number).tomorrow := by
  obtain ⟨valid, same⟩ := number_ofNumber number
  calc
    ofNumber (number + 1) = ofNumber (ofNumber number).tomorrow.number := by
      rw [number_tomorrow valid, same]
    _ = (ofNumber number).tomorrow := ofNumber_number (tomorrow_valid valid)

theorem tomorrow_injective {other : Date} (valid : date.Valid) (otherValid : other.Valid)
    (same : date.tomorrow = other.tomorrow) : date = other := by
  have numbers : date.number = other.number := by
    have next := congrArg number same
    rw [number_tomorrow valid, number_tomorrow otherValid] at next
    omega
  rw [← ofNumber_number valid, numbers, ofNumber_number otherValid]

end Date

/-- Day `day` falls on this date, where day 0 is 1 January 1970. -/
inductive Falls : Int → Date → Prop
  | epoch : Falls 0 ⟨1970, 1, 1⟩
  | next {day : Int} {date : Date} : Falls day date → Falls (day + 1) date.tomorrow
  | previous {day : Int} {date : Date} : date.Valid → Falls (day + 1) date.tomorrow → Falls day date

theorem Falls.ofNumber_eq {day : Int} {date : Date} (falls : Falls day date) :
    Date.ofNumber (day + Instant.epochDay) = date := by
  induction falls with
  | epoch => decide
  | next earlier ih => rw [add_right_comm, Date.ofNumber_succ, ih]
  | @previous day date valid later ih =>
      rw [add_right_comm, Date.ofNumber_succ] at ih
      exact Date.tomorrow_injective (Date.number_ofNumber _).1 valid ih

theorem falls_ofNumber (day : Int) : Falls day (Date.ofNumber (day + Instant.epochDay)) := by
  induction day using Int.induction_on with
  | zero => exact .epoch
  | succ day ih =>
      rw [add_right_comm, Date.ofNumber_succ]
      exact .next ih
  | pred day ih =>
      refine .previous (Date.number_ofNumber _).1 ?_
      rw [← Date.ofNumber_succ]
      convert ih using 2 <;> omega

/-- Counting gives every day exactly the date that is computed from its number. -/
theorem falls_iff {day : Int} {date : Date} :
    Falls day date ↔ Date.ofNumber (day + Instant.epochDay) = date :=
  ⟨Falls.ofNumber_eq, fun same => same ▸ falls_ofNumber day⟩

end UsageBilling.Time
