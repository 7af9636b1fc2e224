import UsageBilling.Proofs.Time.Calendar
import UsageBilling.Subscription.Basic
/-!
Months of UTC. The month of an instant holds it, as long as the month after it is in range, and so does
the billing period of a tenant, whatever its row says.
-/
namespace UsageBilling

open Time

namespace Time.Date

variable {date : Date}

theorem firstOfMonth_valid (valid : date.Valid) : Valid ⟨date.year, date.month, 1⟩ := by
  obtain ⟨first, last, _, _⟩ := valid
  have := daysInMonth_pos date.year date.month
  exact ⟨first, last, Nat.le_refl _, by simp only; omega⟩

theorem nextMonth_valid (valid : date.Valid) : date.nextMonth.Valid := by
  obtain ⟨_, last, day, _⟩ := valid
  have january := daysInMonth_pos (date.year + 1) 1
  have following := daysInMonth_pos date.year (date.month + 1)
  by_cases december : date.month = 12
  · simp only [Valid, nextMonth, december, if_true]
    omega
  · simp only [Valid, nextMonth, december, if_false]
    omega

theorem number_nextMonth (valid : date.Valid) : date.nextMonth.number =
    date.number + daysInMonth date.year date.month - date.day + date.nextMonth.day := by
  obtain ⟨first, _, day, _⟩ := valid
  by_cases december : date.month = 12
  · have length : daysBeforeMonth date.year 13 =
        daysBeforeMonth date.year 12 + daysInMonth date.year 12 := rfl
    have whole := daysBeforeMonth_thirteen date.year
    have next := daysBeforeYear_succ date.year
    have newYear : daysBeforeMonth (date.year + 1) 1 = 0 := rfl
    have days := daysInMonth_pos (date.year + 1) 1
    simp only [number, nextMonth, december, if_true, next, newYear]
    omega
  · have length := daysBeforeMonth_succ date.year first
    have days := daysInMonth_pos date.year (date.month + 1)
    simp only [number, nextMonth, december, if_false]
    omega

theorem day_nextMonth_firstOfMonth (year : Int) (month : Nat) :
    (nextMonth ⟨year, month, 1⟩).day = 1 :=
  Nat.min_eq_left (Nat.le_trans (show 1 ≤ 28 by decide) (daysInMonth_pos _ _))

theorem number_nextMonth_bounds (valid : date.Valid) :
    date.number + 28 ≤ date.nextMonth.number ∧ date.nextMonth.number ≤ date.number + 31 := by
  have length := number_nextMonth valid
  obtain ⟨_, _, _, withinMonth⟩ := valid
  have days := daysInMonth_pos date.year date.month
  have most := daysInMonth_le date.year date.month
  have next := daysInMonth_pos date.nextMonth.year date.nextMonth.month
  have day : date.nextMonth.day =
      min date.day (daysInMonth date.nextMonth.year date.nextMonth.month) := rfl
  omega

end Time.Date

namespace Instant

/-- The first second of the last month in range. -/
def lastMonth : Int := 8210264198400

def BeforeLastMonth (moment : Instant) : Prop := moment.InRange ∧ moment.seconds < lastMonth

instance (moment : Instant) : Decidable moment.BeforeLastMonth := inferInstanceAs (Decidable (_ ∧ _))

theorem date_onDate {date : Date} (valid : date.Valid) {second : Int} (start : 0 ≤ second)
    (finish : second < secondsPerDay) (nanos : Nat) : (onDate date second nanos).date = date := by
  have day : (onDate date second nanos).seconds / secondsPerDay + epochDay = date.number := by
    simp only [onDate, secondsPerDay, epochDay] at *
    omega
  unfold Instant.date
  rw [day, Date.ofNumber_number valid]

def startOfNextMonth (moment : Instant) : Instant :=
  onDate (Date.nextMonth ⟨moment.date.year, moment.date.month, 1⟩) 0 0

theorem date_valid (moment : Instant) : moment.date.Valid := (Date.number_ofNumber _).1

theorem number_date (moment : Instant) :
    moment.date.number = moment.seconds / secondsPerDay + epochDay := (Date.number_ofNumber _).2

theorem startOfNextMonth_seconds (moment : Instant) : moment.startOfNextMonth.seconds =
    moment.startOfMonth.seconds +
      daysInMonth moment.date.year moment.date.month * secondsPerDay := by
  have next := Date.number_nextMonth (Date.firstOfMonth_valid (date_valid moment))
  have first := Date.day_nextMonth_firstOfMonth moment.date.year moment.date.month
  simp only [startOfNextMonth, startOfMonth, onDate, next, first, secondsPerDay]
  omega

theorem month_bounds (moment : Instant) : moment.startOfMonth.seconds ≤ moment.seconds ∧
    moment.seconds < moment.startOfNextMonth.seconds := by
  obtain ⟨_, _, _, withinMonth⟩ := date_valid moment
  have number := number_date moment
  rw [startOfNextMonth_seconds]
  simp only [Date.number, startOfMonth, onDate, secondsPerDay, epochDay] at *
  omega

theorem addMonth?_startOfMonth (moment : Instant) : moment.startOfMonth.addMonth? =
    if moment.startOfNextMonth.InRange then some moment.startOfNextMonth else none := by
  have start : moment.startOfMonth.date = ⟨moment.date.year, moment.date.month, 1⟩ :=
    date_onDate (Date.firstOfMonth_valid (date_valid moment)) (by decide) (by decide) 0
  have midnight : moment.startOfMonth.secondOfDay = 0 := by
    simp only [secondOfDay, startOfMonth, onDate, secondsPerDay]
    omega
  simp only [addMonth?, start, midnight]
  rfl

theorem startOfNextMonth_inRange {moment : Instant} (before : moment.BeforeLastMonth) :
    moment.startOfNextMonth.InRange := by
  obtain ⟨⟨earliest, _⟩, last⟩ := before
  obtain ⟨start, finish⟩ := month_bounds moment
  have length := startOfNextMonth_seconds moment
  have days := daysInMonth_le moment.date.year moment.date.month
  simp only [InRange, earliestSecond, latestSecond, lastMonth, secondsPerDay] at *
  omega

end Instant

namespace Period

open Instant

/-- The calendar month reaches from the start of one month to the start of the next. -/
theorem calendarMonth_eq_ite (moment : Instant) : calendarMonth moment =
    ⟨moment.startOfMonth,
      if moment.startOfNextMonth.InRange then moment.startOfNextMonth else moment.startOfMonth⟩ := by
  simp only [calendarMonth, addMonth?_startOfMonth]
  split <;> rfl

theorem calendarMonth_eq {moment : Instant} (before : moment.BeforeLastMonth) :
    calendarMonth moment = ⟨moment.startOfMonth, moment.startOfNextMonth⟩ := by
  rw [calendarMonth_eq_ite, if_pos (startOfNextMonth_inRange before)]

theorem calendarMonth_contains {moment : Instant} (before : moment.BeforeLastMonth) :
    (calendarMonth moment).contains moment = true := by
  obtain ⟨start, finish⟩ := month_bounds moment
  simp only [calendarMonth_eq before, contains, Bool.and_eq_true, decide_eq_true_eq]
  exact ⟨le_of_seconds start rfl, lt_of_seconds finish⟩

theorem resolve_contains {moment : Instant} (before : moment.BeforeLastMonth) (own : Option Period) :
    (resolve own moment).contains moment = true := by
  unfold resolve
  cases found : own.filter (·.contains moment) with
  | none => exact calendarMonth_contains before
  | some period => exact (Option.filter_eq_some_iff.mp found).2

theorem ofSubscription_contains {moment : Instant} (before : moment.BeforeLastMonth)
    (row : Option Subscription) : (ofSubscription row moment).contains moment = true :=
  resolve_contains before _

end Period

end UsageBilling
