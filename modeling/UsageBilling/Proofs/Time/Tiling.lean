import Mathlib.Order.Bounds.Defs
import UsageBilling.Proofs.Time.Days
/-!
Calendar months tile time. The calendar month of an instant reaches from the first instant of its month
of UTC to the first instant of the month after it. So two instants have the same calendar month exactly
if they lie in the same month, and the calendar months of two others do not meet.
-/
namespace UsageBilling

open Time

structure Month where
  year : Int
  number : Nat
  deriving DecidableEq

namespace Month

def next (month : Month) : Month :=
  if month.number = 12 then ⟨month.year + 1, 1⟩ else ⟨month.year, month.number + 1⟩

/-- The instant lies in the month: its day, as it is counted, falls on a date of the month. -/
def Holds (month : Month) (moment : Instant) : Prop :=
  ∃ day, Falls (moment.seconds / Instant.secondsPerDay) ⟨month.year, month.number, day⟩

def instants (month : Month) : Set Instant := {moment | moment.Representable ∧ month.Holds moment}

def start (month : Month) : Instant := Instant.onDate ⟨month.year, month.number, 1⟩ 0 0

end Month

namespace Instant

def month (moment : Instant) : Month := ⟨moment.date.year, moment.date.month⟩

end Instant

section

variable {month : Month} {moment other : Instant}

theorem Month.holds_iff : month.Holds moment ↔ moment.month = month := by
  simp only [Holds, falls_iff, Instant.month]
  constructor
  · rintro ⟨day, date⟩
    rw [show moment.date = ⟨month.year, month.number, day⟩ from date]
  · rintro rfl
    exact ⟨moment.date.day, rfl⟩

theorem Month.number_next (last : month.number ≤ 12) :
    1 ≤ month.next.number ∧ month.next.number ≤ 12 := by
  by_cases december : month.number = 12
  · simp [next, december]
  · simp only [next, december, if_false]
    omega

namespace Instant

theorem startOfMonth_eq (moment : Instant) : moment.startOfMonth = moment.month.start := rfl

theorem startOfNextMonth_eq (moment : Instant) : moment.startOfNextMonth = moment.month.next.start := by
  have first := Date.day_nextMonth_firstOfMonth moment.date.year moment.date.month
  by_cases december : moment.date.month = 12 <;>
    simp_all [startOfNextMonth, Month.start, Month.next, month, Date.nextMonth]

/-- Between the start of a month and that of the next one there is no other month. -/
theorem month_eq_of_bounds (start : other.startOfMonth.seconds ≤ moment.seconds)
    (finish : moment.seconds < other.startOfNextMonth.seconds) : moment.month = other.month := by
  obtain ⟨first, last, _, _⟩ := date_valid other
  have length := startOfNextMonth_seconds other
  -- The date is found by the days since the first of the month.
  obtain ⟨day, number, withinMonth⟩ : ∃ day : Nat,
      moment.seconds / secondsPerDay + epochDay =
        Date.number ⟨other.date.year, other.date.month, day + 1⟩ ∧
      day < daysInMonth other.date.year other.date.month := by
    refine ⟨(moment.seconds / secondsPerDay + epochDay -
      Date.number ⟨other.date.year, other.date.month, 1⟩).toNat, ?_⟩
    simp only [Date.number, startOfMonth, onDate, secondsPerDay, epochDay] at *
    omega
  have date : moment.date = ⟨other.date.year, other.date.month, day + 1⟩ := by
    unfold Instant.date
    rw [number]
    exact Date.ofNumber_number ⟨first, last, Nat.le_add_left .., withinMonth⟩
  rw [month, date, month]

theorem month_eq_iff : moment.month = other.month ↔
    other.startOfMonth.seconds ≤ moment.seconds ∧
      moment.seconds < other.startOfNextMonth.seconds := by
  constructor
  · intro same
    rw [startOfNextMonth_eq, startOfMonth_eq, ← same, ← startOfNextMonth_eq, ← startOfMonth_eq]
    exact month_bounds moment
  · rintro ⟨start, finish⟩
    exact month_eq_of_bounds start finish

theorem startOfMonth_inRange (inRange : moment.InRange) : moment.startOfMonth.InRange := by
  obtain ⟨earliest, latest⟩ := inRange
  obtain ⟨start, finish⟩ := month_bounds moment
  refine ⟨?_, by omega⟩
  by_contra early
  have same : (⟨earliestSecond, 0⟩ : Instant).month = moment.month :=
    month_eq_of_bounds (by simp only; omega) (by simp only; omega)
  have begins : moment.startOfMonth.seconds = earliestSecond := by
    rw [startOfMonth_eq, ← same]
    decide
  omega

theorem representable_midnight (inRange : moment.InRange) (whole : moment.nanos = 0) :
    moment.Representable := ⟨inRange, .inl (by omega)⟩

theorem startOfMonth_isLeast (inRange : moment.InRange) :
    IsLeast moment.month.instants moment.startOfMonth := by
  obtain ⟨start, finish⟩ := month_bounds moment
  have length := startOfNextMonth_seconds moment
  have days := daysInMonth_pos moment.date.year moment.date.month
  constructor
  · refine ⟨representable_midnight (startOfMonth_inRange inRange) rfl, Month.holds_iff.mpr ?_⟩
    exact month_eq_of_bounds (Int.le_refl _) (by omega)
  · rintro other ⟨_, holds⟩
    obtain ⟨reached, _⟩ := month_eq_iff.mp (Month.holds_iff.mp holds)
    exact le_of_seconds reached rfl

theorem month_startOfNextMonth (moment : Instant) :
    moment.startOfNextMonth.month = moment.month.next := by
  obtain ⟨_, last, _, _⟩ := date_valid moment
  have days := daysInMonth_pos moment.month.next.year moment.month.next.number
  obtain ⟨firstNext, lastNext⟩ : 1 ≤ moment.month.next.number ∧ moment.month.next.number ≤ 12 :=
    Month.number_next last
  have valid : Date.Valid ⟨moment.month.next.year, moment.month.next.number, 1⟩ :=
    ⟨firstNext, lastNext, Nat.le_refl _, by simp only; omega⟩
  rw [startOfNextMonth_eq, month, Month.start, date_onDate valid (by decide) (by decide)]

theorem startOfNextMonth_isLeast (before : moment.BeforeLastMonth) :
    IsLeast moment.month.next.instants moment.startOfNextMonth := by
  have least := startOfMonth_isLeast (startOfNextMonth_inRange before)
  rwa [startOfMonth_eq, month_startOfNextMonth, ← startOfNextMonth_eq] at least

end Instant

namespace Period

open Instant

theorem calendarMonth_contains_iff (before : moment.BeforeLastMonth) :
    (calendarMonth moment).contains other = true ↔ other.month = moment.month := by
  rw [month_eq_iff, calendarMonth_eq before]
  simp only [contains, Bool.and_eq_true, decide_eq_true_eq]
  constructor
  · rintro ⟨start, finish⟩
    exact ⟨start.elim Int.le_of_lt fun same => Int.le_of_eq same.1,
      finish.resolve_right fun same => Nat.not_lt_zero _ same.2⟩
  · rintro ⟨start, finish⟩
    exact ⟨le_of_seconds start rfl, lt_of_seconds finish⟩

theorem calendarMonth_eq_iff (before : moment.BeforeLastMonth) (otherBefore : other.BeforeLastMonth) :
    calendarMonth moment = calendarMonth other ↔ other.month = moment.month := by
  constructor
  · intro same
    rw [← calendarMonth_contains_iff before, same]
    exact calendarMonth_contains otherBefore
  · intro same
    rw [calendarMonth_eq before, calendarMonth_eq otherBefore, startOfNextMonth_eq,
      startOfNextMonth_eq, startOfMonth_eq, startOfMonth_eq, same]

/-- Calendar months tile time. An instant before the last month in range lies in exactly one month, and
its calendar month reaches from the first instant of that month to the first instant of the next. It
holds the instants of the month and no others; the calendar month of any instant is the same or does not
meet it; and where one ends the next one starts. -/
theorem calendarMonth_tiles (before : moment.BeforeLastMonth) : ∃ month : Month,
    (∀ other : Month, other.Holds moment ↔ other = month) ∧
    IsLeast month.instants (calendarMonth moment).start ∧
    IsLeast month.next.instants (calendarMonth moment).finish ∧
    (calendarMonth moment).contains moment = true ∧
    (∀ other : Instant, other.BeforeLastMonth →
      ((calendarMonth moment).contains other = true ↔ calendarMonth moment = calendarMonth other) ∧
      (calendarMonth moment = calendarMonth other ↔ month.Holds other) ∧
      (calendarMonth moment ≠ calendarMonth other → ∀ instant : Instant,
        ¬ ((calendarMonth moment).contains instant = true ∧
          (calendarMonth other).contains instant = true))) ∧
    ∀ later : Instant, month.next.Holds later →
      (calendarMonth later).start = (calendarMonth moment).finish := by
  have period := calendarMonth_eq before
  refine ⟨moment.month, fun other => ?_, ?_, ?_, calendarMonth_contains before, ?_, ?_⟩
  · rw [Month.holds_iff, eq_comm]
  · rw [period]
    exact startOfMonth_isLeast before.1
  · rw [period]
    exact startOfNextMonth_isLeast before
  · intro other otherBefore
    have same := calendarMonth_eq_iff before otherBefore
    refine ⟨(calendarMonth_contains_iff before).trans same.symm, same.trans Month.holds_iff.symm, ?_⟩
    rintro different instant ⟨own, others⟩
    rw [calendarMonth_contains_iff before] at own
    rw [calendarMonth_contains_iff otherBefore] at others
    exact different (same.mpr (others.symm.trans own))
  · intro later holds
    rw [Month.holds_iff] at holds
    rw [period, startOfNextMonth_eq, ← holds]
    rfl

example : (Month.mk 262142 12).start = ⟨Instant.lastMonth, 0⟩ := by decide

/-- The leap second at the end of 29 February of the year -4 and midnight after it lie in neighbouring
months. -/
theorem calendarMonth_tiles_leapSecond :
    let moment : Instant := ⟨-62288265601, 1999999999⟩
    let midnight : Instant := ⟨-62288265600, 0⟩
    moment.Representable ∧ moment.BeforeLastMonth ∧ Month.Holds ⟨-4, 2⟩ moment ∧
      (calendarMonth moment).contains moment = true ∧
      (calendarMonth moment).contains midnight = false ∧
      calendarMonth moment ≠ calendarMonth midnight ∧
      (calendarMonth midnight).start = (calendarMonth moment).finish := by
  intro moment midnight
  have before : moment.BeforeLastMonth := by decide
  have february : Month.Holds ⟨-4, 2⟩ moment := Month.holds_iff.mpr (by decide)
  have march : Month.Holds ⟨-4, 3⟩ midnight := Month.holds_iff.mpr (by decide)
  have apart : ¬ Month.Holds ⟨-4, 2⟩ midnight := fun holds =>
    absurd (Month.holds_iff.mp holds) (by decide)
  obtain ⟨month, unique, _, _, contains, others, next⟩ := calendarMonth_tiles before
  obtain rfl := (unique _).mp february
  obtain ⟨contained, same, _⟩ := others midnight (by decide)
  refine ⟨by decide, before, february, contains, ?_, mt same.mp apart, next midnight march⟩
  rw [← Bool.not_eq_true, contained]
  exact mt same.mp apart

end Period

end

end UsageBilling
