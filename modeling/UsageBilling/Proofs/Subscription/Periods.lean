import UsageBilling.Proofs.Time.Tiling
/-!
Which billing period applies at a moment. It is the row's own period where that holds the moment, and
else the calendar month, so it always holds the moment. The row of a tenant on the free plan has a first
period of one month, which applies to its own instants and to no others.
-/
namespace UsageBilling

open Time

namespace Instant

/-- `later` is at the same time of day in the next month: on the same day or, where that month is
shorter, on its last day. -/
structure MonthAfter (moment later : Instant) : Prop where
  nanos : later.nanos = moment.nanos
  secondOfDay : later.seconds % secondsPerDay = moment.seconds % secondsPerDay
  date : ∃ before after : Date, Falls (moment.seconds / secondsPerDay) before ∧
    Falls (later.seconds / secondsPerDay) after ∧
    (⟨after.year, after.month⟩ : Month) = Month.next ⟨before.year, before.month⟩ ∧
    after.day = min before.day (daysInMonth after.year after.month)

variable {moment other : Instant}

def monthLater (moment : Instant) : Instant :=
  onDate moment.date.nextMonth moment.secondOfDay moment.nanos

theorem monthLater_bounds (moment : Instant) :
    moment.seconds + 28 * secondsPerDay ≤ moment.monthLater.seconds ∧
      moment.monthLater.seconds ≤ moment.seconds + 31 * secondsPerDay ∧
      moment.monthLater.seconds % secondsPerDay = moment.seconds % secondsPerDay := by
  have bounds := Date.number_nextMonth_bounds (date_valid moment)
  have number := number_date moment
  simp only [monthLater, onDate, secondOfDay, secondsPerDay, epochDay] at *
  omega

theorem addMonth?_eq (before : moment.BeforeLastMonth) : moment.addMonth? = some moment.monthLater := by
  obtain ⟨⟨earliest, _⟩, last⟩ := before
  obtain ⟨least, most, _⟩ := monthLater_bounds moment
  apply if_pos
  change moment.monthLater.InRange
  simp only [InRange, earliestSecond, latestSecond, lastMonth, secondsPerDay] at *
  omega

theorem date_monthLater (moment : Instant) : moment.monthLater.date = moment.date.nextMonth := by
  apply date_onDate (Date.nextMonth_valid (date_valid moment)) <;>
    (simp only [secondOfDay, secondsPerDay]; omega)

theorem monthAfter_monthLater (moment : Instant) : moment.MonthAfter moment.monthLater where
  nanos := rfl
  secondOfDay := (monthLater_bounds moment).2.2
  date := by
    refine ⟨moment.date, moment.date.nextMonth, falls_ofNumber _,
      falls_iff.mpr (date_monthLater moment), ?_, rfl⟩
    by_cases december : moment.date.month = 12 <;> simp [Month.next, Date.nextMonth, december]

end Instant

theorem Subscription.currentPeriod_eq_some {row : Subscription} {own : Period} :
    row.currentPeriod = some own ↔ row.periodStart = some own.start ∧
      row.periodEnd = some own.finish ∧ own.start < own.finish := by
  unfold currentPeriod
  cases row.periodStart with
  | none => simp
  | some start =>
      cases row.periodEnd with
      | none => simp
      | some finish =>
          by_cases order : start < finish
          · simp only [order, if_true, Option.some.injEq]
            constructor
            · rintro rfl
              exact ⟨rfl, rfl, order⟩
            · rintro ⟨rfl, rfl, _⟩
              rfl
          · simp only [order, if_false, reduceCtorEq, Option.some.injEq, false_iff]
            rintro ⟨rfl, rfl, inOrder⟩
            exact order inOrder

namespace Period

/-- Both ends of a period are given by the row, in whatever order. -/
def IsGivenBy (own : Period) (row : Option Subscription) : Prop :=
  ∃ stored, row = some stored ∧ stored.periodStart = some own.start ∧
    stored.periodEnd = some own.finish

variable {row : Option Subscription} {own : Period} {moment : Instant}

theorem contains_iff {period : Period} :
    period.contains moment = true ↔ period.start ≤ moment ∧ moment < period.finish := by
  simp [contains]

theorem filter_eq_some_iff :
    (row.bind Subscription.currentPeriod).filter (·.contains moment) = some own ↔
      own.IsGivenBy row ∧ own.contains moment = true := by
  rw [Option.filter_eq_some_iff, Option.bind_eq_some_iff]
  apply and_congr_left
  intro holds
  have order := Instant.lt_of_le_of_lt (contains_iff.mp holds).1 (contains_iff.mp holds).2
  simp only [Subscription.currentPeriod_eq_some, IsGivenBy, order, and_true]

theorem IsGivenBy.unique {other : Period} (given : own.IsGivenBy row) (again : other.IsGivenBy row) :
    other = own := by
  obtain ⟨stored, present, start, finish⟩ := given
  obtain ⟨same, presentAgain, otherStart, otherFinish⟩ := again
  obtain rfl : stored = same := Option.some.inj (present.symm.trans presentAgain)
  rw [Period.mk.injEq]
  exact ⟨Option.some.inj (otherStart.symm.trans start), Option.some.inj (otherFinish.symm.trans finish)⟩

theorem ofSubscription_of_contains (given : own.IsGivenBy row) (holds : own.contains moment = true) :
    ofSubscription row moment = own := by
  simp only [ofSubscription, resolve, filter_eq_some_iff.mpr ⟨given, holds⟩, Option.getD_some]

theorem ofSubscription_of_expired
    (expired : ∀ own : Period, own.IsGivenBy row → own.contains moment = false) :
    ofSubscription row moment = calendarMonth moment := by
  have none : (row.bind Subscription.currentPeriod).filter (·.contains moment) = none := by
    rw [Option.eq_none_iff_forall_ne_some]
    intro own chosen
    obtain ⟨given, holds⟩ := filter_eq_some_iff.mp chosen
    exact absurd holds (by simp [expired own given])
  simp only [ofSubscription, resolve, none, Option.getD_none]

/-- A calendar month holds the moment it was made for, unless it is empty. -/
theorem calendarMonth_contains_of_lt
    (filled : (calendarMonth moment).start < (calendarMonth moment).finish) :
    (calendarMonth moment).contains moment = true := by
  obtain ⟨start, finish⟩ := Instant.month_bounds moment
  rw [calendarMonth_eq_ite] at filled ⊢
  by_cases inRange : moment.startOfNextMonth.InRange
  · rw [if_pos inRange, contains_iff]
    exact ⟨Instant.le_of_seconds start rfl, Instant.lt_of_seconds finish⟩
  · rw [if_neg inRange] at filled
    rcases filled with earlier | ⟨_, earlier⟩
    · exact absurd earlier (Int.lt_irrefl _)
    · exact absurd earlier (Nat.lt_irrefl _)

/-- Where both ends are in order, the period applies to no moment outside, in the last month neither. -/
theorem ofSubscription_eq_iff (given : own.IsGivenBy row) (filled : own.start < own.finish) :
    ofSubscription row moment = own ↔ own.contains moment = true := by
  refine ⟨fun same => ?_, ofSubscription_of_contains given⟩
  by_contra outside
  have month : ofSubscription row moment = calendarMonth moment :=
    ofSubscription_of_expired fun other again => by simpa [given.unique again] using outside
  rw [same] at month
  rw [month] at outside filled
  exact outside (calendarMonth_contains_of_lt filled)

/-- Which period applies. Whatever the row of a tenant gives, the period for a moment before the last
month in range holds that moment: it is the row's own exactly where both ends are given and the moment
lies between them, and else the calendar month. The row of a tenant that starts on the free plan has a
first period of 28 to 31 days, until the same time of day one month later, and it applies to the instants
of this period and to no others. -/
theorem periods_resolved {moment now : Instant} (before : moment.BeforeLastMonth)
    (present : now.BeforeLastMonth) (row : Option Subscription) (id tenant : Uuid) :
    ((ofSubscription row moment).contains moment = true ∧
      (∀ own : Period, own.IsGivenBy row →
        (ofSubscription row moment = own ↔ own.start ≤ moment ∧ moment < own.finish)) ∧
      ((∀ own : Period, own.IsGivenBy row → ¬ (own.start ≤ moment ∧ moment < own.finish)) →
        ofSubscription row moment = calendarMonth moment)) ∧
    ∃ first : Period, (Subscription.freeTier id tenant now).currentPeriod = some first ∧
      first.start = now ∧ now.MonthAfter first.finish ∧
      (∃ days : Int, 28 ≤ days ∧ days ≤ 31 ∧
        first.finish.seconds = now.seconds + days * Instant.secondsPerDay) ∧
      ∀ instant : Instant,
        ofSubscription (some (Subscription.freeTier id tenant now)) instant = first ↔
          first.start ≤ instant ∧ instant < first.finish := by
  refine ⟨⟨ofSubscription_contains before row, fun own given => ?_, fun expired => ?_⟩, ?_⟩
  · rw [← contains_iff]
    refine ⟨?_, ofSubscription_of_contains given⟩
    rintro rfl
    exact ofSubscription_contains before row
  · refine ofSubscription_of_expired fun own given => ?_
    rw [← Bool.not_eq_true, contains_iff]
    exact expired own given
  · obtain ⟨least, most, wholeDays⟩ := Instant.monthLater_bounds now
    have inOrder : now < now.monthLater := by
      apply Instant.lt_of_seconds
      simp only [Instant.secondsPerDay] at least
      omega
    have given : IsGivenBy ⟨now, now.monthLater⟩ (some (Subscription.freeTier id tenant now)) :=
      ⟨_, rfl, rfl, Instant.addMonth?_eq present⟩
    refine ⟨⟨now, now.monthLater⟩, ?_, rfl, Instant.monthAfter_monthLater now, ?_, fun instant => ?_⟩
    · exact Subscription.currentPeriod_eq_some.mpr ⟨rfl, Instant.addMonth?_eq present, inOrder⟩
    · refine ⟨(now.monthLater.seconds - now.seconds) / Instant.secondsPerDay, ?_⟩
      simp only [Instant.secondsPerDay] at *
      omega
    · rw [ofSubscription_eq_iff given inOrder, contains_iff]

/-- From the leap second of 31 January 2024 on, the first period lasts until that of 29 February. A row
whose period has ended then leaves the calendar month. -/
theorem periods_resolved_leapYear :
    let now : Instant := ⟨1706745599, 1500000000⟩
    let finish : Instant := ⟨1709251199, 1500000000⟩
    let row := Subscription.freeTier ⟨1⟩ ⟨7⟩ now
    let expired := { row with periodStart := some ⟨0, 0⟩, periodEnd := some now }
    now.Representable ∧ now.BeforeLastMonth ∧ ofSubscription (some expired) now = calendarMonth now ∧
      row.currentPeriod = some ⟨now, finish⟩ ∧
      ofSubscription (some row) now = ⟨now, finish⟩ ∧
      ofSubscription (some row) finish = calendarMonth finish := by
  intro now finish row expired
  have before : now.BeforeLastMonth := by decide
  have after : finish.BeforeLastMonth := by decide
  have current : row.currentPeriod = some ⟨now, finish⟩ := by decide
  have given : IsGivenBy ⟨now, finish⟩ (some row) :=
    ⟨row, rfl, (Subscription.currentPeriod_eq_some.mp current).1,
      (Subscription.currentPeriod_eq_some.mp current).2.1⟩
  obtain ⟨⟨_, _, fallBack⟩, _⟩ := periods_resolved before before (some expired) ⟨1⟩ ⟨7⟩
  obtain ⟨⟨_, _, ended⟩, first, firstCurrent, _, _, _, exact⟩ :=
    periods_resolved after before (some row) ⟨1⟩ ⟨7⟩
  obtain rfl : first = ⟨now, finish⟩ := Option.some.inj (firstCurrent.symm.trans current)
  refine ⟨by decide, before, fallBack ?_, current, (exact now).mpr (by decide), ended ?_⟩
  · intro own other
    obtain rfl : (⟨⟨0, 0⟩, now⟩ : Period) = own := other.unique ⟨expired, rfl, rfl, rfl⟩
    decide
  · intro own other
    obtain rfl : (⟨now, finish⟩ : Period) = own := other.unique given
    decide

end Period

end UsageBilling
