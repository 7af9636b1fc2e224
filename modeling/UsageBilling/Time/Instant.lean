import UsageBilling.Time.Calendar
/-!
Instants of UTC: seconds since the start of 1970 and nanoseconds within the second. A leap second
is written on the second before it, with nanoseconds from 1000000000 on.
-/
namespace UsageBilling

structure Instant where
  seconds : Int
  nanos : Nat
  deriving DecidableEq, Repr, Inhabited

namespace Instant

instance : LE Instant :=
  ⟨fun a b => a.seconds < b.seconds ∨ a.seconds = b.seconds ∧ a.nanos ≤ b.nanos⟩

instance : LT Instant :=
  ⟨fun a b => a.seconds < b.seconds ∨ a.seconds = b.seconds ∧ a.nanos < b.nanos⟩

instance (a b : Instant) : Decidable (a ≤ b) := inferInstanceAs (Decidable (_ ∨ _))

instance (a b : Instant) : Decidable (a < b) := inferInstanceAs (Decidable (_ ∨ _))

theorem lt_of_seconds {first second : Instant} (order : first.seconds < second.seconds) :
    first < second := .inl order

theorem le_of_seconds {first second : Instant} (order : first.seconds ≤ second.seconds)
    (whole : first.nanos = 0) : first ≤ second := by
  rcases Int.lt_or_eq_of_le order with earlier | same
  · exact .inl earlier
  · exact .inr ⟨same, whole ▸ Nat.zero_le _⟩

theorem le_of_lt {first second : Instant} (order : first < second) : first ≤ second := by
  rcases order with earlier | ⟨same, earlier⟩
  · exact .inl earlier
  · exact .inr ⟨same, Nat.le_of_lt earlier⟩

theorem lt_irrefl (moment : Instant) : ¬ moment < moment := by
  rintro (earlier | ⟨_, earlier⟩)
  · exact Int.lt_irrefl _ earlier
  · exact Nat.lt_irrefl _ earlier

theorem lt_of_le_of_lt {first second third : Instant} (left : first ≤ second) (right : second < third) :
    first < third := by
  rcases left with left | ⟨leftSame, left⟩ <;> rcases right with right | ⟨rightSame, right⟩
  · exact .inl (by omega)
  · exact .inl (by omega)
  · exact .inl (by omega)
  · exact .inr ⟨by omega, by omega⟩

theorem lt_trans {first second third : Instant} (left : first < second) (right : second < third) :
    first < third := lt_of_le_of_lt (le_of_lt left) right

theorem lt_trichotomy (first second : Instant) : first < second ∨ first = second ∨ second < first := by
  obtain ⟨firstSeconds, firstNanos⟩ := first
  obtain ⟨secondSeconds, secondNanos⟩ := second
  rcases Int.lt_trichotomy firstSeconds secondSeconds with earlier | rfl | later
  · exact .inl (.inl earlier)
  · rcases Nat.lt_trichotomy firstNanos secondNanos with earlier | rfl | later
    · exact .inl (.inr ⟨rfl, earlier⟩)
    · exact .inr (.inl rfl)
    · exact .inr (.inr (.inr ⟨rfl, later⟩))
  · exact .inr (.inr (.inl later))

def earliestSecond : Int := -8334601228800

def latestSecond : Int := 8210266876799

/-- The number of 1 January 1970. -/
def epochDay : Int := 719162

def secondsPerDay : Int := 86400

def InRange (instant : Instant) : Prop :=
  earliestSecond ≤ instant.seconds ∧ instant.seconds ≤ latestSecond

instance (instant : Instant) : Decidable instant.InRange := inferInstanceAs (Decidable (_ ∧ _))

/-- In range, with nanoseconds below one second, or below two in the last second of a minute. -/
def Representable (instant : Instant) : Prop :=
  instant.InRange ∧
    (instant.nanos < 1000000000 ∨ instant.nanos < 2000000000 ∧ instant.seconds % 60 = 59)

instance (instant : Instant) : Decidable instant.Representable :=
  inferInstanceAs (Decidable (_ ∧ _))

def ofParts? (seconds : Int) (nanos : Nat) : Option Instant :=
  let instant : Instant := ⟨seconds, nanos⟩
  if instant.Representable then some instant else none

def ofUnix? (seconds : Int) : Option Instant := ofParts? seconds 0

def date (instant : Instant) : Time.Date :=
  .ofNumber (instant.seconds / secondsPerDay + epochDay)

def secondOfDay (instant : Instant) : Int := instant.seconds % secondsPerDay

def onDate (date : Time.Date) (secondOfDay : Int) (nanos : Nat) : Instant :=
  ⟨(date.number - epochDay) * secondsPerDay + secondOfDay, nanos⟩

def startOfMonth (instant : Instant) : Instant :=
  let date := instant.date
  onDate ⟨date.year, date.month, 1⟩ 0 0

/-- The same time of day one month later, unless that is out of range. -/
def addMonth? (instant : Instant) : Option Instant :=
  let later := onDate instant.date.nextMonth instant.secondOfDay instant.nanos
  if later.InRange then some later else none

def addMillis (instant : Instant) (millis : Nat) : Instant :=
  let nanos := instant.nanos + millis * 1000000
  ⟨instant.seconds + (nanos / 1000000000 : Nat), nanos % 1000000000⟩

end Instant

end UsageBilling
