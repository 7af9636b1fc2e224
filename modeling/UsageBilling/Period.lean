import UsageBilling.Time.Instant
/-!
Billing periods. A period holds its start and not its end.
-/
namespace UsageBilling

structure Period where
  start : Instant
  finish : Instant
  deriving DecidableEq, Repr, Inhabited

namespace Period

def contains (period : Period) (moment : Instant) : Bool :=
  period.start ≤ moment && moment < period.finish

/-- The month of UTC that `moment` lies in. Where the next month is out of range it is empty. -/
def calendarMonth (moment : Instant) : Period :=
  let start := moment.startOfMonth
  ⟨start, start.addMonth?.getD start⟩

/-- The period `own` where it contains `moment`, and else the calendar month. -/
def resolve (own : Option Period) (moment : Instant) : Period :=
  (own.filter (·.contains moment)).getD (calendarMonth moment)

end Period

end UsageBilling
