import Mathlib.Data.Nat.Init
import UsageBilling.Time.Calendar
/-!
The calendar and its day numbers. Every day has one date, a valid one, and every valid date is that of
its day.
-/
namespace UsageBilling.Time

theorem leapDays_le_one (year : Int) : leapDays year ≤ 1 := by
  unfold leapDays
  split <;> omega

theorem isLeap_iff (year : Int) :
    isLeap year = true ↔ year % 4 = 0 ∧ (year % 100 ≠ 0 ∨ year % 400 = 0) := by
  simp [isLeap]

theorem daysBeforeYear_succ (year : Int) :
    daysBeforeYear (year + 1) = daysBeforeYear year + 365 + leapDays year := by
  have rule := isLeap_iff year
  cases leap : isLeap year with
  | true =>
      simp only [leap, true_iff] at rule
      simp only [daysBeforeYear, leapDays, leap, if_true]
      omega
  | false =>
      simp only [leap, Bool.false_eq_true, false_iff] at rule
      simp only [daysBeforeYear, leapDays, leap, Bool.false_eq_true, if_false]
      omega

theorem daysBeforeYear_mono {earlier later : Int} (order : earlier ≤ later) :
    daysBeforeYear earlier ≤ daysBeforeYear later := by
  simp only [daysBeforeYear]
  omega

theorem yearOf_spec (number : Int) :
    daysBeforeYear (yearOf number) ≤ number ∧ number < daysBeforeYear (yearOf number + 1) := by
  -- the cycles of 400, 100, 4 and 1 years are the digits of the year
  obtain ⟨cycle, century, four, single, year, digits, rest⟩ :
      ∃ cycle century four single : Int,
        yearOf number = 400 * cycle + 100 * century + 4 * four + single + 1 ∧
        (0 ≤ century ∧ century ≤ 3 ∧ 0 ≤ four ∧ four ≤ 24 ∧ 0 ≤ single ∧ single ≤ 3) ∧
        0 ≤ number - 146097 * cycle - 36524 * century - 1461 * four - 365 * single ∧
        (number - 146097 * cycle - 36524 * century - 1461 * four - 365 * single < 365 ∨
          number - 146097 * cycle - 36524 * century - 1461 * four - 365 * single = 365 ∧
            single = 3 ∧ (four = 24 → century = 3)) := by
    refine ⟨_, _, _, _, rfl, ?_, ?_, ?_⟩
    · omega
    · omega
    · omega
  rw [year]
  simp only [daysBeforeYear]
  constructor
  · omega
  · omega

theorem yearOf_eq {number year : Int} (start : daysBeforeYear year ≤ number)
    (finish : number < daysBeforeYear (year + 1)) : yearOf number = year := by
  obtain ⟨left, right⟩ := yearOf_spec number
  rcases Int.lt_trichotomy (yearOf number) year with earlier | same | later
  · have := daysBeforeYear_mono (show yearOf number + 1 ≤ year by omega)
    omega
  · exact same
  · have := daysBeforeYear_mono (show year + 1 ≤ yearOf number by omega)
    omega

theorem daysInMonth_pos (year : Int) (month : Nat) : 28 ≤ daysInMonth year month := by
  unfold daysInMonth
  split <;> omega

theorem daysInMonth_le (year : Int) (month : Nat) : daysInMonth year month ≤ 31 := by
  have := leapDays_le_one year
  unfold daysInMonth
  split <;> omega

theorem daysBeforeMonth_succ (year : Int) {month : Nat} (first : 1 ≤ month) :
    daysBeforeMonth year (month + 1) = daysBeforeMonth year month + daysInMonth year month := by
  obtain ⟨before, rfl⟩ : ∃ before, month = before + 1 := ⟨month - 1, by omega⟩
  rfl

theorem daysBeforeMonth_mono (year : Int) {earlier later : Nat} (first : 1 ≤ earlier)
    (order : earlier ≤ later) : daysBeforeMonth year earlier ≤ daysBeforeMonth year later := by
  induction later, order using Nat.le_induction with
  | base => exact Nat.le_refl _
  | succ month reached ih =>
      rw [daysBeforeMonth_succ year (Nat.le_trans first reached)]
      omega

theorem daysBeforeMonth_thirteen (year : Int) : daysBeforeMonth year 13 = 365 + leapDays year := by
  simp only [daysBeforeMonth, daysInMonth]
  omega

theorem length_filter_range {count total : Nat} {holds : Nat → Bool} (within : count ≤ total)
    (upTo : ∀ index < total, holds index = true ↔ index < count) :
    ((List.range total).filter holds).length = count := by
  obtain ⟨rest, rfl⟩ := Nat.exists_eq_add_of_le within
  have counted : (List.range count).filter holds = List.range count := by
    apply List.filter_eq_self.mpr
    intro index member
    have below := List.mem_range.mp member
    exact (upTo index (by omega)).mpr below
  have left : ((List.range rest).map (count + ·)).filter holds = [] := by
    apply List.filter_eq_nil_iff.mpr
    intro index member reached
    obtain ⟨beyond, inside, rfl⟩ := List.mem_map.mp member
    have below := List.mem_range.mp inside
    have := (upTo (count + beyond) (by omega)).mp reached
    omega
  rw [List.range_add, List.filter_append, counted, left, List.append_nil, List.length_range]

/-- The month of a day is the one whose first day comes last before it. -/
theorem monthOf_eq {year : Int} {month index : Nat} (first : 1 ≤ month) (last : month ≤ 12)
    (start : daysBeforeMonth year month ≤ index) (finish : index < daysBeforeMonth year (month + 1)) :
    monthOf year index = month := by
  -- The months after January that begin by this day are those up to its own.
  have counted : ((List.range 11).filter fun other =>
      daysBeforeMonth year (other + 2) ≤ index).length = month - 1 := by
    apply length_filter_range
    · omega
    · intro other _
      rw [decide_eq_true_iff]
      constructor
      · intro reached
        apply Nat.lt_of_not_le
        intro later
        have := daysBeforeMonth_mono year (show 1 ≤ month + 1 by omega)
          (show month + 1 ≤ other + 2 by omega)
        omega
      · intro earlier
        have := daysBeforeMonth_mono year (show 1 ≤ other + 2 by omega)
          (show other + 2 ≤ month by omega)
        omega
  unfold monthOf
  omega

theorem monthOf_spec {year : Int} {index : Nat} (inside : index < 365 + leapDays year) :
    1 ≤ monthOf year index ∧ monthOf year index ≤ 12 ∧
      daysBeforeMonth year (monthOf year index) ≤ index ∧
      index < daysBeforeMonth year (monthOf year index + 1) := by
  have found : ∀ last, 1 ≤ last → index < daysBeforeMonth year (last + 1) →
      ∃ month, 1 ≤ month ∧ month ≤ last ∧ daysBeforeMonth year month ≤ index ∧
        index < daysBeforeMonth year (month + 1) := by
    intro last first before
    induction last, first using Nat.le_induction with
    | base => exact ⟨1, Nat.le_refl _, Nat.le_refl _, Nat.zero_le _, before⟩
    | succ last first ih =>
        by_cases earlier : index < daysBeforeMonth year (last + 1)
        · obtain ⟨month, from1, upTo, bounds⟩ := ih earlier
          exact ⟨month, from1, by omega, bounds⟩
        · exact ⟨last + 1, by omega, Nat.le_refl _, by omega, before⟩
  rw [← daysBeforeMonth_thirteen] at inside
  obtain ⟨month, first, last, start, finish⟩ := found 12 (by omega) inside
  rw [monthOf_eq first last start finish]
  exact ⟨first, last, start, finish⟩

namespace Date

/-- The date of a day is the only valid one with its number. -/
theorem ofNumber_number {date : Date} (valid : date.Valid) : ofNumber date.number = date := by
  obtain ⟨first, last, day, inside⟩ := valid
  have start := daysBeforeMonth_mono date.year (Nat.le_refl _) first
  have finish := daysBeforeMonth_mono date.year (show 1 ≤ date.month + 1 by omega)
    (show date.month + 1 ≤ 13 by omega)
  have length := daysBeforeMonth_succ date.year first
  have whole := daysBeforeMonth_thirteen date.year
  have next := daysBeforeYear_succ date.year
  have year : yearOf date.number = date.year := by
    apply yearOf_eq <;> unfold number <;> omega
  have index : (date.number - daysBeforeYear date.year).toNat =
      daysBeforeMonth date.year date.month + (date.day - 1) := by
    unfold number
    omega
  have month : monthOf date.year (daysBeforeMonth date.year date.month + (date.day - 1)) =
      date.month := by
    apply monthOf_eq first last <;> omega
  unfold ofNumber
  simp only [year, index, month]
  have days : daysBeforeMonth date.year date.month + (date.day - 1) -
      daysBeforeMonth date.year date.month + 1 = date.day := by omega
  rw [days]

theorem number_ofNumber (number : Int) :
    (ofNumber number).Valid ∧ (ofNumber number).number = number := by
  obtain ⟨start, finish⟩ := yearOf_spec number
  have next := daysBeforeYear_succ (yearOf number)
  have inside : (number - daysBeforeYear (yearOf number)).toNat < 365 + leapDays (yearOf number) := by
    omega
  obtain ⟨first, last, before, after⟩ := monthOf_spec inside
  have length := daysBeforeMonth_succ (yearOf number) first
  refine ⟨⟨first, last, ?_, ?_⟩, ?_⟩
  · simp only [ofNumber]
    omega
  · simp only [ofNumber]
    omega
  · simp only [Date.number, ofNumber]
    omega

end Date

end UsageBilling.Time
