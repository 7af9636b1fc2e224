import Mathlib.Algebra.BigOperators.Group.List.Basic
import Mathlib.Algebra.Order.BigOperators.Group.List
import Mathlib.Algebra.Ring.Int.Defs
import UsageBilling.Quantity
/-!
Sums of amounts that are not negative: however they are grouped, the saturating sum is the exact one
cut off at the greatest amount.
-/
namespace UsageBilling.Quantity

/-- An amount as it is booked, stored or pending. -/
def IsAmount (n : Int) : Prop := 1 ≤ n ∧ n ≤ greatest

theorem greatest_nonneg : (0 : Int) ≤ greatest := by decide

theorem ofCount_isAmount {count : Nat} (positive : count ≠ 0) : IsAmount (ofCount count) := by
  unfold IsAmount ofCount greatest
  omega

theorem add_zero {a : Int} (nonneg : 0 ≤ a) (bound : a ≤ greatest) : add a 0 = a := by
  rw [add_of_nonneg nonneg le_rfl]
  omega

theorem add_cutOff {a b : Int} (left : 0 ≤ a) (right : 0 ≤ b) :
    add (min a greatest) (min b greatest) = min (a + b) greatest := by
  have bound := greatest_nonneg
  rw [add_of_nonneg (le_min left bound) (le_min right bound)]
  omega

theorem add_isAmount {a b : Int} (left : 0 ≤ a) (right : IsAmount b) : IsAmount (add a b) := by
  obtain ⟨positive, bound⟩ := right
  rw [add_of_nonneg left (by omega)]
  unfold IsAmount
  omega

theorem foldl_add_of_nonneg (amounts : List Int) (start : Int) (nonneg : 0 ≤ start)
    (bound : start ≤ greatest) (amountsNonneg : ∀ amount ∈ amounts, 0 ≤ amount) :
    amounts.foldl add start = min (start + amounts.sum) greatest := by
  induction amounts generalizing start with
  | nil => simp [bound]
  | cons amount amounts ih =>
      have first := amountsNonneg amount List.mem_cons_self
      have rest := fun other member => amountsNonneg other (List.mem_cons_of_mem amount member)
      have restSum : 0 ≤ amounts.sum := List.sum_nonneg rest
      have added := add_of_nonneg nonneg first
      rw [List.foldl_cons, added, List.sum_cons, ih _ (by omega) (by omega) rest]
      omega

theorem sum_of_nonneg (amounts : List Int) (nonneg : ∀ amount ∈ amounts, 0 ≤ amount) :
    sum amounts = min amounts.sum greatest := by
  unfold sum
  rw [foldl_add_of_nonneg amounts 0 le_rfl greatest_nonneg nonneg, Int.zero_add]

/-- What `amount` units more leave of `before` units: all of them, unless the limit of an amount is
passed, and then at least that limit. -/
structure Carries (before : Int) (amount : Nat) (after : Int) : Prop where
  upper : after ≤ before + amount
  lower : min (before + amount) greatest ≤ after

theorem Carries.refl (amount : Int) : Carries amount 0 amount := ⟨by omega, by omega⟩

theorem Carries.trans {before between after : Int} {first second : Nat}
    (left : Carries before first between) (right : Carries between second after) :
    Carries before (first + second) after := by
  obtain ⟨leftUpper, leftLower⟩ := left
  obtain ⟨rightUpper, rightLower⟩ := right
  constructor <;> push_cast <;> omega

/-- As long as the exact sum is an amount, nothing is lost. -/
theorem Carries.exact {total : Nat} {held : Int} (carried : Carries 0 total held)
    (fits : (total : Int) ≤ greatest) : held = total := by
  obtain ⟨upper, lower⟩ := carried
  omega

theorem Carries.cutOff {total : Nat} {held : Int} (carried : Carries 0 total held) :
    min held greatest = min (total : Int) greatest := by
  obtain ⟨upper, lower⟩ := carried
  omega

end UsageBilling.Quantity
