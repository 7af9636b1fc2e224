/-!
Amounts of usage: integers of 64 signed bits. A sum that would leave that range stays at its end,
so an amount never wraps around.
-/
namespace UsageBilling.Quantity

def greatest : Int := 9223372036854775807

def least : Int := -9223372036854775808

def clamp (n : Int) : Int := max least (min n greatest)

def add (a b : Int) : Int := clamp (a + b)

/-- The running total of `amounts`, held in range after every step. -/
def sum (amounts : List Int) : Int := amounts.foldl add 0

def ofCount (count : Nat) : Int := min (count : Int) greatest

def InRange (n : Int) : Prop := least ≤ n ∧ n ≤ greatest

instance (n : Int) : Decidable (InRange n) := inferInstanceAs (Decidable (_ ∧ _))

theorem clamp_of_inRange {n : Int} (bounds : InRange n) : clamp n = n := by
  unfold InRange at bounds
  unfold clamp
  omega

theorem clamp_inRange (n : Int) : InRange (clamp n) := by
  unfold InRange clamp least greatest
  omega

theorem add_comm (a b : Int) : add a b = add b a := by
  simp [add, Int.add_comm]

theorem add_of_nonneg {a b : Int} (left : 0 ≤ a) (right : 0 ≤ b) :
    add a b = min (a + b) greatest := by
  unfold add clamp least greatest
  omega

end UsageBilling.Quantity
