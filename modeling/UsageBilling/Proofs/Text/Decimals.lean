import UsageBilling.Proofs.Amounts
import UsageBilling.Text.Decimal
/-!
Decimal text. Which texts are numbers of 64 signed bits, and which number each of them is.
-/
namespace UsageBilling.Text

/-- One or more ASCII digits, which stand for `n`. -/
def Digits (text : List Char) (n : Nat) : Prop :=
  text ≠ [] ∧ (∀ c ∈ text, c.isDigit = true) ∧ Nat.ofDigitChars 10 text 0 = n

/-- Digits after an optional sign, which stand for a number of 64 signed bits. -/
inductive Decimal : List Char → Int → Prop where
  | unsigned {text n} (digits : Digits text n) (fits : Quantity.InRange n) : Decimal text n
  | plus {text n} (digits : Digits text n) (fits : Quantity.InRange n) : Decimal ('+' :: text) n
  | minus {text n} (digits : Digits text n) (fits : Quantity.InRange (-n)) :
      Decimal ('-' :: text) (-n)

theorem readDigits?_eq_some_iff {text : List Char} {n : Nat} :
    readDigits? text = some n ↔ Digits text n := by
  unfold readDigits? Digits
  split
  · next refused =>
      rw [Bool.or_eq_true, List.isEmpty_iff, Bool.not_eq_true', Bool.eq_false_iff, Ne,
        List.all_eq_true] at refused
      constructor
      · intro read
        cases read
      · rintro ⟨filled, digits, _⟩
        exact (refused.elim filled fun other => other digits).elim
  · next accepted =>
      rw [Bool.or_eq_true, List.isEmpty_iff, Bool.not_eq_true', Bool.eq_false_iff, Ne,
        List.all_eq_true, not_or, not_not] at accepted
      rw [Option.some.injEq]
      exact ⟨fun value => ⟨accepted.1, accepted.2, value⟩, fun digits => digits.2.2⟩

theorem Digits.head_ne_sign {head : Char} {tail : List Char} {n : Nat}
    (digits : Digits (head :: tail) n) : head ≠ '-' ∧ head ≠ '+' := by
  have digit := digits.2.1 head List.mem_cons_self
  constructor
  · rintro rfl
    exact absurd digit (by decide)
  · rintro rfl
    exact absurd digit (by decide)

theorem readSigned?_minus (text : List Char) : readSigned? ('-' :: text) =
    ((readDigits? text).map fun n : Nat => -(n : Int)).filter fun value =>
      -9223372036854775808 ≤ value && value ≤ 9223372036854775807 := by
  change ((readDigits? text >>= fun n => pure (n : Int)).map fun n => -n).filter _ = _
  cases readDigits? text with
  | none => rfl
  | some n => rfl

theorem readSigned?_plus (text : List Char) : readSigned? ('+' :: text) =
    ((readDigits? text).map fun n : Nat => (n : Int)).filter fun value =>
      -9223372036854775808 ≤ value && value ≤ 9223372036854775807 := by
  change ((readDigits? text >>= fun n => pure (n : Int)).map fun n => n).filter _ = _
  cases readDigits? text with
  | none => rfl
  | some n => rfl

theorem readSigned?_unsigned {head : Char} (tail : List Char) (minus : head ≠ '-')
    (plus : head ≠ '+') : readSigned? (head :: tail) =
    ((readDigits? (head :: tail)).map fun n : Nat => (n : Int)).filter fun value =>
      -9223372036854775808 ≤ value && value ≤ 9223372036854775807 := by
  unfold readSigned?
  split
  · next rest same => exact absurd (List.cons.inj same).1 minus
  · next rest same => exact absurd (List.cons.inj same).1 plus
  · cases readDigits? (head :: tail) with
    | none => rfl
    | some n => rfl

theorem inRange_iff {value : Int} : Quantity.InRange value ↔
    (-9223372036854775808 ≤ value && value ≤ 9223372036854775807) = true := by
  simp [Quantity.InRange, Quantity.least, Quantity.greatest]

theorem decimal_of_readSigned? {text : List Char} {value : Int}
    (read : readSigned? text = some value) : Decimal text value := by
  cases text with
  | nil => simp [readSigned?, readDigits?] at read
  | cons head tail =>
      by_cases minus : head = '-'
      · subst minus
        rw [readSigned?_minus, Option.filter_eq_some_iff, Option.map_eq_some_iff] at read
        obtain ⟨⟨n, digits, rfl⟩, fits⟩ := read
        exact .minus (readDigits?_eq_some_iff.mp digits) (inRange_iff.mpr fits)
      by_cases plus : head = '+'
      · subst plus
        rw [readSigned?_plus, Option.filter_eq_some_iff, Option.map_eq_some_iff] at read
        obtain ⟨⟨n, digits, rfl⟩, fits⟩ := read
        exact .plus (readDigits?_eq_some_iff.mp digits) (inRange_iff.mpr fits)
      · rw [readSigned?_unsigned tail minus plus, Option.filter_eq_some_iff,
          Option.map_eq_some_iff] at read
        obtain ⟨⟨n, digits, rfl⟩, fits⟩ := read
        exact .unsigned (readDigits?_eq_some_iff.mp digits) (inRange_iff.mpr fits)

theorem readSigned?_of_decimal {text : List Char} {value : Int} (decimal : Decimal text value) :
    readSigned? text = some value := by
  cases decimal with
  | @unsigned text n digits fits =>
      cases text with
      | nil => exact absurd rfl digits.1
      | cons head tail =>
          obtain ⟨minus, plus⟩ := digits.head_ne_sign
          rw [readSigned?_unsigned tail minus plus, readDigits?_eq_some_iff.mpr digits]
          exact Option.filter_some_pos (inRange_iff.mp fits)
  | plus digits fits =>
      rw [readSigned?_plus, readDigits?_eq_some_iff.mpr digits]
      exact Option.filter_some_pos (inRange_iff.mp fits)
  | minus digits fits =>
      rw [readSigned?_minus, readDigits?_eq_some_iff.mpr digits]
      exact Option.filter_some_pos (inRange_iff.mp fits)

theorem Decimal.inRange {text : List Char} {value : Int} (decimal : Decimal text value) :
    Quantity.InRange value := by
  cases decimal with
  | unsigned _ fits => exact fits
  | plus _ fits => exact fits
  | minus _ fits => exact fits

theorem Decimal.ne_nil {text : List Char} {value : Int} (decimal : Decimal text value) :
    text ≠ [] := by
  cases decimal with
  | unsigned digits _ => exact digits.1
  | plus _ _ => exact List.cons_ne_nil _ _
  | minus _ _ => exact List.cons_ne_nil _ _

theorem digits_toDigits (n : Nat) : Digits (Nat.toDigits 10 n) n :=
  ⟨Nat.toDigits_ne_nil, fun _ member => Nat.isDigit_of_mem_toDigits (by decide) (by decide) member,
    Nat.ofDigitChars_ten_toDigits⟩

theorem digits_padded (width n : Nat) : Digits (padded width n) n := by
  obtain ⟨filled, all, value⟩ := digits_toDigits n
  refine ⟨List.append_ne_nil_of_right_ne_nil _ filled, ?_, ?_⟩
  · intro c member
    rcases List.mem_append.mp member with zero | digit
    · rw [List.eq_of_mem_replicate zero]
      rfl
    · exact all c digit
  · unfold padded
    rw [Nat.ofDigitChars_append, Nat.ofDigitChars_replicate_zero, Nat.mul_zero, value]

theorem length_padded {width n : Nat} (positive : 0 < width) (fits : n < 10 ^ width) :
    (padded width n).length = width := by
  have atMost := (Nat.length_toDigits_le_iff (b := 10) (by decide) positive).mpr fits
  unfold padded
  rw [List.length_append, List.length_replicate]
  omega

theorem ofDigitChars_lt {digits : List Char} (all : ∀ c ∈ digits, c.isDigit = true) :
    Nat.ofDigitChars 10 digits 0 < 10 ^ digits.length := by
  induction digits with
  | nil => exact Nat.one_pos
  | cons c digits ih =>
      have rest := ih fun other member => all other (List.mem_cons_of_mem c member)
      have digit : c.toNat - '0'.toNat ≤ 9 := by
        have most := (Char.isDigit_iff_toNat.mp (all c List.mem_cons_self)).2
        have nine : '9'.toNat = '0'.toNat + 9 := rfl
        omega
      calc
        _ = 10 ^ digits.length * (c.toNat - '0'.toNat) + Nat.ofDigitChars 10 digits 0 := by
          rw [Nat.ofDigitChars_cons, Nat.mul_zero, Nat.zero_add,
            Nat.ofDigitChars_eq_ofDigitChars_zero]
        _ < 10 ^ digits.length * (c.toNat - '0'.toNat) + 10 ^ digits.length :=
          Nat.add_lt_add_left rest _
        _ = 10 ^ digits.length * (c.toNat - '0'.toNat + 1) := (Nat.mul_succ _ _).symm
        _ ≤ 10 ^ digits.length * 10 := Nat.mul_le_mul_left _ (by omega)

theorem toDigits_head_ne_zero {n : Nat} (positive : 0 < n) :
    (Nat.toDigits 10 n).head? ≠ some '0' := by
  induction n using Nat.strongRecOn with
  | ind n ih =>
      by_cases single : n < 10
      · have nonzero : ∀ digit < 10, 0 < digit → Nat.digitChar digit ≠ '0' := by decide
        rw [Nat.toDigits_of_lt_base single, List.head?_cons, Ne, Option.some.injEq]
        exact nonzero n single positive
      · have filled : Nat.toDigits 10 (n / 10) ≠ [] := Nat.toDigits_ne_nil
        rw [Nat.toDigits_of_base_le (by decide) (by omega), List.head?_append_of_ne_nil _ filled]
        exact ih (n / 10) (by omega) (by omega)

theorem takeWhile_exact {α : Type} {p : α → Bool} {inside rest : List α}
    (holds : ∀ item ∈ inside, p item = true) (stops : ∀ item ∈ rest.head?, p item = false) :
    (inside ++ rest).takeWhile p = inside := by
  rw [List.takeWhile_append_of_pos holds]
  cases rest with
  | nil => rw [List.takeWhile_nil, List.append_nil]
  | cons item rest =>
      rw [List.takeWhile_cons, stops item rfl, if_neg Bool.false_ne_true, List.append_nil]

theorem decimal_toString {value : Int} (bounds : Quantity.InRange value) :
    Decimal (toString value).toList value := by
  rw [Int.toString_eq_repr, Int.repr_eq_if]
  split
  · next positive =>
      have fits : Quantity.InRange value.toNat := by rwa [Int.toNat_of_nonneg positive]
      have decimal := Decimal.unsigned (digits_toDigits value.toNat) fits
      rwa [Int.toNat_of_nonneg positive, ← Nat.toList_repr] at decimal
  · next negative =>
      have size : ((-value).toNat : Int) = -value := by omega
      have fits : Quantity.InRange (-((-value).toNat : Int)) := by rwa [size, Int.neg_neg]
      have decimal := Decimal.minus (digits_toDigits (-value).toNat) fits
      rw [size, Int.neg_neg, ← Nat.toList_repr] at decimal
      rwa [String.toList_append]

end UsageBilling.Text
