import UsageBilling.Json.Printer
import UsageBilling.Json.Reader
import UsageBilling.Proofs.Text.Decimals
/-!
Whole numbers of JSON. What is written for a number of 64 bits, signed or not, is read back as that
number, and no whole number that is read is larger.
-/
namespace UsageBilling.Json

open UsageBilling.Text (digits_toDigits signedDigits takeWhile_exact toDigits_head_ne_zero)

def FitsWord (value : Int) : Prop := -9223372036854775808 ≤ value ∧ value ≤ 18446744073709551615

instance (value : Int) : Decidable (FitsWord value) := inferInstanceAs (Decidable (_ ∧ _))

theorem FitsWord.of_inRange {value : Int} (fits : Quantity.InRange value) : FitsWord value := by
  unfold Quantity.InRange Quantity.least Quantity.greatest at fits
  unfold FitsWord
  omega

/-- What may follow a value in a text without blanks: nothing, a comma or a closing bracket. -/
def Stops (rest : List UInt8) : Prop :=
  ∀ octet ∈ rest.head?, octet = 0x2c ∨ octet = 0x5d ∨ octet = 0x7d

theorem stops_nil : Stops [] := nofun

theorem stops_cons {octet : UInt8} (rest : List UInt8)
    (closes : octet = 0x2c ∨ octet = 0x5d ∨ octet = 0x7d) : Stops (octet :: rest) := by
  intro first same
  rwa [← Option.some.inj same]

theorem Stops.head {rest : List UInt8} (stops : Stops rest) {p : UInt8 → Bool}
    (comma : p 0x2c = false) (bracket : p 0x5d = false) (brace : p 0x7d = false) :
    ∀ octet ∈ rest.head?, p octet = false := by
  intro octet first
  rcases stops octet first with rfl | rfl | rfl
  · exact comma
  · exact bracket
  · exact brace

/-! ### Digits -/

theorem octet_of_isDigit {c : Char} (digit : c.isDigit = true) :
    isDigitOctet (UInt8.ofNat c.toNat) = true ∧
      digitValue (UInt8.ofNat c.toNat) = c.toNat - '0'.toNat := by
  rw [Char.isDigit_iff_toNat] at digit
  have zero : '0'.toNat = 48 := rfl
  have nine : '9'.toNat = 57 := rfl
  have octet : (UInt8.ofNat c.toNat).toNat = c.toNat := by
    rw [UInt8.toNat_ofNat']
    omega
  constructor
  · unfold isDigitOctet
    rw [Bool.and_eq_true, decide_eq_true_iff, decide_eq_true_iff, UInt8.le_iff_toNat_le,
      UInt8.le_iff_toNat_le, octet]
    exact ⟨by simpa using digit.1, by simpa using digit.2⟩
  · unfold digitValue
    rw [octet, zero]

theorem isDigitOctet_of_mem_ascii {digits : List Char} (all : ∀ c ∈ digits, c.isDigit = true) :
    ∀ octet ∈ ascii digits, isDigitOctet octet = true := by
  intro octet member
  obtain ⟨c, listed, rfl⟩ := List.mem_map.mp member
  exact (octet_of_isDigit (all c listed)).1

theorem readDigits?_ascii {digits : List Char} {rest : List UInt8} (filled : digits ≠ [])
    (all : ∀ c ∈ digits, c.isDigit = true) (stops : Stops rest) :
    readDigits? (ascii digits ++ rest) = some (ascii digits, rest) := by
  have taken : (ascii digits ++ rest).takeWhile isDigitOctet = ascii digits :=
    takeWhile_exact (isDigitOctet_of_mem_ascii all) (stops.head rfl rfl rfl)
  have nonempty : (ascii digits).isEmpty = false := by
    rw [List.isEmpty_eq_false_iff]
    exact mt List.map_eq_nil_iff.mp filled
  unfold readDigits?
  simp only [taken, nonempty, Bool.false_eq_true, if_false, List.drop_left]

theorem readWhole?_ascii (n : Nat) {rest : List UInt8} (stops : Stops rest) :
    readWhole? (ascii (Nat.toDigits 10 n) ++ rest) = some (ascii (Nat.toDigits 10 n), rest) := by
  obtain ⟨filled, all, _⟩ := digits_toDigits n
  have noZero : ¬ ((ascii (Nat.toDigits 10 n)).head? = some 0x30 ∧
      (ascii (Nat.toDigits 10 n)).length > 1) := by
    rintro ⟨zero, long⟩
    unfold ascii at zero long
    rw [List.length_map] at long
    have positive : 0 < n := by
      apply Nat.pos_of_ne_zero
      rintro rfl
      exact absurd long (by decide)
    rw [List.head?_map, Option.map_eq_some_iff] at zero
    obtain ⟨c, first, same⟩ := zero
    have value := (octet_of_isDigit (all c (List.mem_of_mem_head? first))).2
    rw [same] at value
    have code : c.toNat = '0'.toNat := by
      have atLeast := (Char.isDigit_iff_toNat.mp (all c (List.mem_of_mem_head? first))).1
      have zeroValue : digitValue 0x30 = 0 := rfl
      omega
    exact toDigits_head_ne_zero positive (first.trans (congrArg some (Char.toNat_inj.mp code)))
  unfold readWhole?
  rw [readDigits?_ascii filled all stops]
  simp only [Option.bind_eq_bind, Option.bind_some, if_neg noZero]

theorem gather_ascii {digits : List Char} (start : Nat) (all : ∀ c ∈ digits, c.isDigit = true)
    (fits : Nat.ofDigitChars 10 digits start < Nat.pow 2 64) :
    gather start (ascii digits) = (Nat.ofDigitChars 10 digits start, []) := by
  induction digits generalizing start with
  | nil => rfl
  | cons c digits ih =>
      have value := (octet_of_isDigit (all c List.mem_cons_self)).2
      rw [Nat.ofDigitChars_cons] at fits ⊢
      have first : 10 * start + (c.toNat - '0'.toNat) ≤
          Nat.ofDigitChars 10 digits (10 * start + (c.toNat - '0'.toNat)) := by
        rw [Nat.ofDigitChars_eq_ofDigitChars_zero]
        exact Nat.le_add_right_of_le (Nat.le_mul_of_pos_left _ (Nat.pow_pos (by decide)))
      change gather start (UInt8.ofNat c.toNat :: ascii digits) = _
      rw [gather, value, if_pos (Nat.lt_of_le_of_lt first fits)]
      exact ih _ (fun other member => all other (List.mem_cons_of_mem c member)) fits

/-! ### Whole numbers -/

theorem readFraction?_stops {rest : List UInt8} (stops : Stops rest) :
    readFraction? rest = some (none, rest) := by
  unfold readFraction?
  split
  · next rest => exact absurd (stops _ rfl) (by decide)
  · rfl

theorem readExponent?_stops {rest : List UInt8} (stops : Stops rest) :
    readExponent? rest = some (none, rest) := by
  unfold readExponent?
  split
  · next rest => exact absurd (stops _ rfl) (by decide)
  · next rest => exact absurd (stops _ rfl) (by decide)
  · rfl

theorem numberOf?_ascii {n : Nat} (negative : Bool) (fits : n < Nat.pow 2 64)
    (signed : negative = true → 0 < n ∧ n ≤ Nat.pow 2 63) :
    numberOf? negative (ascii (Nat.toDigits 10 n)) none none =
      some (.int (if negative then -(n : Int) else n)) := by
  obtain ⟨_, all, value⟩ := digits_toDigits n
  have gathered : gather 0 (ascii (Nat.toDigits 10 n)) = (n, []) := by
    rw [gather_ascii 0 all (by rwa [value]), value]
  have whole : (!negative || (n != 0 && decide (n ≤ Nat.pow 2 63))) = true := by
    cases negative with
    | false => rfl
    | true =>
        obtain ⟨positive, bound⟩ := signed rfl
        rw [Bool.not_true, Bool.false_or, Bool.and_eq_true, bne_iff_ne, decide_eq_true_iff]
        exact ⟨Nat.ne_of_gt positive, bound⟩
  unfold numberOf?
  simp only [gathered, List.isEmpty_nil, Option.isNone_none, Bool.and_true, whole,
    if_true]

theorem readNumber?_ascii (n : Nat) {rest : List UInt8} (fits : n < Nat.pow 2 64)
    (stops : Stops rest) :
    readNumber? (ascii (Nat.toDigits 10 n) ++ rest) = some (.int n, rest) := by
  have unsigned : ∀ tail, ascii (Nat.toDigits 10 n) ++ rest ≠ 0x2d :: tail := by
    intro tail same
    obtain ⟨filled, all, _⟩ := digits_toDigits n
    have written : ascii (Nat.toDigits 10 n) ≠ [] := mt List.map_eq_nil_iff.mp filled
    obtain ⟨octet, octets, spelled⟩ := List.exists_cons_of_ne_nil written
    have digit := isDigitOctet_of_mem_ascii all octet (spelled ▸ List.mem_cons_self)
    rw [spelled] at same
    rw [(List.cons.inj same).1] at digit
    exact absurd digit (by decide)
  have number := numberOf?_ascii false fits nofun
  unfold readNumber?
  split
  next signs =>
  split at signs
  · next tail same => exact absurd same (unsigned tail)
  · obtain ⟨rfl, rfl⟩ := Prod.mk.inj signs
    simp only [readWhole?_ascii n stops, readFraction?_stops stops, readExponent?_stops stops,
      number, Option.bind_eq_bind, Option.bind_some, Bool.false_eq_true, if_false]

theorem readNumber?_minus {n : Nat} {rest : List UInt8} (positive : 0 < n)
    (bound : n ≤ Nat.pow 2 63) (stops : Stops rest) :
    readNumber? (0x2d :: ascii (Nat.toDigits 10 n) ++ rest) = some (.int (-n), rest) := by
  have fits : n < Nat.pow 2 64 := Nat.lt_of_le_of_lt bound (by decide)
  have number := numberOf?_ascii true fits fun _ => ⟨positive, bound⟩
  unfold readNumber?
  simp only [List.cons_append, readWhole?_ascii n stops, readFraction?_stops stops,
    readExponent?_stops stops, number, Option.bind_eq_bind, Option.bind_some, if_true]

theorem readNumber?_signedDigits {value : Int} {rest : List UInt8} (fits : FitsWord value)
    (stops : Stops rest) :
    readNumber? (ascii (signedDigits value) ++ rest) = some (.int value, rest) := by
  obtain ⟨least, greatest⟩ := fits
  unfold signedDigits
  split
  · next negative =>
      have minus : -(value.natAbs : Int) = value := by omega
      have read := readNumber?_minus (n := value.natAbs) (by omega)
        (by change _ ≤ 9223372036854775808; omega) stops
      rwa [minus] at read
  · next nonneg =>
      have plain : (value.natAbs : Int) = value := by omega
      have read := readNumber?_ascii value.natAbs (by change _ < 18446744073709551616; omega) stops
      rwa [plain] at read

/-! ### What is read -/

theorem gather_lt (start : Nat) (digits : List UInt8) (small : start < Nat.pow 2 64) :
    (gather start digits).1 < Nat.pow 2 64 := by
  fun_induction gather start digits with
  | case1 start => exact small
  | case2 start digit digits next fits ih => exact ih fits
  | case3 start digit digits next overflow => exact small

/-- A number that is read is one of 64 bits, or not a whole one. -/
theorem numberOf?_fits {negative : Bool} {whole : List UInt8} {fraction : Option (List UInt8)}
    {exponent : Option Int} {number : Json}
    (read : numberOf? negative whole fraction exponent = some number) :
    (∃ value, FitsWord value ∧ number = .int value) ∨ ∃ significand power,
      number = .real negative significand power := by
  have bound := gather_lt 0 whole (by decide)
  unfold numberOf? at read
  split at read
  next significand dropped gathered =>
  rw [gathered] at bound
  split at read
  · next exact =>
      refine .inl ⟨_, ?_, (Option.some.inj read).symm⟩
      have limits : Nat.pow 2 64 = 18446744073709551616 ∧ Nat.pow 2 63 = 9223372036854775808 := by
        decide
      cases negative with
      | false =>
          simp only [Bool.false_eq_true, if_false]
          unfold FitsWord
          omega
      | true =>
          simp only [Bool.not_true, Bool.false_or, Bool.and_eq_true, decide_eq_true_iff] at exact
          simp only [if_true]
          unfold FitsWord
          omega
  · simp only [Option.ite_none_left_eq_some, Option.some.injEq] at read
    exact .inr ⟨_, _, read.2.symm⟩

theorem readNumber?_fits {input rest : List UInt8} {number : Json}
    (read : readNumber? input = some (number, rest)) :
    (∃ value, FitsWord value ∧ number = .int value) ∨ ∃ negative significand power,
      number = .real negative significand power := by
  unfold readNumber? at read
  simp only [Option.bind_eq_bind, Option.bind_eq_some_iff, Option.some.injEq, Prod.mk.injEq] at read
  obtain ⟨_, _, _, _, _, _, value, made, rfl, _⟩ := read
  exact (numberOf?_fits made).imp_right fun real => ⟨_, real⟩

end UsageBilling.Json
