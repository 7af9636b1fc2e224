import Mathlib.Algebra.Ring.Nat
import UsageBilling.Uuid
/-!
Identifiers as text. Their 32 digits are read back as the number they were written for, whatever the
groups they are written in.
-/
namespace UsageBilling

namespace Text

def nibbles (octet : UInt8) : List Nat := [octet.toNat / 16, octet.toNat % 16]

theorem mapM_hexValue?_hex (octets : List UInt8) :
    (hex octets).mapM hexValue? = some (octets.flatMap nibbles) := by
  induction octets with
  | nil => rfl
  | cons octet octets ih =>
      have bound := octet.toNat_lt
      have high : hexValue? (hexDigit (octet.toNat / 16)) = some (octet.toNat / 16) := by
        rw [hexValue?_hexDigit, Nat.mod_eq_of_lt (by omega)]
      have low : hexValue? (hexDigit octet.toNat) = some (octet.toNat % 16) := hexValue?_hexDigit _
      change (hexDigit (octet.toNat / 16) :: hexDigit octet.toNat :: hex octets).mapM hexValue? = _
      simp only [List.mapM_cons, high, low, ih, Option.bind_eq_bind, Option.bind_some, Option.pure_def]
      rfl

theorem foldl_nibbles (octets : List UInt8) (start : Nat) :
    (octets.flatMap nibbles).foldl (fun n value => 16 * n + value) start =
      octets.foldl (fun n octet => 256 * n + octet.toNat) start := by
  induction octets generalizing start with
  | nil => rfl
  | cons octet octets ih =>
      have whole : 16 * (16 * start + octet.toNat / 16) + octet.toNat % 16 =
          256 * start + octet.toNat := by omega
      rw [List.flatMap_cons, List.foldl_append, ih, List.foldl_cons, ← whole]
      rfl

theorem length_hex (octets : List UInt8) : (hex octets).length = 2 * octets.length := by
  induction octets with
  | nil => rfl
  | cons octet octets ih =>
      change (hex octets).length + 2 = 2 * (octets.length + 1)
      omega

end Text

namespace Uuid

theorem length_bigEndian (width n : Nat) : (bigEndian width n).length = width := by
  induction width generalizing n with
  | zero => rfl
  | succ width ih => rw [bigEndian, List.length_append, ih, List.length_singleton]

theorem foldl_bigEndian {width n : Nat} (fits : n < 256 ^ width) :
    (bigEndian width n).foldl (fun n octet => 256 * n + octet.toNat) 0 = n := by
  induction width generalizing n with
  | zero => rw [Nat.lt_one_iff.mp fits]; rfl
  | succ width ih =>
      have less : n / 256 < 256 ^ width := Nat.div_lt_of_lt_mul (by rwa [Nat.pow_succ'] at fits)
      have last : (UInt8.ofNat n).toNat = n % 256 := UInt8.toNat_ofNat'
      rw [bigEndian, List.foldl_append, ih less, List.foldl_cons, List.foldl_nil, last]
      omega

theorem ofDigits?_hex (id : Uuid) : ofDigits? (Text.hex id.octets) = some id := by
  have length : (Text.hex id.octets).length = 32 := by
    rw [Text.length_hex, octets, length_bigEndian]
  have value : id.octets.foldl (fun n octet => 256 * n + octet.toNat) 0 = id.bits.toNat :=
    foldl_bigEndian id.bits.isLt
  unfold ofDigits?
  rw [if_pos length, Text.mapM_hexValue?_hex, Option.map_some, Text.foldl_nibbles, value,
    BitVec.ofNat_toNat, BitVec.setWidth_eq]

theorem joinGroups?_hyphenated (widths : List Nat) (digits : List Char)
    (length : digits.length = widths.sum) :
    joinGroups? widths (hyphenated widths digits) = some digits := by
  fun_induction hyphenated widths digits with
  | case1 digits =>
      rw [List.length_eq_zero_iff.mp length]
      rfl
  | case2 width digits => exact if_pos (by rw [length, List.sum_singleton])
  | case3 width widths digits several ih =>
      rw [List.sum_cons] at length
      have taken : (digits.take width).length = width := by
        rw [List.length_take]
        omega
      have rest := ih (by rw [List.length_drop]; omega)
      rw [joinGroups?]
      · rw [List.drop_append_of_le_length (by omega), List.take_append_of_le_length (by omega),
          List.drop_of_length_le (by omega), List.take_of_length_le (by omega), List.nil_append]
        simp only [rest, Option.map_some, List.take_append_drop]
      · exact several

theorem length_hyphenated (widths : List Nat) (digits : List Char)
    (length : digits.length = widths.sum) :
    (hyphenated widths digits).length = digits.length + (widths.length - 1) := by
  fun_induction hyphenated widths digits with
  | case1 digits => rfl
  | case2 width digits => rfl
  | case3 width widths digits several ih =>
      rw [List.sum_cons] at length
      have rest := ih (by rw [List.length_drop]; omega)
      have filled : widths.length ≠ 0 := mt List.length_eq_zero_iff.mp several
      rw [List.length_append, List.length_cons, rest, List.length_take, List.length_drop,
        List.length_cons]
      omega

theorem parse?_text (id : Uuid) : parse? id.text = some id := by
  have digits : (Text.hex id.octets).length = groups.sum := by
    rw [Text.length_hex, octets, length_bigEndian]
    rfl
  have long : (hyphenated groups (Text.hex id.octets)).length = 36 := by
    rw [length_hyphenated groups _ digits, digits]
    rfl
  unfold parse? text ofChars?
  rw [String.toList_ofList, long, if_neg (by decide), if_pos rfl]
  unfold ofHyphenated?
  rw [joinGroups?_hyphenated groups _ digits, Option.bind_eq_bind, Option.bind_some, ofDigits?_hex]

end Uuid

end UsageBilling
