import Mathlib.Tactic.SplitIfs
import UsageBilling.Json.Printer
import UsageBilling.Json.Reader
/-!
Strings of JSON. What is written for a text is read back as that text, octet after octet: each
escape stands for the octet it was written for.
-/
namespace UsageBilling.Json

theorem readOctets?_quote (before rest : List UInt8) :
    readOctets? before (0x22 :: rest) = some (before.reverse, rest) := by
  rw [readOctets?]

theorem readOctets?_plain {octet : UInt8} (before rest : List UInt8) (quote : octet ≠ 0x22)
    (backslash : octet ≠ 0x5c) (printed : ¬ octet < 0x20) :
    readOctets? before (octet :: rest) = readOctets? (octet :: before) rest := by
  rw [readOctets?]
  · rw [if_neg printed]
  · exact quote
  · rintro _ _ _ _ _ rfl
    exact absurd rfl backslash
  · rintro _ _ rfl
    exact absurd rfl backslash

theorem readOctets?_short {octet value : UInt8} (before rest : List UInt8)
    (short : shortEscape? octet = some value) :
    readOctets? before (0x5c :: octet :: rest) = readOctets? (value :: before) rest := by
  have noUnit : octet ≠ 0x75 := by
    rintro rfl
    have none : shortEscape? 0x75 = none := by decide
    rw [none] at short
    cases short
  rw [readOctets?]
  · rw [short]
  · rintro _ _ _ _ _ same
    exact absurd same noUnit

/-- An escape of four digits that is no surrogate stands for the bytes of its code point. -/
theorem readOctets?_unit {h₁ h₂ h₃ h₄ : UInt8} {unit : Nat} (before rest : List UInt8)
    (read : hexUnit? h₁ h₂ h₃ h₄ = some unit) (low : isLowSurrogate unit = false)
    (high : isHighSurrogate unit = false) :
    readOctets? before (0x5c :: 0x75 :: h₁ :: h₂ :: h₃ :: h₄ :: rest) =
      readOctets? ((pointOctets unit).reverse ++ before) rest := by
  rw [readOctets?, read]
  simp only [low, high, Bool.false_eq_true, if_false]

theorem hexUnit?_hexByte : ∀ n < 0x20,
    ∃ high low, ascii (Text.hexByte (UInt8.ofNat n)) = [high, low] ∧
      hexUnit? 0x30 0x30 high low = some n ∧ pointOctets n = [UInt8.ofNat n] := by
  intro n small
  refine ⟨_, _, rfl, ?_⟩
  revert n
  decide

theorem readOctets?_escapeOctet (before rest : List UInt8) (octet : UInt8) :
    readOctets? before (escapeOctet octet ++ rest) = readOctets? (octet :: before) rest := by
  unfold escapeOctet
  split_ifs with quote backslash backspace tab lineFeed formFeed carriage control
  · exact readOctets?_short before rest (by rw [quote]; decide)
  · exact readOctets?_short before rest (by rw [backslash]; decide)
  · exact readOctets?_short before rest (by rw [backspace]; decide)
  · exact readOctets?_short before rest (by rw [tab]; decide)
  · exact readOctets?_short before rest (by rw [lineFeed]; decide)
  · exact readOctets?_short before rest (by rw [formFeed]; decide)
  · exact readOctets?_short before rest (by rw [carriage]; decide)
  · have small : octet.toNat < 0x20 := UInt8.lt_iff_toNat_lt.mp control
    obtain ⟨high, low, digits, read, point⟩ := hexUnit?_hexByte octet.toNat small
    rw [UInt8.ofNat_toNat] at digits point
    rw [digits]
    refine (readOctets?_unit before rest read ?_ ?_).trans (by rw [point]; rfl)
    · simp [isLowSurrogate]
      omega
    · simp [isHighSurrogate]
      omega
  · exact readOctets?_plain before rest quote backslash control

theorem readOctets?_escaped (before octets rest : List UInt8) :
    readOctets? before (octets.flatMap escapeOctet ++ 0x22 :: rest) =
      some (before.reverse ++ octets, rest) := by
  induction octets generalizing before with
  | nil => rw [List.flatMap_nil, List.nil_append, readOctets?_quote, List.append_nil]
  | cons octet octets ih =>
      rw [List.flatMap_cons, List.append_assoc, readOctets?_escapeOctet, ih, List.reverse_cons,
        List.append_assoc, List.singleton_append]

def closedText (text : String) : List UInt8 := (Text.bytes text).flatMap escapeOctet ++ [0x22]

theorem renderText_eq (text : String) : renderText text = 0x22 :: closedText text := rfl

theorem readString?_closedText (text : String) (rest : List UInt8) :
    readString? (closedText text ++ rest) = some (text, rest) := by
  unfold readString? closedText
  rw [List.append_assoc, List.singleton_append, readOctets?_escaped]
  simp only [List.reverse_nil, List.nil_append, Option.bind_eq_bind, Option.bind_some,
    Text.ofBytes?_bytes]

end UsageBilling.Json
