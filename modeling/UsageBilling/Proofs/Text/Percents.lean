import Mathlib.Data.List.Basic
import UsageBilling.Text.Percent
import UsageBilling.Text.Utf8
/-!
Percent decoding, as the other side of percent encoding. Decoding takes encoded text to the octets that
decoding takes the text itself to, as long as percent signs and hexadecimal digits are not encoded; and
it leaves octets as they are exactly if no percent sign stands before two hexadecimal digits.
-/
namespace UsageBilling.Text

def utf8 (text : List Char) : List UInt8 := text.flatMap String.utf8EncodeChar

theorem bytes_eq_utf8 (text : String) : bytes text = utf8 text.toList := by
  have encoded : (String.ofList text.toList).toByteArray = text.toList.utf8Encode :=
    String.toByteArray_ofList
  rw [String.ofList_toList] at encoded
  simp [bytes, utf8, encoded, List.utf8Encode, List.data_toByteArray]

theorem bytes_ofList (text : List Char) : bytes (String.ofList text) = utf8 text := by
  rw [bytes_eq_utf8, String.toList_ofList]

theorem bytes_injective {text other : String} (same : bytes text = bytes other) : text = other := by
  apply Option.some.inj
  rw [← ofBytes?_bytes text, ← ofBytes?_bytes other, same]

@[simp] theorem utf8_nil : utf8 [] = [] := rfl

theorem utf8_cons (c : Char) (text : List Char) :
    utf8 (c :: text) = String.utf8EncodeChar c ++ utf8 text := List.flatMap_cons

@[simp] theorem utf8_append (first second : List Char) :
    utf8 (first ++ second) = utf8 first ++ utf8 second := List.flatMap_append

theorem utf8_flatMap {α : Type} (values : List α) (write : α → List Char) :
    utf8 (values.flatMap write) = values.flatMap fun value => utf8 (write value) := by
  simp [utf8, List.flatMap_assoc]

theorem utf8_inj {text other : List Char} (same : utf8 text = utf8 other) : text = other := by
  rw [← bytes_ofList, ← bytes_ofList] at same
  exact String.ofList_injective (bytes_injective same)

def octet (c : Char) : UInt8 := UInt8.ofNat c.toNat

theorem toNat_octet {c : Char} (ascii : c.toNat < 0x80) : (octet c).toNat = c.toNat := by
  simp [octet]
  omega

theorem utf8EncodeChar_ascii {c : Char} (ascii : c.toNat < 0x80) :
    String.utf8EncodeChar c = [octet c] := by
  have small : c.val.toNat ≤ 127 := Nat.le_of_lt_succ ascii
  unfold String.utf8EncodeChar
  exact if_pos small

theorem octets_not_ascii {c : Char} (wide : ¬ c.toNat < 0x80) :
    ∀ unit ∈ String.utf8EncodeChar c, 0x80 ≤ unit.toNat := by
  have large : ¬ c.val.toNat ≤ 127 := by
    intro small
    exact wide (Nat.lt_succ_of_le small)
  intro unit member
  simp only [String.utf8EncodeChar, large, if_false] at member
  split at member
  · simp only [List.mem_cons, List.not_mem_nil, or_false] at member
    rcases member with rfl | rfl <;> simp <;> omega
  · split at member
    · simp only [List.mem_cons, List.not_mem_nil, or_false] at member
      rcases member with rfl | rfl | rfl <;> simp <;> omega
    · simp only [List.mem_cons, List.not_mem_nil, or_false] at member
      rcases member with rfl | rfl | rfl | rfl <;> simp <;> omega

theorem eq_of_octet_mem {c : Char} {unit : UInt8} (ascii : unit.toNat < 0x80)
    (member : unit ∈ String.utf8EncodeChar c) : unit = octet c ∧ c.toNat < 0x80 := by
  by_cases narrow : c.toNat < 0x80
  · rw [utf8EncodeChar_ascii narrow] at member
    exact ⟨List.mem_singleton.mp member, narrow⟩
  · have wide := octets_not_ascii narrow unit member
    omega

theorem forall_octet {p : UInt8 → Prop} (all : ∀ n < 256, p (UInt8.ofNat n)) (unit : UInt8) : p unit := by
  simpa using all unit.toNat unit.toNat_lt

section Triples

/-- The octet that a percent sign stands for before these octets. -/
def leadingTriple? : List UInt8 → Option UInt8
  | high :: low :: _ => tripleValue? high low
  | _ => none

def hasTriple : List UInt8 → Bool
  | [] => false
  | octet :: rest => octet == 0x25 && (leadingTriple? rest).isSome || hasTriple rest

theorem percentDecode_percent (rest : List UInt8) : percentDecode (0x25 :: rest) =
    match leadingTriple? rest with
    | some octet => octet :: percentDecode (rest.drop 2)
    | none => 0x25 :: percentDecode rest := by
  match rest with
  | [] => simp [percentDecode, leadingTriple?]
  | [_] => simp [percentDecode, leadingTriple?]
  | high :: low :: rest =>
      rw [percentDecode]
      cases value : tripleValue? high low <;> simp [leadingTriple?, value]

theorem percentDecode_other {octet : UInt8} (other : octet ≠ 0x25) (rest : List UInt8) :
    percentDecode (octet :: rest) = octet :: percentDecode rest := by
  rw [percentDecode]
  rintro high low tail rfl
  exact absurd rfl other

/-- What follows the first octet is decoded on its own, if that does not begin a triple. -/
theorem percentDecode_cons {octet : UInt8} {rest : List UInt8}
    (alone : octet = 0x25 → leadingTriple? rest = none) :
    percentDecode (octet :: rest) = octet :: percentDecode rest := by
  by_cases percent : octet = 0x25
  · rw [percent, percentDecode_percent, alone percent]
  · exact percentDecode_other percent rest

theorem length_percentDecode_le (octets : List UInt8) :
    (percentDecode octets).length ≤ octets.length := by
  fun_induction percentDecode octets with
  | case1 high low rest octet value ih => simp; omega
  | case2 high low rest value ih => simpa using ih
  | case3 octet rest _ ih => simpa using ih
  | case4 => simp

theorem percentDecode_of_not_hasTriple {octets : List UInt8} (free : hasTriple octets = false) :
    percentDecode octets = octets := by
  induction octets with
  | nil => simp [percentDecode]
  | cons octet rest ih =>
      simp only [hasTriple, Bool.or_eq_false_iff, Bool.and_eq_false_imp, beq_iff_eq,
        Option.isSome_eq_false_iff, Option.isNone_iff_eq_none] at free
      rw [percentDecode_cons free.1, ih free.2]

theorem length_percentDecode_lt {octets : List UInt8} (triple : hasTriple octets = true) :
    (percentDecode octets).length < octets.length := by
  induction octets with
  | nil => cases triple
  | cons octet rest ih =>
      by_cases alone : octet = 0x25 → leadingTriple? rest = none
      · have later : hasTriple rest = true := by
          simp only [hasTriple, Bool.or_eq_true, Bool.and_eq_true, beq_iff_eq] at triple
          rcases triple with ⟨percent, here⟩ | later
          · simp [alone percent] at here
          · exact later
        have shorter := ih later
        rw [percentDecode_cons alone]
        simpa using shorter
      · obtain ⟨rfl, leading⟩ := Classical.not_imp.mp alone
        obtain ⟨value, here⟩ := Option.ne_none_iff_exists'.mp leading
        have bound := length_percentDecode_le (rest.drop 2)
        rw [List.length_drop] at bound
        cases rest with
        | nil => cases here
        | cons high rest =>
            rw [percentDecode_percent, here]
            simp only [List.length_cons] at bound ⊢
            omega

/-- Octets that decoding does not make shorter are left as they are. -/
theorem percentDecode_eq_self_iff {octets : List UInt8} :
    percentDecode octets = octets ↔ hasTriple octets = false := by
  constructor
  · intro same
    cases triple : hasTriple octets with
    | false => rfl
    | true =>
        have shorter := length_percentDecode_lt triple
        rw [same] at shorter
        exact absurd shorter (Nat.lt_irrefl _)
  · exact percentDecode_of_not_hasTriple

theorem hasTriple_append_right {first : List UInt8} {second : List UInt8}
    (free : hasTriple (first ++ second) = false) : hasTriple second = false := by
  induction first with
  | nil => exact free
  | cons octet rest ih =>
      simp only [List.cons_append, hasTriple, Bool.or_eq_false_iff] at free
      exact ih free.2

end Triples

section Encoding

theorem hexValue?_upperHexDigit (value : Nat) : hexValue? (upperHexDigit value) = some (value % 16) := by
  have small : ∀ digit < 16, hexValue? (Nat.digitChar digit).toUpper = some digit := by decide
  exact small _ (Nat.mod_lt _ (by decide))

theorem upperHexDigit_ascii (value : Nat) : (upperHexDigit value).toNat < 0x80 := by
  have small : ∀ digit < 16, (Nat.digitChar digit).toUpper.toNat < 0x80 := by decide
  exact small _ (Nat.mod_lt _ (by decide))

theorem ofNat_octet {c : Char} (ascii : c.toNat < 0x80) : Char.ofNat (octet c).toNat = c := by
  rw [toNat_octet ascii, Char.ofNat_toNat]

theorem utf8_percentTriple (unit : UInt8) : utf8 (percentTriple unit) =
    [0x25, octet (upperHexDigit (unit.toNat / 16)), octet (upperHexDigit unit.toNat)] := by
  have high := utf8EncodeChar_ascii (upperHexDigit_ascii (unit.toNat / 16))
  have low := utf8EncodeChar_ascii (upperHexDigit_ascii unit.toNat)
  have percent : String.utf8EncodeChar '%' = [0x25] := by decide
  simp [utf8, percentTriple, percent, high, low]

theorem tripleValue?_upperHexDigit (unit : UInt8) :
    tripleValue? (octet (upperHexDigit (unit.toNat / 16))) (octet (upperHexDigit unit.toNat)) =
      some unit := by
  have bound := unit.toNat_lt
  have joined : 16 * (unit.toNat / 16 % 16) + unit.toNat % 16 = unit.toNat := by omega
  simp only [tripleValue?, ofNat_octet (upperHexDigit_ascii _), hexValue?_upperHexDigit,
    Option.bind_eq_bind, Option.bind_some, joined, UInt8.ofNat_toNat]

theorem percentDecode_triple (unit : UInt8) (rest : List UInt8) :
    percentDecode (utf8 (percentTriple unit) ++ rest) = unit :: percentDecode rest := by
  rw [utf8_percentTriple, List.cons_append, percentDecode_percent]
  simp [leadingTriple?, tripleValue?_upperHexDigit]

def spell (kept : UInt8 → Bool) (unit : UInt8) : List UInt8 :=
  if kept unit then [unit] else utf8 (percentTriple unit)

def keptOctet (keeps : Char → Bool) (unit : UInt8) : Bool :=
  unit.toNat < 0x80 && keeps (Char.ofNat unit.toNat)

theorem utf8_percentEncode {keeps : Char → Bool} (ascii : ∀ c, keeps c = true → c.toNat < 0x80)
    (text : List Char) :
    utf8 (percentEncode keeps text) = (utf8 text).flatMap (spell (keptOctet keeps)) := by
  rw [percentEncode, utf8_flatMap, utf8, List.flatMap_assoc]
  congr 1
  funext c
  by_cases narrow : c.toNat < 0x80
  · rw [utf8EncodeChar_ascii narrow]
    cases kept : keeps c with
    | true =>
        simp [spell, keptOctet, toNat_octet narrow, narrow, kept, utf8, utf8EncodeChar_ascii narrow]
    | false => simp [spell, keptOctet, toNat_octet narrow, narrow, kept]
  · have refused : keeps c = false := by
      cases kept : keeps c with
      | false => rfl
      | true => exact absurd (ascii c kept) narrow
    simp only [refused, Bool.false_eq_true, if_false, utf8_flatMap]
    apply List.flatMap_congr
    intro unit member
    have wide := octets_not_ascii narrow unit member
    have outside : ¬ unit.toNat < 0x80 := by omega
    simp [spell, keptOctet, outside]

variable {kept : UInt8 → Bool}

/-- A percent sign and the digits after it stand for themselves. -/
structure KeepsTriples (kept : UInt8 → Bool) : Prop where
  percent : kept 0x25 = true
  digits : ∀ unit, (hexValue? (Char.ofNat unit.toNat)).isSome → kept unit = true

theorem digits_of_tripleValue? {high low value : UInt8} (triple : tripleValue? high low = some value) :
    (hexValue? (Char.ofNat high.toNat)).isSome ∧ (hexValue? (Char.ofNat low.toNat)).isSome := by
  simp only [tripleValue?, Option.bind_eq_bind, Option.bind_eq_some_iff] at triple
  obtain ⟨_, first, _, second, _⟩ := triple
  simp [first, second]

theorem tripleValue?_of_refused (keeps : KeepsTriples kept) {high low : UInt8}
    (refused : kept high = false ∨ kept low = false) : tripleValue? high low = none := by
  cases triple : tripleValue? high low with
  | none => rfl
  | some value =>
      obtain ⟨first, second⟩ := digits_of_tripleValue? triple
      rcases refused with out | out
      · simp [keeps.digits high first] at out
      · simp [keeps.digits low second] at out

theorem spell_kept {unit : UInt8} (own : kept unit = true) : spell kept unit = [unit] := if_pos own

theorem exists_spell_refused {unit : UInt8} (out : kept unit = false) :
    ∃ digits, spell kept unit = 0x25 :: digits := by
  rw [spell, out, if_neg Bool.false_ne_true, utf8_percentTriple]
  exact ⟨_, rfl⟩

/-- Encoding neither makes a triple nor takes one apart. -/
theorem leadingTriple?_spelled (keeps : KeepsTriples kept) (units : List UInt8) :
    leadingTriple? (units.flatMap (spell kept)) = leadingTriple? units := by
  have noDigit : ∀ low, tripleValue? 0x25 low = none ∧ tripleValue? low 0x25 = none := by
    have percent : hexValue? (Char.ofNat 37) = none := by decide
    intro low
    constructor
    · simp [tripleValue?, percent]
    · simp [tripleValue?, percent]
  have percent : ∀ rest, leadingTriple? (0x25 :: rest) = none := by
    intro rest
    cases rest with
    | nil => rfl
    | cons low rest => exact (noDigit low).1
  match units with
  | [] => rfl
  | [unit] =>
      cases own : kept unit with
      | true => simp [spell_kept own]
      | false =>
          obtain ⟨digits, spelled⟩ := exists_spell_refused own
          rw [List.flatMap_singleton, spelled, percent]
          rfl
  | high :: low :: rest =>
      rw [List.flatMap_cons, List.flatMap_cons]
      cases first : kept high with
      | false =>
          obtain ⟨digits, spelled⟩ := exists_spell_refused first
          rw [spelled, List.cons_append, percent]
          exact (tripleValue?_of_refused keeps (.inl first)).symm
      | true =>
          rw [spell_kept first, List.singleton_append]
          cases second : kept low with
          | false =>
              obtain ⟨digits, spelled⟩ := exists_spell_refused second
              rw [spelled]
              exact (noDigit high).2.trans (tripleValue?_of_refused keeps (.inr second)).symm
          | true => simp [spell_kept second, leadingTriple?]

theorem percentDecode_spelled (keeps : KeepsTriples kept) (units : List UInt8) :
    percentDecode (units.flatMap (spell kept)) = percentDecode units := by
  -- The reader looks two octets ahead, so it matters whether what follows begins a triple.
  fun_induction percentDecode units with
  | case1 high low rest value triple ih =>
      obtain ⟨first, second⟩ := digits_of_tripleValue? triple
      simp only [List.flatMap_cons, spell_kept keeps.percent, spell_kept (keeps.digits _ first),
        spell_kept (keeps.digits _ second), List.singleton_append]
      rw [percentDecode_percent, leadingTriple?, triple]
      simp [ih]
  | case2 high low rest none ih =>
      rw [List.flatMap_cons, spell_kept keeps.percent, List.singleton_append, percentDecode_cons, ih]
      intro _
      rw [leadingTriple?_spelled keeps, leadingTriple?, none]
  | case3 unit rest other ih =>
      cases own : kept unit with
      | true =>
          rw [List.flatMap_cons, spell_kept own, List.singleton_append, percentDecode_cons, ih]
          rintro rfl
          rw [leadingTriple?_spelled keeps]
          match rest with
          | [] => rfl
          | [_] => rfl
          | high :: low :: rest => exact (other high low rest rfl rfl).elim
      | false =>
          rw [List.flatMap_cons, spell, own, if_neg Bool.false_ne_true, percentDecode_triple, ih]
  | case4 => simp [percentDecode]

end Encoding

end UsageBilling.Text
