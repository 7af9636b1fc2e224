import UsageBilling.Proofs.Text.Percents
import UsageBilling.Text.Form
/-!
Forms read back. Neither ampersands nor equals signs are left in encoded text, so pairs and their two
parts are found again, and decoding undoes the encoding of each part.
-/
namespace UsageBilling.Text.Form

def written (unit : UInt8) : List UInt8 := if unit = 0x20 then [0x2b] else spell (keptOctet keeps) unit

theorem keeps_ascii (c : Char) (kept : keeps c = true) : c.toNat < 0x80 := by
  simp only [keeps, Bool.or_eq_true, beq_iff_eq] at kept
  rcases kept with (((alphanum | rfl) | rfl) | rfl) | rfl
  · rcases Bool.or_eq_true_iff.mp alphanum with alpha | digit
    · rcases Bool.or_eq_true_iff.mp alpha with upper | lower
      · have bound : c.val ≤ 'Z'.val := (of_decide_eq_true upper).2
        exact Nat.lt_of_le_of_lt bound (by decide)
      · have bound : c.val ≤ 'z'.val := of_decide_eq_true (Bool.and_eq_true_iff.mp lower).2
        exact Nat.lt_of_le_of_lt bound (by decide)
    · have bound : c.val ≤ '9'.val := of_decide_eq_true (Bool.and_eq_true_iff.mp digit).2
      exact Nat.lt_of_le_of_lt bound (by decide)
  all_goals decide

theorem utf8_encodeText (text : List Char) : utf8 (encodeText text) = (utf8 text).flatMap written := by
  rw [encodeText, utf8_flatMap, utf8, List.flatMap_assoc]
  apply List.flatMap_congr
  intro c _
  by_cases space : c = ' '
  · subst space
    decide
  · rw [if_neg space, utf8_percentEncode keeps_ascii, utf8, List.flatMap_singleton]
    apply List.flatMap_congr
    intro unit member
    have other : unit ≠ 0x20 := by
      rintro rfl
      obtain ⟨same, ascii⟩ := eq_of_octet_mem (by decide) member
      have value := congrArg UInt8.toNat same
      rw [toNat_octet ascii] at value
      exact space (Char.toNat_inj.mp value.symm)
    rw [written, if_neg other]

theorem not_separator_of_mem {units : List UInt8} :
    ∀ unit ∈ units.flatMap written, unit ≠ 0x26 ∧ unit ≠ 0x3d := by
  have free : ∀ unit, ∀ part ∈ written unit, part ≠ 0x26 ∧ part ≠ 0x3d :=
    forall_octet (by decide +kernel)
  intro part member
  obtain ⟨unit, _, member⟩ := List.mem_flatMap.mp member
  exact free unit part member

theorem decodeText_written (units : List UInt8) : decodeText (units.flatMap written) = units := by
  -- A plus sign is written as a triple, so one that is read stands for a space.
  have cases : ∀ unit,
      ((written unit).map fun part => if part = 0x2b then 0x20 else part) = [unit] ∧ unit ≠ 0x25 ∨
      ((written unit).map fun part => if part = 0x2b then 0x20 else part) = utf8 (percentTriple unit) :=
    forall_octet (by decide +kernel)
  induction units with
  | nil => simp [decodeText, percentDecode]
  | cons unit units ih =>
      rw [decodeText] at ih ⊢
      rw [List.flatMap_cons, List.map_append]
      rcases cases unit with ⟨same, other⟩ | triple
      · rw [same, List.singleton_append, percentDecode_other other, ih]
      · rw [triple, percentDecode_triple, ih]

def pairOctets (pair : String × String) : List UInt8 :=
  (bytes pair.1).flatMap written ++ 0x3d :: (bytes pair.2).flatMap written

theorem utf8_encodePair (pair : String × String) : utf8 (encodePair pair) = pairOctets pair := by
  have equals : utf8 ['='] = [0x3d] := by decide
  rw [encodePair, pairOctets, List.append_cons, utf8_append, utf8_append, equals, utf8_encodeText,
    utf8_encodeText, ← bytes_eq_utf8, ← bytes_eq_utf8, List.append_assoc, List.singleton_append]

theorem decodePair_pairOctets (pair : String × String) :
    decodePair (pairOctets pair) = (bytes pair.1, bytes pair.2) := by
  have before : ∀ unit ∈ (bytes pair.1).flatMap written, decide (unit ≠ 0x3d) = true :=
    fun unit member => decide_eq_true (not_separator_of_mem unit member).2
  rw [decodePair, pairOctets, List.takeWhile_append_of_pos before, List.dropWhile_append_of_pos before]
  simp [decodeText_written]

theorem utf8_intercalate (separator : List Char) (parts : List (List Char)) :
    utf8 (separator.intercalate parts) = (utf8 separator).intercalate (parts.map utf8) := by
  induction parts with
  | nil => rfl
  | cons part parts ih =>
      cases parts with
      | nil => simp
      | cons next parts =>
          rw [List.intercalate_cons_cons, utf8_append, utf8_append, ih]
          exact List.intercalate_cons_cons.symm

theorem utf8_encode (pairs : List (String × String)) :
    utf8 (encode pairs) = [0x26].intercalate (pairs.map pairOctets) := by
  have ampersand : utf8 ['&'] = [0x26] := by decide
  rw [encode, utf8_intercalate, ampersand, List.map_map]
  congr 1
  apply List.map_congr_left
  intro pair _
  exact utf8_encodePair pair

/-- Octet for octet, a form that is read back is the form that has been written. -/
theorem decode_encode (pairs : List (String × String)) :
    decode (utf8 (encode pairs)) = pairs.map fun pair => (bytes pair.1, bytes pair.2) := by
  cases pairs with
  | nil => decide
  | cons first rest =>
      have free : ∀ octets ∈ (first :: rest).map pairOctets, (0x26 : UInt8) ∉ octets := by
        intro octets member separator
        obtain ⟨pair, _, rfl⟩ := List.mem_map.mp member
        rcases List.mem_append.mp separator with name | _ | ⟨_, value⟩
        · exact (not_separator_of_mem _ name).1 rfl
        · exact (not_separator_of_mem _ value).1 rfl
      have filled : ∀ octets ∈ (first :: rest).map pairOctets, decide (octets ≠ []) = true := by
        intro octets member
        obtain ⟨pair, _, rfl⟩ := List.mem_map.mp member
        simp [pairOctets]
      rw [utf8_encode, decode, List.splitOn_intercalate _ free (by simp), List.filter_eq_self.mpr filled,
        List.map_map]
      apply List.map_congr_left
      intro pair _
      exact decodePair_pairOctets pair

def read? (octets : List UInt8) : Option (List (String × String)) :=
  (decode octets).mapM fun (name, value) => do
    let name ← ofBytes? name
    let value ← ofBytes? value
    some (name, value)

theorem read?_encode (pairs : List (String × String)) : read? (utf8 (encode pairs)) = some pairs := by
  rw [read?, decode_encode]
  induction pairs with
  | nil => rfl
  | cons pair pairs ih =>
      rw [List.map_cons, List.mapM_cons, ih]
      simp [ofBytes?_bytes]

end UsageBilling.Text.Form
