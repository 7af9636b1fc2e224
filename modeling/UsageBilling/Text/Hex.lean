/-!
Bytes in lower-case hexadecimal digits, two for each byte.
-/
namespace UsageBilling.Text

def hexDigit (value : Nat) : Char := Nat.digitChar (value % 16)

def hexValue? (c : Char) : Option Nat :=
  if '0' ≤ c ∧ c ≤ '9' then some (c.toNat - '0'.toNat)
  else if 'a' ≤ c ∧ c ≤ 'f' then some (c.toNat - 'a'.toNat + 10)
  else if 'A' ≤ c ∧ c ≤ 'F' then some (c.toNat - 'A'.toNat + 10)
  else none

def hexByte (octet : UInt8) : List Char := [hexDigit (octet.toNat / 16), hexDigit octet.toNat]

def hex (octets : List UInt8) : List Char := octets.flatMap hexByte

def ofHex? : List Char → Option (List UInt8)
  | [] => some []
  | high :: low :: rest => do
    let high ← hexValue? high
    let low ← hexValue? low
    let octets ← ofHex? rest
    some (UInt8.ofNat (16 * high + low) :: octets)
  | [_] => none

theorem hexValue?_hexDigit (value : Nat) : hexValue? (hexDigit value) = some (value % 16) := by
  have small : ∀ d, d < 16 → hexValue? (Nat.digitChar d) = some d := by decide
  exact small _ (Nat.mod_lt _ (by decide))

theorem ofHex?_hex (octets : List UInt8) : ofHex? (hex octets) = some octets := by
  induction octets with
  | nil => rfl
  | cons octet octets ih =>
    have joined : UInt8.ofNat (16 * (octet.toNat / 16 % 16) + octet.toNat % 16) = octet := by
      have bound := octet.toNat_lt
      rw [show 16 * (octet.toNat / 16 % 16) + octet.toNat % 16 = octet.toNat by omega]
      exact UInt8.ofNat_toNat
    change ofHex? (hexDigit (octet.toNat / 16) :: hexDigit octet.toNat :: hex octets) = _
    simp only [ofHex?, hexValue?_hexDigit, ih, Option.bind_eq_bind, Option.bind_some, joined]

end UsageBilling.Text
