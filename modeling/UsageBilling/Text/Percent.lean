import UsageBilling.Text.Hex
/-!
Percent encoding: a character that must not stand in some place is written as the octets of its
UTF-8 form, each as a percent sign and two upper-case hexadecimal digits.
-/
namespace UsageBilling.Text

def upperHexDigit (value : Nat) : Char := (hexDigit value).toUpper

def percentTriple (octet : UInt8) : List Char :=
  ['%', upperHexDigit (octet.toNat / 16), upperHexDigit octet.toNat]

def percentEncode (keeps : Char → Bool) (text : List Char) : List Char :=
  text.flatMap fun c => if keeps c then [c] else (String.utf8EncodeChar c).flatMap percentTriple

def tripleValue? (high low : UInt8) : Option UInt8 := do
  let high ← hexValue? (Char.ofNat high.toNat)
  let low ← hexValue? (Char.ofNat low.toNat)
  some (UInt8.ofNat (16 * high + low))

/-- Replaces each percent sign that two digits follow; any other one stands for itself. -/
def percentDecode : List UInt8 → List UInt8
  | 0x25 :: high :: low :: rest =>
    match tripleValue? high low with
    | some octet => octet :: percentDecode rest
    | none => 0x25 :: percentDecode (high :: low :: rest)
  | octet :: rest => octet :: percentDecode rest
  | [] => []
termination_by octets => octets.length

end UsageBilling.Text
