/-!
Whole numbers in decimal text. A number is written without sign if it is not negative and without
leading zeros; it is read with any number of them and with an optional sign.
-/
namespace UsageBilling.Text

def readDigits? (text : List Char) : Option Nat :=
  if text.isEmpty || !text.all Char.isDigit then none else some (Nat.ofDigitChars 10 text 0)

def readUnsigned? (greatest : Nat) (text : List Char) : Option Nat :=
  let digits := match text with
    | '+' :: rest => rest
    | _ => text
  (readDigits? digits).filter (· ≤ greatest)

/-- A number of 64 signed bits; a plus or a minus sign may stand in front. -/
def readSigned? (text : List Char) : Option Int :=
  let value : Option Int := match text with
    | '-' :: rest => (readDigits? rest).map fun n => -(n : Int)
    | '+' :: rest => (readDigits? rest).map fun n => (n : Int)
    | _ => (readDigits? text).map fun n => (n : Int)
  value.filter fun n => -9223372036854775808 ≤ n && n ≤ 9223372036854775807

def greatestUnsigned64 : Nat := 18446744073709551615

def greatestUnsigned32 : Nat := 4294967295

def greatestUnsigned16 : Nat := 65535

/-- The digits of `n`, filled up with zeros in front to at least `width`. -/
def padded (width n : Nat) : List Char :=
  let digits := Nat.toDigits 10 n
  List.replicate (width - digits.length) '0' ++ digits

def signedDigits (n : Int) : List Char :=
  if n < 0 then '-' :: Nat.toDigits 10 n.natAbs else Nat.toDigits 10 n.natAbs

end UsageBilling.Text
