import UsageBilling.Text.Hex
/-!
Identifiers of 128 bits. They are written as 32 lower-case digits in groups of 8, 4, 4, 4 and 12,
and read in that form, without hyphens, in braces, or as a URN.
-/
namespace UsageBilling

structure Uuid where
  bits : BitVec 128
  deriving DecidableEq, Repr

namespace Uuid

def zero : Uuid := ⟨0⟩

instance : Inhabited Uuid := ⟨zero⟩

instance : LE Uuid := ⟨fun a b => a.bits ≤ b.bits⟩

instance (a b : Uuid) : Decidable (a ≤ b) := inferInstanceAs (Decidable (a.bits ≤ b.bits))

def bigEndian : (width : Nat) → (n : Nat) → List UInt8
  | 0, _ => []
  | width + 1, n => bigEndian width (n / 256) ++ [UInt8.ofNat n]

def octets (id : Uuid) : List UInt8 := bigEndian 16 id.bits.toNat

def hyphenated : List Nat → List Char → List Char
  | [], digits => digits
  | [_], digits => digits
  | width :: widths, digits => digits.take width ++ '-' :: hyphenated widths (digits.drop width)

def groups : List Nat := [8, 4, 4, 4, 12]

def text (id : Uuid) : String := String.ofList (hyphenated groups (Text.hex id.octets))

def ofDigits? (digits : List Char) : Option Uuid :=
  if digits.length = 32 then
    (digits.mapM Text.hexValue?).map fun values =>
      ⟨BitVec.ofNat 128 (values.foldl (fun n value => 16 * n + value) 0)⟩
  else none

/-- Takes the hyphens out, which must stand exactly between the groups. -/
def joinGroups? : List Nat → List Char → Option (List Char)
  | [], text => if text.isEmpty then some [] else none
  | [width], text => if text.length = width then some text else none
  | width :: widths, text =>
    match text.drop width with
    | '-' :: rest => (joinGroups? widths rest).map (text.take width ++ ·)
    | _ => none

def ofHyphenated? (text : List Char) : Option Uuid := do
  ofDigits? (← joinGroups? groups text)

def urnMark : List Char := "urn:uuid:".toList

def ofChars? (text : List Char) : Option Uuid :=
  if text.length = 32 then ofDigits? text
  else if text.length = 36 then ofHyphenated? text
  else if text.length = 38 then
    if text.head? = some '{' ∧ text.getLast? = some '}' then ofHyphenated? (text.tail.take 36)
    else none
  else if text.length = 45 ∧ text.take 9 = urnMark then ofHyphenated? (text.drop 9)
  else none

def parse? (text : String) : Option Uuid := ofChars? text.toList

end Uuid

/-- A supply of fresh identifiers. Any two of the first 2^62 it hands out differ. -/
structure IdSource where
  issued : Nat := 0
  deriving DecidableEq, Repr, Inhabited

namespace IdSource

def base : Nat := 0xa3c1f0e27b5d4e9a8000000000000000

def serial (n : Nat) : Uuid := ⟨BitVec.ofNat 128 (base + n % Nat.pow 2 62)⟩

def draw (source : IdSource) : Uuid × IdSource := (serial source.issued, ⟨source.issued + 1⟩)

def drawMany (source : IdSource) (count : Nat) : List Uuid × IdSource :=
  ((List.range count).map fun index => serial (source.issued + index), ⟨source.issued + count⟩)

def hasIssued (source : IdSource) (id : Uuid) : Bool :=
  base ≤ id.bits.toNat && id.bits.toNat < base + source.issued

end IdSource

end UsageBilling
