import UsageBilling.Json.Basic
import UsageBilling.Text.Hex
import UsageBilling.Text.Utf8
/-!
A strict JSON reader that goes through the bytes once and stops at the first fault. A reader is told
how many more levels of nesting it may open, and gives back what follows the value it read.
-/
namespace UsageBilling.Json

/-- Why reading stopped: the bytes are no JSON, or a value is not of the expected kind. -/
inductive Fault where
  | malformed
  | mismatched
  deriving DecidableEq, Repr

def Reader (α : Type) : Type := (depth : Nat) → List UInt8 → Except Fault (α × List UInt8)

namespace Reader

instance : Monad Reader where
  pure value := fun _ input => .ok (value, input)
  bind read next := fun depth input =>
    match read depth input with
    | .ok (value, rest) => next value depth rest
    | .error fault => .error fault

def map {α β : Type} (f : α → β) (read : Reader α) : Reader β := fun depth input =>
  match read depth input with
  | .ok (value, rest) => .ok (f value, rest)
  | .error fault => .error fault

/-- Reads a value and turns it into another; `none` is a value of the wrong kind. -/
def filterMap {α β : Type} (f : α → Option β) (read : Reader α) : Reader β := fun depth input =>
  match read depth input with
  | .ok (value, rest) =>
    match f value with
    | some value => .ok (value, rest)
    | none => .error .mismatched
  | .error fault => .error fault

end Reader

/-- The levels of nesting that a whole text may have, and one more. -/
def fullDepth : Nat := 128

def isBlankOctet (octet : UInt8) : Bool :=
  octet == 0x20 || octet == 0x09 || octet == 0x0a || octet == 0x0d

def skipBlank (input : List UInt8) : List UInt8 := input.dropWhile isBlankOctet

def isDigitOctet (octet : UInt8) : Bool := 0x30 ≤ octet && octet ≤ 0x39

def digitValue (octet : UInt8) : Nat := octet.toNat - 0x30

def afterWord? : (word input : List UInt8) → Option (List UInt8)
  | [], input => some input
  | w :: word, octet :: input => if w = octet then afterWord? word input else none
  | _ :: _, [] => none

/-! ### Strings -/

def hexOctet? (octet : UInt8) : Option Nat := Text.hexValue? (Char.ofNat octet.toNat)

def hexUnit? (h₁ h₂ h₃ h₄ : UInt8) : Option Nat := do
  some (4096 * (← hexOctet? h₁) + 256 * (← hexOctet? h₂) + 16 * (← hexOctet? h₃) + (← hexOctet? h₄))

def isHighSurrogate (unit : Nat) : Bool := 0xD800 ≤ unit && unit ≤ 0xDBFF

def isLowSurrogate (unit : Nat) : Bool := 0xDC00 ≤ unit && unit ≤ 0xDFFF

def pointOctets (point : Nat) : List UInt8 := String.utf8EncodeChar (Char.ofNat point)

def shortEscape? (octet : UInt8) : Option UInt8 :=
  if octet = 0x22 ∨ octet = 0x5c ∨ octet = 0x2f then some octet
  else if octet = 0x62 then some 0x08
  else if octet = 0x66 then some 0x0c
  else if octet = 0x6e then some 0x0a
  else if octet = 0x72 then some 0x0d
  else if octet = 0x74 then some 0x09
  else none

/-- The bytes of a string up to its closing quote, escapes undone, with `before` (last byte first)
in front of them. -/
def readOctets? (before : List UInt8) : List UInt8 → Option (List UInt8 × List UInt8)
  | [] => none
  | 0x22 :: rest => some (before.reverse, rest)
  | 0x5c :: 0x75 :: h₁ :: h₂ :: h₃ :: h₄ :: rest =>
    match hexUnit? h₁ h₂ h₃ h₄ with
    | none => none
    | some unit =>
      if isLowSurrogate unit then none
      else if isHighSurrogate unit then
        match rest with
        | 0x5c :: 0x75 :: l₁ :: l₂ :: l₃ :: l₄ :: rest =>
          match hexUnit? l₁ l₂ l₃ l₄ with
          | none => none
          | some low =>
            if isLowSurrogate low then
              let point := 0x10000 + 1024 * (unit - 0xD800) + (low - 0xDC00)
              readOctets? ((pointOctets point).reverse ++ before) rest
            else none
        | _ => none
      else readOctets? ((pointOctets unit).reverse ++ before) rest
  | 0x5c :: octet :: rest =>
    match shortEscape? octet with
    | some octet => readOctets? (octet :: before) rest
    | none => none
  | octet :: rest => if octet < 0x20 then none else readOctets? (octet :: before) rest

def readString? (input : List UInt8) : Option (String × List UInt8) := do
  let (octets, rest) ← readOctets? [] input
  some (← Text.ofBytes? octets, rest)

/-- Passes over a string whose opening quote has been read. Surrogates need not be paired. -/
def skipString? : List UInt8 → Option (List UInt8)
  | [] => none
  | 0x22 :: rest => some rest
  | 0x5c :: 0x75 :: h₁ :: h₂ :: h₃ :: h₄ :: rest =>
    if (hexUnit? h₁ h₂ h₃ h₄).isSome then skipString? rest else none
  | 0x5c :: octet :: rest => if (shortEscape? octet).isSome then skipString? rest else none
  | octet :: rest => if octet < 0x20 then none else skipString? rest

/-! ### Numbers -/

/-- The double nearest to `n`, ties to even, where the exponent is not bounded. -/
def nearestDouble (n : Nat) : Nat :=
  if n < Nat.pow 2 53 then n
  else
    let unit := Nat.pow 2 (n.log2 - 52)
    let quotient := n / unit
    let twice := 2 * (n % unit)
    if twice > unit ∨ twice = unit ∧ quotient % 2 = 1 then (quotient + 1) * unit
    else quotient * unit

/-- Whether significand times power, both rounded to doubles, is too large for a double. -/
def overflows (significand : Nat) (exponent : Int) : Bool :=
  significand != 0 && (exponent > 308 ||
    (exponent ≥ 0 &&
      nearestDouble significand * nearestDouble (Nat.pow 10 exponent.toNat) ≥
        Nat.pow 2 1024 - Nat.pow 2 970))

/-- Appends digits to `significand` as long as it fits 64 bits, and gives back those left over. -/
def gather (significand : Nat) : List UInt8 → Nat × List UInt8
  | [] => (significand, [])
  | digit :: digits =>
    let next := 10 * significand + digitValue digit
    if next < Nat.pow 2 64 then gather next digits else (significand, digit :: digits)

def readDigits? (input : List UInt8) : Option (List UInt8 × List UInt8) :=
  let digits := input.takeWhile isDigitOctet
  if digits.isEmpty then none else some (digits, input.drop digits.length)

/-- The whole part of a number: no digit may follow a leading zero. -/
def readWhole? (input : List UInt8) : Option (List UInt8 × List UInt8) := do
  let (digits, rest) ← readDigits? input
  if digits.head? = some 0x30 ∧ digits.length > 1 then none else some (digits, rest)

def readFraction? : List UInt8 → Option (Option (List UInt8) × List UInt8)
  | 0x2e :: rest => (readDigits? rest).map fun (digits, rest) => (some digits, rest)
  | input => some (none, input)

def readExponent? (input : List UInt8) : Option (Option Int × List UInt8) :=
  let value (digits : List UInt8) : Int := digits.foldl (fun n digit => 10 * n + digitValue digit) 0
  let signed (rest : List UInt8) : Option (Option Int × List UInt8) := match rest with
    | 0x2d :: rest => (readDigits? rest).map fun (digits, rest) => (some (-value digits), rest)
    | 0x2b :: rest => (readDigits? rest).map fun (digits, rest) => (some (value digits), rest)
    | rest => (readDigits? rest).map fun (digits, rest) => (some (value digits), rest)
  match input with
  | 0x65 :: rest | 0x45 :: rest => signed rest
  | input => some (none, input)

/-- The value of a number from its parts. `-0` is not a whole number. -/
def numberOf? (negative : Bool) (whole : List UInt8) (fraction : Option (List UInt8))
    (exponent : Option Int) : Option Json :=
  let (significand, dropped) := gather 0 whole
  if dropped.isEmpty && fraction.isNone && exponent.isNone &&
      (!negative || (significand != 0 && significand ≤ Nat.pow 2 63)) then
    some (.int (if negative then -(significand : Int) else significand))
  else
    let digits := fraction.getD []
    let (significand, unused) := gather significand digits
    let power : Int := dropped.length - (digits.length - unused.length : Nat) + exponent.getD 0
    if overflows significand power then none else some (.real negative significand power)

def readNumber? (input : List UInt8) : Option (Json × List UInt8) := do
  let (negative, rest) := match input with
    | 0x2d :: rest => (true, rest)
    | rest => (false, rest)
  let (whole, rest) ← readWhole? rest
  let (fraction, rest) ← readFraction? rest
  let (exponent, rest) ← readExponent? rest
  some (← numberOf? negative whole fraction exponent, rest)

def skipNumber? (input : List UInt8) : Option (List UInt8) := do
  let (_, rest) ← readWhole? (match input with | 0x2d :: rest => rest | rest => rest)
  let (_, rest) ← readFraction? rest
  let (_, rest) ← readExponent? rest
  some rest

/-! ### Arrays and objects, step by step -/

/-- Where the next element starts, or `none` before the closing bracket. -/
def nextElement (first : Bool) (input : List UInt8) : Except Fault (Option (List UInt8)) :=
  match skipBlank input with
  | [] => .error .malformed
  | 0x5d :: _ => .ok none
  | octet :: rest =>
    if first then .ok (some (octet :: rest))
    else if octet = 0x2c then
      match skipBlank rest with
      | [] | 0x5d :: _ => .error .malformed
      | rest => .ok (some rest)
    else .error .malformed

def nextKey (first : Bool) (input : List UInt8) : Except Fault (Option (List UInt8)) :=
  match skipBlank input with
  | [] => .error .malformed
  | 0x7d :: _ => .ok none
  | octet :: rest =>
    if first then if octet = 0x22 then .ok (some rest) else .error .malformed
    else if octet = 0x2c then
      match skipBlank rest with
      | 0x22 :: rest => .ok (some rest)
      | _ => .error .malformed
    else .error .malformed

def after (octet : UInt8) (input : List UInt8) : Except Fault (List UInt8) :=
  match skipBlank input with
  | first :: rest => if first = octet then .ok rest else .error .malformed
  | [] => .error .malformed

def orMalformed {α : Type} : Option α → Except Fault α
  | some value => .ok value
  | none => .error .malformed

/-! ### Whole values -/

mutual

/-- Reads any value. The fuel bounds the steps; twice the length of the input is enough. -/
def readValue : (fuel depth : Nat) → List UInt8 → Except Fault (Json × List UInt8)
  | 0, _, _ => .error .malformed
  | fuel + 1, depth, input =>
    match skipBlank input with
    | [] => .error .malformed
    | 0x6e :: rest => (orMalformed (afterWord? [0x75, 0x6c, 0x6c] rest)).map (Json.null, ·)
    | 0x74 :: rest => (orMalformed (afterWord? [0x72, 0x75, 0x65] rest)).map (Json.bool true, ·)
    | 0x66 :: rest => (orMalformed (afterWord? [0x61, 0x6c, 0x73, 0x65] rest)).map (Json.bool false, ·)
    | 0x22 :: rest => (orMalformed (readString? rest)).map fun (text, rest) => (.str text, rest)
    | 0x5b :: rest =>
      if depth ≤ 1 then .error .malformed
      else (readItems fuel (depth - 1) true rest).map fun (items, rest) => (.arr items, rest)
    | 0x7b :: rest =>
      if depth ≤ 1 then .error .malformed
      else (readFields fuel (depth - 1) true [] rest).map fun (fields, rest) => (.obj fields, rest)
    | octet :: rest =>
      if octet = 0x2d ∨ isDigitOctet octet then orMalformed (readNumber? (octet :: rest))
      else .error .malformed

def readItems : (fuel depth : Nat) → (first : Bool) → List UInt8 →
    Except Fault (List Json × List UInt8)
  | 0, _, _, _ => .error .malformed
  | fuel + 1, depth, first, input => do
    match ← nextElement first input with
    | none => return ([], ← after 0x5d input)
    | some rest =>
      let (item, rest) ← readValue fuel depth rest
      let (items, rest) ← readItems fuel depth false rest
      return (item :: items, rest)

/-- Reads the entries of an object after those in `fields`. Of equal keys the last one counts. -/
def readFields : (fuel depth : Nat) → (first : Bool) → List (String × Json) → List UInt8 →
    Except Fault (List (String × Json) × List UInt8)
  | 0, _, _, _, _ => .error .malformed
  | fuel + 1, depth, first, fields, input => do
    match ← nextKey first input with
    | none => return (fields, ← after 0x7d input)
    | some rest =>
      let (key, rest) ← orMalformed (readString? rest)
      let (value, rest) ← readValue fuel depth (← after 0x3a rest)
      readFields fuel depth false (insertEntry key value fields) rest

end

mutual

/-- Passes over a value of any depth, checking its grammar only. -/
def skipValue : (fuel : Nat) → List UInt8 → Except Fault (List UInt8)
  | 0, _ => .error .malformed
  | fuel + 1, input =>
    match skipBlank input with
    | [] => .error .malformed
    | 0x6e :: rest => orMalformed (afterWord? [0x75, 0x6c, 0x6c] rest)
    | 0x74 :: rest => orMalformed (afterWord? [0x72, 0x75, 0x65] rest)
    | 0x66 :: rest => orMalformed (afterWord? [0x61, 0x6c, 0x73, 0x65] rest)
    | 0x22 :: rest => orMalformed (skipString? rest)
    | 0x5b :: rest => skipItems fuel true rest
    | 0x7b :: rest => skipFields fuel true rest
    | octet :: rest =>
      if octet = 0x2d ∨ isDigitOctet octet then orMalformed (skipNumber? (octet :: rest))
      else .error .malformed

def skipItems : (fuel : Nat) → (first : Bool) → List UInt8 → Except Fault (List UInt8)
  | 0, _, _ => .error .malformed
  | fuel + 1, first, input => do
    match ← nextElement first input with
    | none => after 0x5d input
    | some rest => skipItems fuel false (← skipValue fuel rest)

def skipFields : (fuel : Nat) → (first : Bool) → List UInt8 → Except Fault (List UInt8)
  | 0, _, _ => .error .malformed
  | fuel + 1, first, input => do
    match ← nextKey first input with
    | none => after 0x7d input
    | some rest =>
      let rest ← after 0x3a (← orMalformed (skipString? rest))
      skipFields fuel false (← skipValue fuel rest)

end

def fuelFor (input : List UInt8) : Nat := 2 * input.length + 2

namespace Reader

def value : Reader Json := fun depth input => readValue (fuelFor input) depth input

def skipped : Reader Unit := fun _ input =>
  (skipValue (fuelFor input) input).map fun rest => ((), rest)

/-- The fault of meeting a value of another kind: a scalar is read first, and may be malformed. -/
def otherKind (input : List UInt8) : Fault :=
  match input with
  | 0x5b :: _ | 0x7b :: _ => .mismatched
  | _ =>
    match readValue 1 0 input with
    | .ok _ => .mismatched
    | .error fault => fault

def string : Reader String := fun _ input =>
  match skipBlank input with
  | [] => .error .malformed
  | 0x22 :: rest => orMalformed (readString? rest)
  | rest => .error (otherKind rest)

def boolean : Reader Bool := fun _ input =>
  match skipBlank input with
  | [] => .error .malformed
  | 0x74 :: rest => (orMalformed (afterWord? [0x72, 0x75, 0x65] rest)).map (true, ·)
  | 0x66 :: rest => (orMalformed (afterWord? [0x61, 0x6c, 0x73, 0x65] rest)).map (false, ·)
  | rest => .error (otherKind rest)

/-- A whole number from `least` to `greatest`, written without fraction and exponent. -/
def integer (least greatest : Int) : Reader Int := fun _ input =>
  match skipBlank input with
  | [] => .error .malformed
  | octet :: rest =>
    if octet = 0x2d ∨ isDigitOctet octet then do
      match ← orMalformed (readNumber? (octet :: rest)) with
      | (.int n, rest) => if least ≤ n ∧ n ≤ greatest then .ok (n, rest) else .error .mismatched
      | _ => .error .mismatched
    else .error (otherKind (octet :: rest))

def signed64 : Reader Int := integer (-9223372036854775808) 9223372036854775807

def unsigned (greatest : Nat) : Reader Nat := (integer 0 greatest).map Int.toNat

def optional {α : Type} (read : Reader α) : Reader (Option α) := fun depth input =>
  match skipBlank input with
  | 0x6e :: rest => (orMalformed (afterWord? [0x75, 0x6c, 0x6c] rest)).map (none, ·)
  | _ => (read.map some) depth input

def listItems {α : Type} (read : Reader α) : (fuel : Nat) → (first : Bool) → Reader (List α)
  | 0, _ => fun _ _ => .error .malformed
  | fuel + 1, first => fun depth input => do
    match ← nextElement first input with
    | none => return ([], ← after 0x5d input)
    | some rest =>
      let (item, rest) ← read depth rest
      let (items, rest) ← listItems read fuel false depth rest
      return (item :: items, rest)

def list {α : Type} (read : Reader α) : Reader (List α) := fun depth input =>
  match skipBlank input with
  | [] => .error .malformed
  | 0x5b :: rest =>
    if depth ≤ 1 then .error .malformed else listItems read (fuelFor rest) true (depth - 1) rest
  | rest => .error (otherKind rest)

def textEntries : (fuel : Nat) → (first : Bool) → List (String × String) →
    Reader (List (String × String))
  | 0, _, _ => fun _ _ => .error .malformed
  | fuel + 1, first, entries => fun depth input => do
    match ← nextKey first input with
    | none => return (entries, ← after 0x7d input)
    | some rest =>
      let (key, rest) ← orMalformed (readString? rest)
      let (value, rest) ← string depth (← after 0x3a rest)
      textEntries fuel false (insertEntry key value entries) depth rest

def textMap : Reader (List (String × String)) := fun depth input =>
  match skipBlank input with
  | [] => .error .malformed
  | 0x7b :: rest =>
    if depth ≤ 1 then .error .malformed else textEntries (fuelFor rest) true [] (depth - 1) rest
  | rest => .error (otherKind rest)

/-- Reads a value at the start of a text, whatever follows it. -/
def readLeading {α : Type} (read : Reader α) (input : List UInt8) : Except Fault α :=
  (read fullDepth input).map Prod.fst

def run {α : Type} (read : Reader α) (input : List UInt8) : Except Fault α := do
  let (value, rest) ← read fullDepth input
  if (skipBlank rest).isEmpty then .ok value else .error .malformed

end Reader

end UsageBilling.Json
