import UsageBilling.Text.Blank
import UsageBilling.Text.Decimal
import UsageBilling.Time.Instant
/-!
Instants as text. They are written in UTC as RFC 3339 lays down, with as many of 0, 3, 6 or 9
digits of a second as they need. The reader is more lenient: blanks may stand before a number and
before a separator, a blank may stand for the `T`, numbers may lack leading zeros, `UTC` may stand
for `Z`, and the offset may be split by colons and blanks.
-/
namespace UsageBilling.Time

open UsageBilling.Text

/-- A fraction of a second in the fewest of 0, 3, 6 or 9 digits. -/
def fractionText (nanos : Nat) : List Char :=
  if nanos = 0 then []
  else if nanos % 1000000 = 0 then '.' :: padded 3 (nanos / 1000000)
  else if nanos % 1000 = 0 then '.' :: padded 6 (nanos / 1000)
  else '.' :: padded 9 nanos

/-- Four digits; outside the years 0 to 9999 a sign stands in front. -/
def yearText (year : Int) : List Char :=
  if 0 ≤ year ∧ year ≤ 9999 then padded 4 year.natAbs
  else (if year < 0 then '-' else '+') :: padded 4 year.natAbs

def instantChars (instant : Instant) : List Char :=
  let date := instant.date
  let second := instant.secondOfDay.toNat
  let leap := instant.nanos / 1000000000
  yearText date.year ++ '-' :: padded 2 date.month ++ '-' :: padded 2 date.day ++
    'T' :: padded 2 (second / 3600) ++ ':' :: padded 2 (second / 60 % 60) ++
    ':' :: padded 2 (second % 60 + leap) ++ fractionText (instant.nanos % 1000000000) ++ ['Z']

def readNumber? (most : Nat) (text : List Char) : Option (Nat × List Char) :=
  let digits := (text.take most).takeWhile Char.isDigit
  if digits.isEmpty then none
  else some (Nat.ofDigitChars 10 digits 0, text.drop digits.length)

def readField? (most : Nat) (text : List Char) : Option (Nat × List Char) :=
  readNumber? most (trimStart text)

/-- Reads a year after blanks: up to four digits, or a sign and any number of digits. -/
def readYear? (text : List Char) : Option (Int × List Char) :=
  match trimStart text with
  | '-' :: rest => (readNumber? rest.length rest).map fun (n, rest) => (-(n : Int), rest)
  | '+' :: rest => (readNumber? rest.length rest).map fun (n, rest) => ((n : Int), rest)
  | rest => (readNumber? 4 rest).map fun (n, rest) => ((n : Int), rest)

def readSeparator? (separator : Char) (text : List Char) : Option (List Char) :=
  match trimStart text with
  | c :: rest => if c = separator then some rest else none
  | [] => none

/-- Reads the fraction after a point, if there is one. Digits after the ninth have no effect. -/
def readFraction? (text : List Char) : Option (Nat × List Char) :=
  match text with
  | '.' :: rest =>
    let digits := rest.takeWhile Char.isDigit
    if digits.isEmpty then none
    else
      let kept := digits.take 9
      some (Nat.ofDigitChars 10 kept 0 * Nat.pow 10 (9 - kept.length), rest.drop digits.length)
  | _ => some (0, text)

def isOffsetGap (c : Char) : Bool := c == ':' || isBlank c

/-- Reads an offset from UTC in seconds. The minus sign may be the mathematical one. -/
def readOffset? (text : List Char) : Option (Int × List Char) := do
  let (sign, rest) ← match text with
    | '+' :: rest => some ((1 : Int), rest)
    | '-' :: rest => some (-1, rest)
    | '−' :: rest => some (-1, rest)
    | _ => none
  match rest with
  | h₁ :: h₂ :: rest =>
    let hours ← readDigits? [h₁, h₂]
    match rest.dropWhile isOffsetGap with
    | m₁ :: m₂ :: rest =>
      let minutes ← readDigits? [m₁, m₂]
      if minutes < 60 ∧ hours < 24 then some (sign * (hours * 3600 + minutes * 60), rest) else none
    | _ => none
  | _ => none

def readZone? (text : List Char) : Option (Int × List Char) :=
  match text with
  | 'Z' :: rest | 'z' :: rest => some (0, rest)
  | u :: t :: c :: rest =>
    if [u.toUpper, t.toUpper, c.toUpper] = ['U', 'T', 'C'] then some (0, rest) else readOffset? text
  | _ => readOffset? text

/-- The date and time of day as an instant, as if they were UTC. Second 60 is a leap second. -/
def civilInstant? (year : Int) (month day hour minute second nanos : Nat) : Option Instant :=
  let date : Date := ⟨year, month, day⟩
  if date.Valid ∧ hour < 24 ∧ minute < 60 ∧ second ≤ 60 then
    let leap := if second = 60 then 1 else 0
    let secondOfDay : Nat := hour * 3600 + minute * 60 + (second - leap)
    let instant := Instant.onDate date secondOfDay (nanos + leap * 1000000000)
    if instant.InRange then some instant else none
  else none

def readInstant? (text : List Char) : Option Instant := do
  let (year, rest) ← readYear? text
  let (month, rest) ← readField? 2 (← readSeparator? '-' rest)
  let (day, rest) ← readField? 2 (← readSeparator? '-' rest)
  let rest ← match rest with
    | c :: rest => if c = 'T' ∨ c = 't' ∨ c = ' ' then some rest else none
    | [] => none
  let (hour, rest) ← readField? 2 rest
  let (minute, rest) ← readField? 2 (← readSeparator? ':' rest)
  let (second, rest) ← readField? 2 (← readSeparator? ':' rest)
  let (nanos, rest) ← readFraction? rest
  let (offset, rest) ← readZone? (trimStart rest)
  if (trimStart rest).isEmpty then
    let civil ← civilInstant? year month day hour minute second nanos
    let instant : Instant := ⟨civil.seconds - offset, civil.nanos⟩
    if instant.InRange then some instant else none
  else none

end UsageBilling.Time

namespace UsageBilling.Instant

def text (instant : Instant) : String := String.ofList (Time.instantChars instant)

def parse? (text : String) : Option Instant := Time.readInstant? text.toList

end UsageBilling.Instant
