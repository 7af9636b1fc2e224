import UsageBilling.Json.Basic
import UsageBilling.Text.Decimal
import UsageBilling.Text.Hex
import UsageBilling.Text.Utf8
/-!
JSON as bytes, without blanks. In a string only quotes, backslashes and control characters are
escaped, the latter with their short form where there is one.
-/
namespace UsageBilling.Json

def ascii (chars : List Char) : List UInt8 := chars.map fun c => UInt8.ofNat c.toNat

def escapeOctet (octet : UInt8) : List UInt8 :=
  if octet = 0x22 then [0x5c, 0x22]
  else if octet = 0x5c then [0x5c, 0x5c]
  else if octet = 0x08 then [0x5c, 0x62]
  else if octet = 0x09 then [0x5c, 0x74]
  else if octet = 0x0a then [0x5c, 0x6e]
  else if octet = 0x0c then [0x5c, 0x66]
  else if octet = 0x0d then [0x5c, 0x72]
  else if octet < 0x20 then [0x5c, 0x75, 0x30, 0x30] ++ ascii (Text.hexByte octet)
  else [octet]

def renderText (text : String) : List UInt8 :=
  0x22 :: (Text.bytes text).flatMap escapeOctet ++ [0x22]

def renderReal (negative : Bool) (significand : Nat) (exponent : Int) : List UInt8 :=
  (if negative then [0x2d] else []) ++ ascii (Nat.toDigits 10 significand) ++
    0x65 :: ascii (Text.signedDigits exponent)

mutual

def render : Json → List UInt8
  | .null => ascii ['n', 'u', 'l', 'l']
  | .bool true => ascii ['t', 'r', 'u', 'e']
  | .bool false => ascii ['f', 'a', 'l', 's', 'e']
  | .int value => ascii (Text.signedDigits value)
  | .real negative significand exponent => renderReal negative significand exponent
  | .str value => renderText value
  | .arr items => 0x5b :: renderItems items ++ [0x5d]
  | .obj fields => 0x7b :: renderFields fields ++ [0x7d]

def renderItems : List Json → List UInt8
  | [] => []
  | [item] => render item
  | item :: items => render item ++ 0x2c :: renderItems items

def renderFields : List (String × Json) → List UInt8
  | [] => []
  | [(key, value)] => renderText key ++ 0x3a :: render value
  | (key, value) :: fields => renderText key ++ 0x3a :: render value ++ 0x2c :: renderFields fields

end

end UsageBilling.Json
