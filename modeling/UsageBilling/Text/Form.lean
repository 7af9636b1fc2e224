import UsageBilling.Text.Percent
import UsageBilling.Text.Utf8
/-!
Forms: pairs of a name and a value, written with an equals sign within a pair and ampersands between
pairs. In names and values a space is written as a plus sign, and other characters than letters,
digits and `*-._` are percent encoded.
-/
namespace UsageBilling.Text.Form

def keeps (c : Char) : Bool := c.isAlphanum || c == '*' || c == '-' || c == '.' || c == '_'

def encodeText (text : List Char) : List Char :=
  text.flatMap fun c => if c = ' ' then ['+'] else percentEncode keeps [c]

def encodePair (pair : String × String) : List Char :=
  encodeText pair.1.toList ++ '=' :: encodeText pair.2.toList

def encode (pairs : List (String × String)) : List Char := ['&'].intercalate (pairs.map encodePair)

def decodeText (octets : List UInt8) : List UInt8 :=
  percentDecode (octets.map fun octet => if octet = 0x2b then 0x20 else octet)

/-- Cuts a pair at its first equals sign; without one the value is empty. -/
def decodePair (octets : List UInt8) : List UInt8 × List UInt8 :=
  (decodeText (octets.takeWhile (· ≠ 0x3d)), decodeText ((octets.dropWhile (· ≠ 0x3d)).drop 1))

/-- Reads a form; empty pieces between ampersands are passed over. -/
def decode (octets : List UInt8) : List (List UInt8 × List UInt8) :=
  ((octets.splitOn 0x26).filter (· ≠ [])).map decodePair

end UsageBilling.Text.Form
