import UsageBilling.Digest.Hmac
import UsageBilling.Text.Blank
import UsageBilling.Text.Decimal
import UsageBilling.Text.Hex
import UsageBilling.Text.Utf8
/-!
Timestamped signatures. A header is a list of `key=value` pieces divided by commas: `t` is the unix
time of signing, and each `v1` is a candidate signature, which is the HMAC-SHA256 of the time, a
point and the payload, in hexadecimal digits.
-/
namespace UsageBilling.Signature

structure Header where
  timestamp : Int
  candidates : List String
  deriving DecidableEq, Repr

inductive Refusal where
  | missing (key : String)
  | badTimestamp (raw : String)
  | stale (skew : Nat)
  | mismatch
  deriving DecidableEq, Repr

namespace Refusal

def message : Refusal → String
  | missing key => "signature header is missing the " ++ key ++ " component"
  | badTimestamp raw => "signature timestamp is not a unix timestamp: " ++ raw
  | stale skew => "signature timestamp is outside the tolerance window (" ++ toString skew ++ "s skew)"
  | mismatch => "signature mismatch"

def isMalformed : Refusal → Bool
  | missing _ | badTimestamp _ => true
  | stale _ | mismatch => false

end Refusal

def pieces (text : List Char) : List (List Char) := text.splitOn ','

def keyValue? (piece : List Char) : Option (List Char × List Char) :=
  match piece.dropWhile (· ≠ '=') with
  | '=' :: value => some (piece.takeWhile (· ≠ '='), value)
  | _ => none

def keyValues (header : List Char) : List (List Char × List Char) :=
  (pieces header).filterMap fun piece => keyValue? (Text.trim piece)

def valuesOf (key : List Char) (header : List Char) : List (List Char) :=
  ((keyValues header).filter fun entry => entry.1 = key).map Prod.snd

/-- The last `t` counts, and empty candidates do not. -/
def parseHeader (header : String) : Except Refusal Header :=
  let raw := ((valuesOf ['t'] header.toList).getLast?.getD [])
  let candidates := (valuesOf ['v', '1'] header.toList).filter (· ≠ [])
  if raw.isEmpty then .error (.missing "t")
  else if candidates.isEmpty then .error (.missing "v1")
  else match Text.readSigned? raw with
    | none => .error (.badTimestamp (String.ofList raw))
    | some timestamp => .ok ⟨timestamp, candidates.map String.ofList⟩

def signedOctets (timestamp : Int) (payload : List UInt8) : List UInt8 :=
  Text.bytes (toString timestamp) ++ Text.bytes "." ++ payload

def generate (secret : String) (timestamp : Int) (payload : List UInt8) : String :=
  String.ofList (Text.hex (Digest.hmacSha256 (Text.bytes secret) (signedOctets timestamp payload)))

/-- Accepts a header whose time is at most `tolerance` seconds from `now`, before or after, and of
which one candidate is the signature of the payload. -/
def verify (secret header : String) (payload : List UInt8) (now tolerance : Int) :
    Except Refusal Header := do
  let parsed ← parseHeader header
  let skew := (now - parsed.timestamp).natAbs
  if skew > tolerance.natAbs then throw (.stale skew)
  if parsed.candidates.contains (generate secret parsed.timestamp payload) then return parsed
  throw .mismatch

end UsageBilling.Signature
