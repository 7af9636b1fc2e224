import UsageBilling.Http.Message
import UsageBilling.Json.Record
import UsageBilling.Text.Form
/-!
Reading what a request carries: a JSON body, or a number in the query.
-/
namespace UsageBilling.Http

inductive Rejection where
  | badPath
  | badQuery
  | wrongType
  | tooLarge
  | malformed
  | mismatched
  deriving DecidableEq, Repr

namespace Rejection

def status : Rejection → Nat
  | badPath | badQuery | malformed => 400
  | wrongType => 415
  | tooLarge => 413
  | mismatched => 422

def message : Rejection → String
  | badPath => "Invalid URL: a part of the path cannot be read"
  | badQuery => "Failed to deserialize query string"
  | wrongType => "Expected a request with the content type application/json"
  | tooLarge => "Failed to buffer the request body: length limit exceeded"
  | malformed => "Failed to parse the request body as JSON"
  | mismatched => "Failed to deserialize the JSON body into the target type"

def toAnswer (rejection : Rejection) : Answer :=
  { status := rejection.status, content := .text rejection.message }

end Rejection

def bodyLimit : Nat := 2097152

def isTokenChar (c : Char) : Bool :=
  c.isAlphanum || ['!', '#', '$', '%', '&', '\x27', '*', '+', '-', '.', '^', '_', '\x60', '|', '~'].contains c

/-- What follows a quoted value; the opening quote has been passed. -/
def afterQuoted? : (first : Bool) → List Char → Option (List Char)
  | _, [] => none
  | first, '\x22' :: rest => if first then none else some rest
  | _, '\\' :: c :: rest => if isVisibleText (String.singleton c) then afterQuoted? false rest else none
  | _, c :: rest => if isVisibleText (String.singleton c) then afterQuoted? false rest else none

def afterParameter? (text : List Char) : Option (List Char) :=
  match text.dropWhile isTokenChar with
  | '=' :: '\x22' :: rest =>
    if text.head? = some '=' then none else (afterQuoted? true rest).map fun rest => rest.drop 1
  | '=' :: rest =>
    if text.head? = some '=' then none
    else match rest.dropWhile isTokenChar with
      | [] => some []
      | ';' :: after => if rest.head? = some ';' then none else some after
      | _ => none
  | _ => none

/-- Whether `text` is a list of parameters divided by semicolons, where spaces may stand before
each. -/
def areParameters : (fuel : Nat) → List Char → Bool
  | 0, _ => false
  | fuel + 1, text =>
    match text with
    | [] => true
    | ' ' :: rest | ';' :: rest => areParameters fuel rest
    | _ => match afterParameter? text with
      | some rest => areParameters fuel rest
      | none => false

/-- A subtype cut at its last plus sign, unless nothing stands before that. -/
def cutSubtype (subtype : List Char) : List Char × Option (List Char) :=
  let suffix := (subtype.reverse.takeWhile (· ≠ '+')).reverse
  let main := subtype.take (subtype.length - suffix.length - 1)
  if main.isEmpty then (subtype, none) else (main, some suffix)

def isJsonType (text : String) : Bool :=
  let chars := text.toList.map Char.toLower
  let rest := (chars.dropWhile (· ≠ '/')).drop 1
  let (main, suffix) := cutSubtype (rest.takeWhile isTokenChar)
  let after := rest.dropWhile isTokenChar
  let json := "json".toList
  chars.takeWhile (· ≠ '/') = "application".toList && (main = json || suffix = some json) &&
    (after.isEmpty ||
      (after.head? = some ';' || after.head? = some ' ') &&
        areParameters (after.length + 1) (after.drop 1))

def readBody (request : Request) : Except Rejection (List UInt8) :=
  if bodyLimit < request.body.length then .error .tooLarge else .ok request.body

def readJson {α : Type} (request : Request) (reader : Json.Reader α) : Except Rejection α := do
  let type := (request.header? "content-type").filter isVisibleText
  if !type.any isJsonType then throw .wrongType
  let body ← readBody request
  match reader.readLeading body with
  | .ok value => return value
  | .error .malformed => throw .malformed
  | .error .mismatched => throw .mismatched

/-- A number of 32 bits in the query, or `absent` without one. It must not be given twice. -/
def readNumber (request : Request) (name : String) (absent : Nat) : Except Rejection Nat :=
  let entries := Text.Form.decode (Text.bytes (String.ofList request.query))
  match (entries.filter fun entry => entry.1 = Text.bytes name).map Prod.snd with
  | [] => .ok absent
  | [value] =>
    match (Text.ofBytes? value).bind fun text => Text.readUnsigned? Text.greatestUnsigned32 text.toList with
    | some number => .ok number
    | none => .error .badQuery
  | _ => .error .badQuery

end UsageBilling.Http
