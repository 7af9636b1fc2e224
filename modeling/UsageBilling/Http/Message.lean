import UsageBilling.Fault
import UsageBilling.Json.Printer
/-!
Requests and answers over HTTP.
-/
namespace UsageBilling.Http

structure Request where
  method : String
  /-- The path, and the query after a question mark. -/
  target : String
  headers : List (String × String) := []
  body : List UInt8 := []
  deriving DecidableEq, Repr

namespace Request

/-- The first value of a header. The case of its name does not matter. -/
def header? (request : Request) (name : String) : Option String :=
  (request.headers.find? fun entry => entry.1.toLower = name.toLower).map Prod.snd

def path (request : Request) : List Char :=
  request.target.toList.takeWhile fun c => c ≠ '?' && c ≠ '#'

def query (request : Request) : List Char :=
  ((request.target.toList.takeWhile (· ≠ '#')).dropWhile (· ≠ '?')).drop 1

end Request

/-- Whether text has only the characters from space to tilde, and tabs. -/
def isVisibleText (text : String) : Bool :=
  text.toList.all fun c => c == '\t' || (0x20 ≤ c.toNat && c.toNat < 0x7f)

inductive Content where
  | empty
  | json (value : Json)
  | text (value : String)
  deriving DecidableEq

def Content.type? : Content → Option String
  | empty => none
  | json _ => some "application/json"
  | text _ => some "text/plain; charset=utf-8"

structure Answer where
  status : Nat
  content : Content := .empty
  /-- The methods that the resource knows, where another one was used. -/
  allow : List String := []
  deriving DecidableEq

namespace Answer

def json (status : Nat) (value : Json) : Answer := { status, content := .json value }

def ofFault (fault : Fault) : Answer := json fault.status fault.body

end Answer

structure Response where
  status : Nat
  contentType : Option String
  body : Content
  allow : List String
  requestId : String
  deriving DecidableEq

end UsageBilling.Http
