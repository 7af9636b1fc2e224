import UsageBilling.Text.Percent
/-!
Addresses of the schemes `http` and `https`. Reading one normalises its path: dot segments are
resolved, a backslash counts as a slash, and characters that may not stand there are percent encoded.
The host is only required to be there.
-/
namespace UsageBilling

structure Url where
  scheme : String
  authority : String
  /-- The segments of the path, encoded. -/
  path : List String
  query : Option String
  deriving DecidableEq, Repr

namespace Url

/-- Leaves out control characters and spaces at both ends, and tabs and line ends everywhere. -/
def cleaned (text : List Char) : List Char :=
  let isEdge (c : Char) : Bool := c.toNat ≤ 0x20
  let inner := ((text.dropWhile isEdge).reverse.dropWhile isEdge).reverse
  inner.filter fun c => !(c == '\t' || c == '\n' || c == '\r')

def isVisibleAscii (c : Char) : Bool := 0x20 < c.toNat && c.toNat < 0x7f

def keepsInPath (c : Char) : Bool :=
  isVisibleAscii c && c ∉ ['"', '#', '<', '>', '?', '\x60', '\x7b', '\x7d']

def keepsInQuery (c : Char) : Bool := isVisibleAscii c && c ∉ ['"', '#', '<', '>', '\x27']

def isSlash (c : Char) : Bool := c == '/' || c == '\\'

def withPoints : List Char → List Char
  | '%' :: '2' :: 'e' :: rest => '.' :: withPoints rest
  | '%' :: '2' :: 'E' :: rest => '.' :: withPoints rest
  | c :: rest => c :: withPoints rest
  | [] => []

/-- Resolves the pieces of a path between slashes. A dot segment leaves an empty segment behind where
it stands last. -/
def resolve : (pieces : List (List Char)) → (done : List String) → List String
  | [], done => done
  | piece :: rest, done =>
    let atEnd := if rest.isEmpty then [""] else []
    match withPoints piece with
    | ['.', '.'] => resolve rest (done.dropLast ++ atEnd)
    | ['.'] => resolve rest (done ++ atEnd)
    | _ => resolve rest (done ++ [String.ofList (Text.percentEncode keepsInPath piece)])

def segments (path : List Char) : List String :=
  resolve ((match path with
    | c :: rest => if isSlash c then rest else path
    | [] => []).splitOnP isSlash) []

def scheme? (text : List Char) : Option (String × List Char) :=
  match text.dropWhile (· ≠ ':') with
  | ':' :: rest =>
    let scheme := String.ofList ((text.takeWhile (· ≠ ':')).map Char.toLower)
    if scheme = "http" ∨ scheme = "https" then some (scheme, rest) else none
  | _ => none

def host (authority : List Char) : List Char :=
  let afterUser := (authority.reverse.takeWhile (· ≠ '@')).reverse
  if afterUser.head? = some '[' then afterUser else afterUser.takeWhile (· ≠ ':')

def parse? (text : String) : Option Url := do
  let (scheme, rest) ← scheme? (cleaned text.toList)
  let rest := rest.dropWhile isSlash
  let ends (c : Char) : Bool := isSlash c || c == '?' || c == '#'
  let authority := rest.takeWhile (!ends ·)
  if (host authority).isEmpty then none
  let target := (rest.dropWhile (!ends ·)).takeWhile (· ≠ '#')
  let query := match target.dropWhile (· ≠ '?') with
    | '?' :: query => some (String.ofList (Text.percentEncode keepsInQuery query))
    | _ => none
  some ⟨scheme, String.ofList authority, segments (target.takeWhile (· ≠ '?')), query⟩

def pathText (url : Url) : String := String.join (url.path.map ("/" ++ ·))

end Url

end UsageBilling
