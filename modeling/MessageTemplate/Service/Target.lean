import MessageTemplate.Data.Text
import MessageTemplate.Failure
import MessageTemplate.Json.Reader

/-!
# Targets of requests

Model of how a request's address is split, resolved and unescaped before it comes to the routes of
`main` and `api.templates`.

* `Address` — the parts of an address, whose spelling is still escaped;
* `RequestTarget` — the path and the parameters that a request is about;
* `RequestTarget.ofText` — reads a target: an address of the service or a part of one. Steps to
  the same or to the upper folder are carried out, and a fragment is ignored.

Parameters stand between `&`, each a name and a value around the first `=`.
-/

set_option autoImplicit false

namespace MessageTemplate

/-! ## Addresses -/

/-- The parts of an address. A missing scheme or host is empty. -/
structure Address where
  scheme : List Char
  host : List Char
  path : List Char
  query : List Char
  deriving DecidableEq, Repr, Inhabited

namespace Address

/-- The greatest length of an address. -/
def lengthLimit : Nat := 65536

/-- A control character, which no address holds. -/
def isControl (c : Char) : Bool := c.toNat < 0x20 || c.toNat == 0x7f

/-- A letter of the English alphabet. -/
def isLetter (c : Char) : Bool := ('a' ≤ c && c ≤ 'z') || ('A' ≤ c && c ≤ 'Z')

/-- A character of a scheme. -/
def isSchemeChar (c : Char) : Bool :=
  isLetter c || ('0' ≤ c && c ≤ '9') || c == '+' || c == '.' || c == '-'

/-- The scheme in front of a colon, which begins with a letter or is empty, and what follows. -/
def splitScheme (cs : List Char) : List Char × List Char :=
  let scheme := cs.takeWhile isSchemeChar
  match cs.dropWhile isSchemeChar with
  | ':' :: rest => if scheme.head?.all isLetter then (scheme, rest) else ([], cs)
  | _ => ([], cs)

/-- The host behind two slashes, and what follows. -/
def splitHost (cs : List Char) : List Char × List Char :=
  let inHost := fun c : Char => !(c == '/' || c == '?' || c == '#')
  match cs with
  | '/' :: '/' :: rest => (rest.takeWhile inHost, rest.dropWhile inHost)
  | _ => ([], cs)

/-- The parts of an address. -/
def split (cs : List Char) : Address :=
  let (scheme, rest) := splitScheme cs
  let (host, rest) := splitHost rest
  let body := rest.takeWhile (· != '#')
  { scheme := scheme, host := host, path := body.takeWhile (· != '?'),
    query := (body.dropWhile (· != '?')).drop 1 }

/-- Whether the address has neither scheme nor host. -/
def isPathOnly (a : Address) : Bool := a.scheme.isEmpty && a.host.isEmpty

/-- Whether the address is complete, so that it is not seen from the service. -/
def isAbsolute (a : Address) : Bool := !a.scheme.isEmpty && !a.host.isEmpty

/-- Why a text is no address. -/
def complaint? (cs : List Char) : Option String :=
  if lengthLimit < cs.length then some "URL too long"
  else
    match cs.find? isControl with
    | some c =>
      some ("Invalid non-printable ASCII character in URL, " ++ quote (String.singleton c) ++
        " at position " ++ toString (cs.takeWhile fun d => !isControl d).length ++ ".")
    | none =>
      let a := split cs
      match a.isPathOnly, a.path with
      | true, '/' :: '/' :: _ => some "Relative URLs cannot have a path starting with '//'"
      | true, ':' :: _ => some "Relative URLs cannot have a path starting with ':'"
      | _, _ => none

end Address

/-- The parts of a list between the elements that are the mark. -/
def splitAtMark (mark : Char) : List Char → List (List Char)
  | [] => [[]]
  | c :: rest =>
    match splitAtMark mark rest with
    | [] => [[c]]
    | part :: parts => if c == mark then [] :: part :: parts else (c :: part) :: parts

/-! ## Targets -/

/-- The path and the parameters that a request is about. -/
structure RequestTarget where
  path : String
  parameters : List (String × String) := []
  deriving DecidableEq, Repr, Inhabited

namespace RequestTarget

/-- The bytes of a text; a percent sign with two hexadecimal digits stands for one byte. -/
def bytes : List Char → List UInt8
  | '%' :: a :: b :: rest =>
    match Json.hexValue? a, Json.hexValue? b with
    | some high, some low => UInt8.ofNat (16 * high + low) :: bytes rest
    | _, _ => 37 :: bytes (a :: b :: rest)
  | c :: rest => (String.singleton c).toUTF8.toList ++ bytes rest
  | [] => []

/-- What stands for bytes that encode no text. -/
def unreadable : String := "\ufffd"

/-- A text without escapes. -/
def decode (cs : List Char) : String :=
  (String.fromUTF8? ⟨(bytes cs).toArray⟩).getD unreadable

/-- The folders of a path after one more step, the last first: a point stays where it is, two
points go up, but not out of the first folder. -/
def follow (folders : List (List Char)) (step : List Char) : List (List Char) :=
  if step = ['.'] then folders
  else if step = ['.', '.'] then
    if folders = [[]] then folders else folders.tail
  else step :: folders

/-- A path whose steps to the same or to the upper folder are carried out. -/
def resolve (path : List Char) : List Char :=
  ['/'].intercalate ((splitAtMark '/' path).foldl follow []).reverse

/-- The path of an address; one that is not complete is seen from the service. -/
def pathOf (a : Address) : List Char :=
  let path := if a.isPathOnly then a.path else resolve a.path
  if a.isAbsolute then path else resolve ('/' :: path.dropWhile (· == '/'))

/-- A parameter without escapes; a plus sign stands for a blank. -/
def parameter (cs : List Char) : String × String :=
  let blanks (cs : List Char) : List Char := cs.map fun c => if c == '+' then ' ' else c
  (decode (blanks (cs.takeWhile (· != '='))), decode (blanks ((cs.dropWhile (· != '=')).drop 1)))

/-- The target of an address. -/
def ofAddress (a : Address) : RequestTarget :=
  let path := pathOf a
  { path := if path.isEmpty then "/" else decode path
    parameters := ((splitAtMark '&' a.query).filter fun part => !part.isEmpty).map parameter }

/-- Reads a target. -/
def ofText (s : String) : Except Failure RequestTarget :=
  match Address.complaint? s.toList with
  | some message => .error (.invalidAddress message)
  | none => .ok (ofAddress (Address.split s.toList))

/-- The value of a parameter; of several values the last one counts. -/
def parameter? (t : RequestTarget) (name : String) : Option String :=
  t.parameters.reverse.lookup name

end RequestTarget

end MessageTemplate
