import MessageTemplate.Text.LetterCase

/-!
# Spellings of member names

Model of the alias generator `to_camel` and its companion `to_snake`, as `schemas.templates` and
`builder.validator` use them.

Members of a document are spelt `phoneNumber` or `phone_number`:

* `camel` — the spelling without underscores;
* `snake` — the spelling in lower case with an underscore at every seam.
-/

set_option autoImplicit false

namespace MessageTemplate.Text

/-- A capital letter of the Latin alphabet without marks. -/
def isCapital (c : Char) : Bool := 'A' ≤ c && c ≤ 'Z'

/-- A small letter of the Latin alphabet without marks. -/
def isSmall (c : Char) : Bool := 'a' ≤ c && c ≤ 'z'

/-- One of the digits 0 to 9. -/
def isDigit (c : Char) : Bool := '0' ≤ c && c ≤ '9'

/-- Removes each underscore between a letter or digit and a capital or digit. -/
def joinWords : List Char → List Char
  | [] => []
  | [c] => [c]
  | [c, d] => [c, d]
  | c :: d :: e :: rest =>
    if (isCapital c || isSmall c || isDigit c) && d == '_' && (isCapital e || isDigit e) then
      c :: joinWords (e :: rest)
    else
      c :: joinWords (d :: e :: rest)

/-- Lowers the first letter if it is a capital; underscores may stand before it. -/
def lowerInitial : List Char → List Char
  | [] => []
  | c :: rest =>
    if c == '_' then c :: lowerInitial rest
    else if isCapital c then c.toLower :: rest
    else c :: rest

/-- The spelling of a name with underscores as one run of words, the first in lower case. -/
def camel (name : List Char) : List Char :=
  lowerInitial (joinWords (titled name))

/-- Puts an underscore between neighbours that form a seam; the seam may look one further. -/
def breakAt (seam : Char → Char → Option Char → Bool) : List Char → List Char
  | [] => []
  | [c] => [c]
  | c :: d :: rest =>
    if seam c d rest.head? then c :: '_' :: breakAt seam (d :: rest)
    else c :: breakAt seam (d :: rest)

/-- The spelling of a name in lower case with an underscore at every seam: before the last
capital of a run that a small letter follows, between small letter and capital, digit and
capital, small letter and digit, and in place of each hyphen. -/
def snake (name : List Char) : List Char :=
  let words := breakAt (fun c d e => isCapital c && isCapital d && e.any isSmall) name
  let words := breakAt (fun c d _ => isSmall c && isCapital d) words
  let words := breakAt (fun c d _ => isDigit c && isCapital d) words
  let words := breakAt (fun c d _ => isSmall c && isDigit d) words
  lower (words.map fun c => if c == '-' then '_' else c)

end MessageTemplate.Text
