import MessageTemplate.Data.Text

/-!
# Writing documents

Model of `dumps` of the `json` library, with compact separators and without escapes for characters
beyond U+007F.

* `Data.json` — the compact document of a value: members in order, quotes, backslashes and
  control characters escaped, every other character as it is.
-/

set_option autoImplicit false

namespace MessageTemplate

/-- A character inside the quotes of a document. -/
def jsonChar (c : Char) : List Char :=
  if c == '"' || c == '\\' then ['\\', c]
  else if c == '\n' then ['\\', 'n']
  else if c.toNat < 0x20 || c.toNat == 0x7f then '\\' :: 'u' :: hexPadded 4 c.toNat
  else [c]

/-- Text as a document. -/
def jsonText (s : String) : String :=
  String.ofList ('"' :: s.toList.flatMap jsonChar ++ ['"'])

/-- A number as a document; the values that are no finite number have names of their own. -/
def jsonNumber : Binary64 → String
  | .infinite false => "Infinity"
  | .infinite true => "-Infinity"
  | .undefined => "NaN"
  | x => x.text

namespace Data

mutual

/-- The document of a value. -/
def json : Data → String
  | .null => "null"
  | .bool true => "true"
  | .bool false => "false"
  | .int n => toString n
  | .float x => jsonNumber x
  | .str s => jsonText s
  | .list items => "[" ++ ",".intercalate (jsonItems items) ++ "]"
  | .object ms => "\x7b" ++ ",".intercalate (jsonMembers ms) ++ "\x7d"

/-- The documents of the entries of a list. -/
def jsonItems : List Data → List String
  | [] => []
  | d :: rest => d.json :: jsonItems rest

/-- The members of an object, each with its name. -/
def jsonMembers : List (String × Data) → List String
  | [] => []
  | (name, d) :: rest => (jsonText name ++ ":" ++ d.json) :: jsonMembers rest

end

end Data

end MessageTemplate
