import MessageTemplate.Data
import MessageTemplate.Binary64.Text
import MessageTemplate.Text.Printable

/-!
# The text of a dynamic value

Model of `str` and `repr` on the values of a document (`Data.text`, `Data.quoted`).

* `Data.text` — the text of a value inside a message: text as it is, everything else as
  `Data.quoted` writes it;
* `Data.quoted` — the text of a value inside a list or an object, where text is quoted;
* `quote` — quoted text: single quotes, unless the text holds one and no double quote.
-/

set_option autoImplicit false

namespace MessageTemplate

/-- Hexadecimal digits of a number, filled up with zeros to a width. -/
def hexPadded (width : Nat) (n : Nat) : List Char :=
  let ds := Nat.toDigits 16 n
  List.replicate (width - ds.length) '0' ++ ds

/-- A character inside quotes of the given kind. -/
def quoteChar (mark : Char) (c : Char) : List Char :=
  if c == mark || c == '\\' then ['\\', c]
  else if c == '\n' then ['\\', 'n']
  else if c == '\r' then ['\\', 'r']
  else if c == '\t' then ['\\', 't']
  else if Text.isPrintable c then [c]
  else if c.toNat < 0x100 then '\\' :: 'x' :: hexPadded 2 c.toNat
  else if c.toNat < 0x10000 then '\\' :: 'u' :: hexPadded 4 c.toNat
  else '\\' :: 'U' :: hexPadded 8 c.toNat

/-- Quoted text. -/
def quote (s : String) : String :=
  let cs := s.toList
  let mark := if cs.contains '\'' && !cs.contains '"' then '"' else '\''
  String.ofList ([mark] ++ cs.flatMap (quoteChar mark) ++ [mark])

namespace Data

mutual

/-- The text of a value inside a list or an object. -/
def quoted : Data → String
  | .null => "None"
  | .bool true => "True"
  | .bool false => "False"
  | .int n => toString n
  | .float x => x.text
  | .str s => quote s
  | .list items => "[" ++ ", ".intercalate (quotedItems items) ++ "]"
  | .object ms => "\x7b" ++ ", ".intercalate (quotedMembers ms) ++ "\x7d"

/-- The texts of the entries of a list. -/
def quotedItems : List Data → List String
  | [] => []
  | d :: rest => d.quoted :: quotedItems rest

/-- The texts of the members of an object. -/
def quotedMembers : List (String × Data) → List String
  | [] => []
  | (name, d) :: rest => (quote name ++ ": " ++ d.quoted) :: quotedMembers rest

end

/-- The text of a value inside a message. -/
def text : Data → String
  | .str s => s
  | d => d.quoted

end Data

end MessageTemplate
