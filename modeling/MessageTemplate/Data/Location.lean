import MessageTemplate.Data
import MessageTemplate.Text.MemberName

/-!
# Locations in dynamic values

Model of `_field_name` and `_key_for` of `builder.validator` (`Location.fieldName`,
`Members.resolve?`).

* `Location` — the way from a value to one of its parts: member names and list positions;
* `Location.fieldName` — the dotted name of a location, as reports show it;
* `Data.at?`, `Data.erase?` — the part at a location, and the value without that part.

A member name that an object does not have stands for the same name in lower case with
underscores, if the object has that one.
-/

set_option autoImplicit false

namespace MessageTemplate

/-- One step of a location. -/
inductive Key where
  | name (s : String)
  | index (i : Int)
  deriving DecidableEq, Repr, Inhabited

/-- The way from a value to one of its parts. -/
abbrev Location := List Key

namespace Key

/-- A step as a member name. -/
def text : Key → String
  | .name s => s
  | .index i => toString i

/-- A step as a value. -/
def toData : Key → Data
  | .name s => .str s
  | .index i => .int i

end Key

namespace Location

/-- The name of a member as reports show it: without underscores. -/
def reportedName (s : String) : String :=
  if s.toList.contains '_' then String.ofList (Text.camel s.toList) else s

/-- The dotted name so far, continued by one step. -/
def extendName (field : String) : Key → String
  | .index i => field ++ "[" ++ toString i ++ "]"
  | .name s => if field.isEmpty then reportedName s else field ++ "." ++ reportedName s

/-- The name that stands for a whole template. -/
def wholeName : String := "template"

/-- The dotted name of a location: members after points, positions in brackets. -/
def fieldName (loc : Location) : String :=
  let field := loc.foldl extendName ""
  if field.isEmpty then wholeName else field

end Location

namespace Members

/-- The member that a step names: the name itself, or else its spelling with underscores. -/
def resolve? (ms : Members) (k : Key) : Option String :=
  let snake := String.ofList (Text.snake k.text.toList)
  match k with
  | .name s => if ms.has s then some s else if ms.has snake then some snake else none
  | .index _ => if ms.has snake then some snake else none

end Members

namespace Data

/-- The position that a step names in a list. -/
def position? (items : List Data) : Key → Option Nat
  | .index i => if 0 ≤ i && i < items.length then some i.toNat else none
  | .name _ => none

/-- The part at a location. -/
def at? (d : Data) : Location → Option Data
  | [] => some d
  | k :: rest =>
    match d with
    | .object ms =>
      (Members.resolve? ms k).bind fun name => (ms.lookup name).bind fun part => part.at? rest
    | .list items => (position? items k).bind fun i => items[i]?.bind fun part => part.at? rest
    | _ => none

/-- The value without the part at a location; the whole value cannot be taken away. -/
def erase? (d : Data) : Location → Option Data
  | [] => none
  | [k] =>
    match d with
    | .object ms => (Members.resolve? ms k).map fun name => .object (Members.erase ms name)
    | .list items => (position? items k).map fun i => .list (items.eraseIdx i)
    | _ => none
  | k :: rest =>
    match d with
    | .object ms =>
      (Members.resolve? ms k).bind fun name =>
        (ms.lookup name).bind fun part =>
          (part.erase? rest).map fun part => .object (Members.set ms name part)
    | .list items =>
      (position? items k).bind fun i =>
        items[i]?.bind fun part =>
          (part.erase? rest).map fun part => .list (items.set i part)
    | _ => none

end Data

end MessageTemplate
