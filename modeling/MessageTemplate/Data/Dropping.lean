import MessageTemplate.Data.Location

/-!
# Dropping parts of dynamic values

Model of `_drop` and `_strip_dropped` of `builder.validator` (`Marked.drop`, `Marked.strip`); the
mark `_DROPPED` in a list is an entry `none`.

* `Marked` — a value while parts of it are taken away: an entry of a list leaves its place
  behind, so that the entries after it keep their positions;
* `Marked.ofData` — a value of which nothing is taken away yet;
* `Marked.drop` — takes away the part at a location;
* `Marked.strip` — what is left in the end.
-/

set_option autoImplicit false

namespace MessageTemplate

/-- Whether a value is neither a list nor an object. -/
def Data.isLeaf : Data → Bool
  | .list _ | .object _ => false
  | _ => true

/-- A value while parts of it are taken away. -/
inductive Marked where
  | leaf (d : Data) (h : d.isLeaf = true)
  | list (entries : List (Option Marked))
  | object (members : List (String × Marked))

namespace Key

/-- The spelling of a step in lower case with underscores. -/
def snake (k : Key) : String := String.ofList (Text.snake k.text.toList)

/-- The member names that a step stands for, the first that an object has; a position is no
member name but by its spelling. -/
def spellings (k : Key) : List String :=
  match k with
  | .name s => [s, k.snake]
  | .index _ => [k.snake]

end Key

namespace Marked

mutual

/-- A value of which nothing is taken away. -/
def ofData : Data → Marked
  | .null => .leaf .null rfl
  | .bool b => .leaf (.bool b) rfl
  | .int n => .leaf (.int n) rfl
  | .float x => .leaf (.float x) rfl
  | .str s => .leaf (.str s) rfl
  | .list items => .list (ofItems items)
  | .object ms => .object (ofMembers ms)

/-- Entries of which nothing is taken away. -/
def ofItems : List Data → List (Option Marked)
  | [] => []
  | d :: rest => some (ofData d) :: ofItems rest

/-- Members of which nothing is taken away. -/
def ofMembers : List (String × Data) → List (String × Marked)
  | [] => []
  | (name, d) :: rest => (name, ofData d) :: ofMembers rest

end

mutual

/-- What is left of a value. -/
def strip : Marked → Data
  | .leaf d _ => d
  | .list entries => .list (stripEntries entries)
  | .object ms => .object (stripMembers ms)

/-- The entries that are left in a list. -/
def stripEntries : List (Option Marked) → List Data
  | [] => []
  | none :: rest => stripEntries rest
  | some d :: rest => d.strip :: stripEntries rest

/-- What is left of the members of an object. -/
def stripMembers : List (String × Marked) → List (String × Data)
  | [] => []
  | (name, d) :: rest => (name, d.strip) :: stripMembers rest

end

/-- Where the member stands that a step names. -/
def memberAt? (ms : List (String × Marked)) (k : Key) : Option (Fin ms.length) :=
  k.spellings.findSome? fun name => ms.findFinIdx? fun m => m.1 == name

/-- The position that a step names in a list; the places left behind count. -/
def entryAt? (entries : List (Option Marked)) : Key → Option (Fin entries.length)
  | .index i =>
    if h : 0 ≤ i ∧ i.toNat < entries.length then some ⟨i.toNat, h.2⟩ else none
  | .name _ => none

/-- Takes away the part that one step leads to: a member goes, an entry leaves its place. -/
def dropPart (d : Marked) (k : Key) : Marked × Bool :=
  match d with
  | .leaf .. => (d, false)
  | .list entries =>
    match entryAt? entries k with
    | some i => (.list (entries.set i none), true)
    | none => (d, false)
  | .object ms =>
    match memberAt? ms k with
    | some i => (.object (ms.eraseIdx i), true)
    | none => (d, false)

/-- Takes away the part at a location, and says whether there was one. -/
def drop (d : Marked) : Location → Marked × Bool
  | [] => (d, false)
  | [k] => d.dropPart k
  | k :: next :: rest =>
    match d with
    | .leaf .. => (d, false)
    | .list entries =>
      match entryAt? entries k with
      | some i =>
        match entries.get i with
        | some part =>
          let (part, dropped) := part.drop (next :: rest)
          (.list (entries.set i (some part)), dropped)
        | none => (d, false)
      | none => (d, false)
    | .object ms =>
      match memberAt? ms k with
      | some i =>
        let (name, part) := ms.get i
        let (part, dropped) := part.drop (next :: rest)
        (.object (ms.set i (name, part)), dropped)
      | none => (d, false)

end Marked

end MessageTemplate
