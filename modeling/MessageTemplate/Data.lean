import MessageTemplate.Binary64

/-!
# Dynamic values

* `Data` — the values of documents, of stored templates and of events: objects keep their
  members in the order of insertion and hold each name once;
* `Data.get?`, `Members.set`, `Members.erase` — members by name;
* `Data.isEmptyish`, `given?` — the values and the texts that stand for "nothing given";
* `Data.nesting`, `Data.allFinite` — how deep a value is nested, and whether its numbers are finite.
-/

set_option autoImplicit false

namespace MessageTemplate

/-- An optional text that is there and not empty. -/
def given? (s : Option String) : Option String :=
  s.filter fun s => !s.isEmpty

/-- A dynamic value. -/
inductive Data where
  | null
  | bool (b : Bool)
  | int (n : Int)
  | float (x : Binary64)
  | str (s : String)
  | list (items : List Data)
  | object (members : List (String × Data))
  deriving Repr, Inhabited

/-- The members of an object, in order of insertion. -/
abbrev Members := List (String × Data)

namespace Members

/-- The value of a member. -/
def get? (ms : Members) (name : String) : Option Data :=
  ms.lookup name

/-- Whether a member has the name. -/
def has (ms : Members) (name : String) : Bool :=
  ms.any fun m => m.1 == name

/-- Replaces the value of a member where it stands, or adds a member at the end. -/
def set (ms : Members) (name : String) (value : Data) : Members :=
  if ms.has name then ms.map fun m => if m.1 == name then (name, value) else m
  else ms ++ [(name, value)]

/-- The members without the one of the name. -/
def erase (ms : Members) (name : String) : Members :=
  ms.filter fun m => !(m.1 == name)

/-- The members whose value is not null. -/
def withoutNulls (ms : Members) : Members :=
  ms.filter fun m => match m.2 with
    | .null => false
    | _ => true

end Members

namespace Data

/-- The absent value. -/
def isNull : Data → Bool
  | .null => true
  | _ => false

/-- The text of a value that is text. -/
def str? : Data → Option String
  | .str s => some s
  | _ => none

/-- The member of an object. -/
def get? (d : Data) (name : String) : Option Data :=
  match d with
  | .object ms => Members.get? ms name
  | _ => none

/-- Null, false, zero and everything empty: the values that count as not given. -/
def isEmptyish : Data → Bool
  | .null => true
  | .bool b => !b
  | .int n => n == 0
  | .float x => x.isZero
  | .str s => s.isEmpty
  | .list items => items.isEmpty
  | .object ms => ms.isEmpty

/-- Text, or null for no text. -/
def ofText? (s : Option String) : Data :=
  match s with
  | some s => .str s
  | none => .null

/-- A natural number. -/
def ofNat (n : Nat) : Data := .int n

mutual

/-- How many lists and objects lie inside each other in a value. -/
def nesting : Data → Nat
  | .list items => 1 + itemsNesting items
  | .object ms => 1 + membersNesting ms
  | _ => 0

/-- The greatest nesting of the entries of a list. -/
def itemsNesting : List Data → Nat
  | [] => 0
  | d :: rest => max d.nesting (itemsNesting rest)

/-- The greatest nesting of the members of an object. -/
def membersNesting : List (String × Data) → Nat
  | [] => 0
  | (_, d) :: rest => max d.nesting (membersNesting rest)

end

mutual

/-- Whether no number in a value is infinite or undefined. -/
def allFinite : Data → Bool
  | .float x => x.isFinite
  | .list items => itemsFinite items
  | .object ms => membersFinite ms
  | _ => true

/-- Whether all numbers in the entries of a list are finite. -/
def itemsFinite : List Data → Bool
  | [] => true
  | d :: rest => d.allFinite && itemsFinite rest

/-- Whether all numbers in the members of an object are finite. -/
def membersFinite : List (String × Data) → Bool
  | [] => true
  | (_, d) :: rest => d.allFinite && membersFinite rest

end

end Data

end MessageTemplate
