import MessageTemplate.Failure
import MessageTemplate.Data.Text

/-!
# Variables of a text

Model of `find_tokens`, `scan`, `next_ordinal` and `first_gap` of `builder.variables` (`tokens`,
`ordinals`, `nextOrdinal`, `firstGap`; `pieces` is what `VARIABLE_PATTERN` finds and what it
passes over) and of `placeholder` and `substitute` of `builder.formatting`.

A variable is written as its ordinal in double braces, in decimal digits of any script and
without blanks.

* `Variable.pieces` — a text cut into variables and single characters, left to right;
* `Variable.tokens`, `Variable.ordinals` — the variables as written, and the numbers they denote
  in ascending order without repetition;
* `Variable.firstGap` — the first number that a list of ordinals leaves out;
* `Variable.substitute` — the text with the values of its variables, which go by position.
-/

set_option autoImplicit false

namespace MessageTemplate.Variable

/-! ## Tokens -/

/-- A variable with its digits, or a character that belongs to none. -/
inductive Piece where
  | char (c : Char)
  | variable (digits : List Char)
  deriving DecidableEq, Repr

/-- The token of a variable. -/
def token (digits : List Char) : List Char :=
  ['{', '{'] ++ digits ++ ['}', '}']

/-- The digits of the variable at the front of a text. -/
def digitsAtFront? : List Char → Option (List Char)
  | '{' :: '{' :: rest =>
    let digits := rest.takeWhile Text.isDecimalDigit
    match digits, rest.drop digits.length with
    | [], _ => none
    | _, '}' :: '}' :: _ => some digits
    | _, _ => none
  | _ => none

/-- The pieces of a text after its first `skip` characters, which belong to the piece before. -/
def piecesFrom : Nat → List Char → List Piece
  | _, [] => []
  | skip + 1, _ :: rest => piecesFrom skip rest
  | 0, c :: rest =>
    match digitsAtFront? (c :: rest) with
    | some digits => .variable digits :: piecesFrom (digits.length + 3) rest
    | none => .char c :: piecesFrom 0 rest

/-- A text cut into variables and single characters, left to right. -/
def pieces (text : List Char) : List Piece :=
  piecesFrom 0 text

/-- The digits of a piece that is a variable. -/
def Piece.digits? : Piece → Option (List Char)
  | .variable digits => some digits
  | .char _ => none

/-- The digits of the variables of a text, left to right. -/
def digitRuns (text : String) : List (List Char) :=
  (pieces text.toList).filterMap Piece.digits?

/-- The variables of a text as they are written, left to right, repetitions included. -/
def tokens (text : String) : List String :=
  (digitRuns text).map fun digits => String.ofList (token digits)

/-- Whether a text holds a variable. -/
def occurs (text : String) : Bool :=
  !(digitRuns text).isEmpty

theorem occurs_iff {text : String} : occurs text = true ↔ tokens text ≠ [] := by
  simp [occurs, tokens]

theorem occurs_eq_false_iff {text : String} : occurs text = false ↔ tokens text = [] := by
  simp [occurs, tokens]

/-! ## Ordinals -/

/-- Puts a number into an ascending list that holds each number once. -/
def insertOrdinal (n : Nat) : List Nat → List Nat
  | [] => [n]
  | m :: rest =>
    if n < m then n :: m :: rest
    else if n = m then m :: rest
    else m :: insertOrdinal n rest

/-- The numbers that the variables of a text denote, in ascending order, each once. -/
def ordinals (text : String) : Except Text.NumeralError (List Nat) :=
  match (digitRuns text).mapM Text.readNumeral with
  | .ok numbers => .ok (numbers.foldl (fun sorted n => insertOrdinal n sorted) [])
  | .error e => .error e

/-- The ordinal for the next variable: one more than the greatest in use. -/
def nextOrdinal (text : String) : Except Text.NumeralError Nat :=
  match ordinals text with
  | .ok ns => .ok (match ns.getLast? with | some n => n + 1 | none => 1)
  | .error e => .error e

/-- The first of the numbers `expected`, `expected + 1`, … that the list does not have in its
place. -/
def gapFrom (expected : Nat) : List Int → Option Nat
  | [] => none
  | n :: rest => if n = expected then gapFrom (expected + 1) rest else some expected

/-- The first number that ascending ordinals leave out, or nothing if they are 1, 2, …, k. -/
def firstGap (ns : List Int) : Option Nat :=
  gapFrom 1 ns

/-- The token of an ordinal in plain digits. -/
def plainToken (n : Nat) : String :=
  String.ofList (token (Nat.toDigits 10 n))

/-! ## Values -/

/-- What stands for the slot at a position, counted from zero, that has no value. -/
def placeholder (position : Nat) : String :=
  "[Variable " ++ toString (position + 1) ++ "]"

/-- The placeholder of any slot number, which must not be too long to be written. -/
def placeholderOf (position : Int) : Except Text.NumeralError String :=
  match Text.writeInteger (position + 1) with
  | .ok n => .ok ("[Variable " ++ n ++ "]")
  | .error e => .error e

/-- The placeholder of the slot number that a value is. -/
def placeholderOfData : Data → Except Failure String
  | .int n => Failure.ofNumeral (placeholderOf n)
  | .bool b => Failure.ofNumeral (placeholderOf (if b then 1 else 0))
  | _ => .error .wrongKind

/-- The text of the slot at a position: its value, or the placeholder for none or an empty
one. -/
def slotText (values : List String) (position : Nat) : String :=
  match values[position]? with
  | some v => if v.isEmpty then placeholder position else v
  | none => placeholder position

/-- The pieces with the values of the slots from the given position on. -/
def fillFrom (values : List String) : Nat → List Piece → List Char
  | _, [] => []
  | position, .char c :: rest => c :: fillFrom values position rest
  | position, .variable _ :: rest =>
    (slotText values position).toList ++ fillFrom values (position + 1) rest

/-- A text with the values of its variables: the first variable takes the first value whatever
its ordinal, the second the second, and so on. -/
def substitute (text : String) (values : List String) : String :=
  String.ofList (fillFrom values 0 (pieces text.toList))

/-- The values that a dynamic value offers: the entries of a list, the names of an object, the
characters of a text. An entry that counts as not given offers an empty value. -/
def valuesOf (d : Data) : Except Failure (List String) :=
  if d.isEmptyish then .ok []
  else
    match d with
    | .list items => .ok (items.map fun v => if v.isEmptyish then "" else v.text)
    | .object ms => .ok (ms.map (·.1))
    | .str s => .ok (s.toList.map String.singleton)
    | _ => .error .wrongKind

/-- The text of a value that must be text, and the empty text for one that counts as not given. -/
def textOf (d : Data) : Except Failure String :=
  if d.isEmptyish then .ok ""
  else
    match d with
    | .str s => .ok s
    | _ => .error .wrongKind

/-- Substitution in a dynamic text. -/
def substituteData (text values : Data) : Except Failure String :=
  if text.isEmptyish then .ok ""
  else
    match valuesOf values with
    | .error e => .error e
    | .ok vs =>
      match text with
      | .str s => .ok (substitute s vs)
      | _ => .error .wrongKind

end MessageTemplate.Variable
