import MessageTemplate.Data
import MessageTemplate.Binary64.Text
import MessageTemplate.Text.Encoding
import MessageTemplate.Text.Numeral

/-!
# Reading documents

Model of `loads` of the `json` library, for documents and for what is sent.

* `Document` — what a document says, or the position at which the reader gave up;
* `Document.ofText`, `Document.ofBytes` — read a document, the latter one that was sent;
* `Json.value` — reads one value off the front of a text.

The reader is exact about where it gives up: `Json.Defect.malformed` holds how many characters
were left at the place that the reader blames, which is the beginning of a text without end, the
`u` of a broken escape, and otherwise the first character that fits nothing. A member that is
named twice keeps its first place and its last value. Lists and objects may be nested only so
deep. A text is made of characters: the reader fails at an escape that stands for half of a
surrogate pair and has no other half beside it, although the document is well-formed.
-/

set_option autoImplicit false

namespace MessageTemplate

namespace Json

/-- Why a document cannot be read. -/
inductive Defect where
  /-- This many characters were left at the place that is blamed. -/
  | malformed (left : Nat)
  /-- An integer has too many digits. -/
  | numeral (error : Text.NumeralError)
  /-- Lists and objects are nested too deeply. -/
  | tooDeep
  /-- An escape stands for half of a surrogate pair, which is no character. -/
  | halfPair
  deriving DecidableEq, Repr

/-- What is read off the front of a text, and what is left of it. -/
abbrev Parsed (α : Type) := Except Defect (α × List Char)

/-- Blames the first of the characters that are left. -/
def blame {α : Type} (left : List Char) : Except Defect α :=
  .error (.malformed left.length)

/-- A character between the tokens of a document. -/
def isSpace (c : Char) : Bool :=
  c == ' ' || c == '\t' || c == '\n' || c == '\r'

/-- The rest of a text after the white space at its front. -/
def skipSpace (cs : List Char) : List Char := cs.dropWhile isSpace

/-! ## Texts -/

/-- The value of a hexadecimal digit. -/
def hexValue? (c : Char) : Option Nat :=
  if '0' ≤ c && c ≤ '9' then some (c.toNat - '0'.toNat)
  else if 'a' ≤ c && c ≤ 'f' then some (c.toNat - 'a'.toNat + 10)
  else if 'A' ≤ c && c ≤ 'F' then some (c.toNat - 'A'.toNat + 10)
  else none

/-- The code unit of four hexadecimal digits. -/
def codeUnit? (a b c d : Char) : Option Nat := do
  let a ← hexValue? a
  let b ← hexValue? b
  let c ← hexValue? c
  let d ← hexValue? d
  return ((a * 16 + b) * 16 + c) * 16 + d

/-- The character that a backslash and this letter stand for. -/
def simpleEscape? : Char → Option Char
  | '"' => some '"'
  | '\\' => some '\\'
  | '/' => some '/'
  | 'b' => some '\x08'
  | 'f' => some '\x0c'
  | 'n' => some '\n'
  | 'r' => some '\r'
  | 't' => some '\t'
  | _ => none

/-- The character of an escape with the code unit, and how many characters stand for it. -/
def unitEscape (u : Nat) : Except Defect (Char × Nat) :=
  match Text.unitChar? u with
  | some c => .ok (c, 5)
  | none => .error .halfPair

/-- Reads what follows a backslash: the character, and how many characters stand for it. `start`
begins at the opening quote. -/
def escape (start rest : List Char) : Except Defect (Char × Nat) :=
  match rest with
  | [] => blame start
  | 'u' :: a :: b :: c :: d :: after =>
    match codeUnit? a b c d, after with
    | none, _ => blame rest
    | some _, [] => blame rest
    | some u, '\\' :: 'u' :: e :: f :: g :: h :: _ :: _ =>
      match (codeUnit? e f g h).bind (Text.pairChar? u) with
      | some p => .ok (p, 11)
      | none => unitEscape u
    | some u, _ => unitEscape u
  | 'u' :: _ => blame rest
  | e :: _ =>
    match simpleEscape? e with
    | some x => .ok (x, 1)
    | none => blame ('\\' :: rest)

/-- Reads the rest of a text up to its closing quote, after its first `skip` characters, which
belong to an escape. `start` begins at the opening quote, and `acc` holds the characters read so
far, last first. -/
def textFrom (start : List Char) : Nat → List Char → List Char → Parsed String
  | _, _, [] => blame start
  | skip + 1, acc, _ :: rest => textFrom start skip acc rest
  | 0, acc, c :: rest =>
    if c == '"' then .ok (String.ofList acc.reverse, rest)
    else if c == '\\' then
      match escape start rest with
      | .ok (x, size) => textFrom start size (x :: acc) rest
      | .error e => .error e
    else if c.toNat < 0x20 then blame (c :: rest)
    else textFrom start 0 (c :: acc) rest

/-- Reads a text whose opening quote is the first character of `start`. -/
def text (start : List Char) : Parsed String :=
  textFrom start 0 [] start.tail

/-! ## Numbers -/

/-- The digits at the front of a numeral: a single zero, or digits that do not begin with one. -/
def integerDigits (cs : List Char) : List Char :=
  match cs with
  | '0' :: _ => ['0']
  | _ => cs.takeWhile Binary64.isAsciiDigit

/-- The digits after a point, if a point with a digit comes first. -/
def fractionDigits (cs : List Char) : List Char :=
  match cs with
  | '.' :: tail => tail.takeWhile Binary64.isAsciiDigit
  | _ => []

/-- An exponent at the front: its characters and its value. -/
def exponent? (cs : List Char) : Option (Nat × Int) :=
  match cs with
  | c :: tail =>
    if c == 'e' || c == 'E' then
      let (sign, body) :=
        match tail with
        | '-' :: body => (some true, body)
        | '+' :: body => (some false, body)
        | _ => (none, tail)
      let digits := body.takeWhile Binary64.isAsciiDigit
      if digits.isEmpty then none
      else
        let value : Int := Binary64.asciiValue digits
        some (1 + (if sign.isSome then 1 else 0) + digits.length,
          if sign == some true then -value else value)
    else none
  | [] => none

/-- Reads a number; an integer unless it has a fraction or an exponent. -/
def number (cs : List Char) : Parsed Data :=
  let (negative, body) :=
    match cs with
    | '-' :: rest => (true, rest)
    | _ => (false, cs)
  let whole := integerDigits body
  if whole.isEmpty then blame cs
  else
    let rest := body.drop whole.length
    let fraction := fractionDigits rest
    let afterFraction := if fraction.isEmpty then rest else rest.drop (fraction.length + 1)
    match exponent? afterFraction with
    | some (size, power) =>
      .ok (.float (Binary64.ofDecimal negative (Binary64.asciiValue (whole ++ fraction))
        (power - fraction.length)), afterFraction.drop size)
    | none =>
      if fraction.isEmpty then
        match Text.readNumeral whole with
        | .ok n => .ok (.int (if negative then -n else n), afterFraction)
        | .error e => .error (.numeral e)
      else
        .ok (.float (Binary64.ofDecimal negative (Binary64.asciiValue (whole ++ fraction))
          (-fraction.length)), afterFraction)

/-- The words of a document, and the names of the numbers that no numeral denotes. -/
def words : List (List Char × Data) :=
  [("null".toList, .null), ("true".toList, .bool true), ("false".toList, .bool false),
   ("NaN".toList, .float .undefined), ("Infinity".toList, .float (.infinite false)),
   ("-Infinity".toList, .float (.infinite true))]

/-- Reads a word or a number. -/
def scalar (cs : List Char) : Parsed Data :=
  match words.find? fun w => w.1.isPrefixOf cs with
  | some (word, d) => .ok (d, cs.drop word.length)
  | none => number cs

/-! ## Values -/

mutual

/-- Reads one value. `room` is how many lists and objects may still be opened inside each
other. -/
def value : Nat → Nat → List Char → Parsed Data
  | _, 0, cs => blame cs
  | room, fuel + 1, cs =>
    match cs, room with
    | [], _ => blame cs
    | '"' :: _, _ =>
      match text cs with
      | .ok (s, rest) => .ok (.str s, rest)
      | .error e => .error e
    | '[' :: _, 0 | '\x7b' :: _, 0 => .error .tooDeep
    | '[' :: rest, room + 1 =>
      match skipSpace rest with
      | ']' :: after => .ok (.list [], after)
      | first => items room fuel [] first
    | '\x7b' :: rest, room + 1 =>
      match skipSpace rest with
      | '\x7d' :: after => .ok (.object [], after)
      | first => members room fuel [] first
    | _, _ => scalar cs

/-- Reads the entries of a list from the first of them on; `acc` holds those before, last
first. -/
def items : Nat → Nat → List Data → List Char → Parsed Data
  | _, 0, _, cs => blame cs
  | room, fuel + 1, acc, cs =>
    match value room fuel cs with
    | .error e => .error e
    | .ok (d, rest) =>
      match skipSpace rest with
      | ']' :: after => .ok (.list (d :: acc).reverse, after)
      | ',' :: after => items room fuel (d :: acc) (skipSpace after)
      | other => blame other

/-- Reads the members of an object from the first of them on. -/
def members : Nat → Nat → Members → List Char → Parsed Data
  | _, 0, _, cs => blame cs
  | room, fuel + 1, acc, cs =>
    match cs with
    | '"' :: _ =>
      match text cs with
      | .error e => .error e
      | .ok (name, rest) =>
        match skipSpace rest with
        | ':' :: after =>
          match value room fuel (skipSpace after) with
          | .error e => .error e
          | .ok (d, rest) =>
            match skipSpace rest with
            | '\x7d' :: after => .ok (.object (acc.set name d), after)
            | ',' :: after => members room fuel (acc.set name d) (skipSpace after)
            | other => blame other
        | other => blame other
    | _ => blame cs

end

/-- Reads a whole document whose lists and objects are nested at most so deep. -/
def document (room : Nat) (cs : List Char) : Except Defect Data :=
  match value room (2 * cs.length + 1) (skipSpace cs) with
  | .error e => .error e
  | .ok (d, rest) =>
    match skipSpace rest with
    | [] => .ok d
    | other => blame other

end Json

/-- What a document says, or what is wrong with it. -/
inductive Document where
  | value (d : Data)
  /-- The reader gave up at this position. -/
  | malformed (position : Nat)
  | numeral (error : Text.NumeralError)
  /-- Lists and objects are nested too deeply. -/
  | tooDeep
  /-- The bytes of the document are no text, or an escape in it stands for no character. -/
  | undecodable
  deriving Repr, Inhabited

namespace Document

/-- How deep lists and objects may be nested in a document. -/
def deepestNesting : Nat := 960

/-- Reads the characters of a document that is nested at most so deep. -/
def ofChars (room : Nat) (cs : List Char) : Document :=
  match Json.document room cs with
  | .ok d => .value d
  | .error (.malformed left) => .malformed (cs.length - left)
  | .error (.numeral e) => .numeral e
  | .error .tooDeep => .tooDeep
  | .error .halfPair => .undecodable

/-- Reads a document. -/
def ofText (s : String) : Document :=
  ofChars deepestNesting s.toList

/-- A text without the byte order mark at its front. -/
def withoutMark : List Char → List Char
  | '\ufeff' :: cs => cs
  | cs => cs

/-- Reads a document that was sent. A byte order mark may stand in front of UTF-8 and is not
counted. -/
def ofBytes (bytes : List UInt8) : Document :=
  let encoding := Text.Encoding.ofBytes bytes
  match encoding.decode? bytes with
  | none => .undecodable
  | some cs => ofChars deepestNesting (if encoding = .utf8 then withoutMark cs else cs)

end Document

end MessageTemplate
