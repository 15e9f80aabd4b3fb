import MessageTemplate.Text.CodePoint

/-!
# Encodings of text

Model of `detect_encoding` and the decoding of the bytes of a document (`Encoding.ofBytes`,
`Encoding.decode?`).

* `unitChar?`, `pairChar?` — the characters of code units of 16 bits;
* `Encoding` — how the characters of a text are laid out in bytes;
* `Encoding.ofBytes` — the encoding of bytes whose first two characters are not beyond U+007F:
  where zero bytes stand among the first four of them tells the width and the order;
* `Encoding.decode?` — the characters of bytes.

Half of a surrogate pair that stands alone is no character, and no text here can hold it: where one
is in the bytes they are not decoded, and the reader of documents fails where an escape stands for
one.
-/

set_option autoImplicit false

namespace MessageTemplate.Text

/-! ## Code units -/

/-- The character of a code unit; half of a surrogate pair has none. -/
def unitChar? (u : Nat) : Option Char :=
  if 0xd800 ≤ u && u ≤ 0xdfff then none else some (Char.ofNat u)

/-- The character of a surrogate pair, if the two units form one. -/
def pairChar? (high low : Nat) : Option Char :=
  if 0xd800 ≤ high && high ≤ 0xdbff && 0xdc00 ≤ low && low ≤ 0xdfff then
    some (Char.ofNat (0x10000 + (high - 0xd800) * 0x400 + (low - 0xdc00)))
  else none

/-- The characters of code units, two units of a surrogate pair being one character; `none` if half
of a pair stands alone. -/
def unitChars? : List Nat → Option (List Char)
  | [] => some []
  | [u] => (unitChar? u).map ([·])
  | high :: low :: rest =>
    match pairChar? high low with
    | some c => (unitChars? rest).map (c :: ·)
    | none => (unitChar? high).bind fun c => (unitChars? (low :: rest)).map (c :: ·)

/-! ## Encodings -/

/-- Which byte of a unit comes first. -/
inductive ByteOrder where
  | mostSignificantFirst
  | leastSignificantFirst
  deriving DecidableEq, Repr, Inhabited

/-- How the characters of a text are laid out in bytes. -/
inductive Encoding where
  | utf8
  | utf16 (order : ByteOrder)
  | utf32 (order : ByteOrder)
  deriving DecidableEq, Repr, Inhabited

/-- The number that two digits to the base 256 denote, which stand in an order. -/
def ByteOrder.join (order : ByteOrder) (base first second : Nat) : Nat :=
  match order with
  | .mostSignificantFirst => first * base + second
  | .leastSignificantFirst => second * base + first

/-- The units of two bytes; `none` if a byte is left over. -/
def units16 (order : ByteOrder) : List UInt8 → Option (List Nat)
  | [] => some []
  | [_] => none
  | a :: b :: rest => (units16 order rest).map (order.join 0x100 a.toNat b.toNat :: ·)

/-- The units of two bytes each, joined in pairs; `none` if one is left over. -/
def units32 (order : ByteOrder) : List Nat → Option (List Nat)
  | [] => some []
  | [_] => none
  | a :: b :: rest => (units32 order rest).map (order.join 0x10000 a b :: ·)

/-- The greatest code point. -/
def greatestCodePoint : Nat := 0x10ffff

namespace Encoding

/-- The encoding that the places of zero bytes tell. -/
def ofBytes : List UInt8 → Encoding
  | [a, b] =>
    if a = 0 then .utf16 .mostSignificantFirst
    else if b = 0 then .utf16 .leastSignificantFirst
    else .utf8
  | a :: b :: c :: d :: _ =>
    if a = 0 then
      if b = 0 then .utf32 .mostSignificantFirst else .utf16 .mostSignificantFirst
    else if b = 0 then
      if c = 0 && d = 0 then .utf32 .leastSignificantFirst else .utf16 .leastSignificantFirst
    else .utf8
  | _ => .utf8

/-- The characters of bytes in an encoding; `none` if they are no text in it. -/
def decode? (e : Encoding) (bytes : List UInt8) : Option (List Char) :=
  match e with
  | .utf8 => (String.fromUTF8? ⟨bytes.toArray⟩).map String.toList
  | .utf16 order => (units16 order bytes).bind unitChars?
  | .utf32 order =>
    match (units16 order bytes).bind (units32 order) with
    | some codes =>
      if codes.all (· ≤ greatestCodePoint) then codes.mapM unitChar? else none
    | none => none

end Encoding

end MessageTemplate.Text
