import MessageTemplate.Text.CodePoint

/-!
# White space

Model of `isspace` and `strip` (`isBlank`, `trimWith`).

Two sets of blank characters are in use and differ in four control characters only:

* `isWhiteSpace` — the characters of the Unicode property White_Space;
* `isBlank` — those and the four information separators U+001C to U+001F.

`trimWith` cuts a class of characters off both ends of a text, and `isBlankText` says that
nothing but blanks is there.
-/

set_option autoImplicit false

namespace MessageTemplate.Text

/-- The code points of the property White_Space. -/
def whiteSpaceRanges : List (Nat × Nat) :=
  [(0x9, 0xd), (0x20, 0x20), (0x85, 0x85), (0xa0, 0xa0), (0x1680, 0x1680), (0x2000, 0x200a),
   (0x2028, 0x2029), (0x202f, 0x202f), (0x205f, 0x205f), (0x3000, 0x3000)]

/-- A character of the property White_Space. -/
def isWhiteSpace (c : Char) : Bool :=
  inRanges whiteSpaceRanges c

/-- White space, or one of the information separators U+001C to U+001F. -/
def isBlank (c : Char) : Bool :=
  isWhiteSpace c || inRanges [(0x1c, 0x1f)] c

/-- A text without its leading and trailing characters of the class. -/
def trimWith (p : Char → Bool) (cs : List Char) : List Char :=
  ((cs.dropWhile p).reverse.dropWhile p).reverse

/-- A text that holds nothing but blanks; the empty text is one. -/
def isBlankText (cs : List Char) : Bool :=
  cs.all isBlank

end MessageTemplate.Text
