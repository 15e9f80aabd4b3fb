import MessageTemplate.Failure
import MessageTemplate.Schema.Reading

/-!
# Styled spans

Model of `format_text`, `to_plain` and `to_html` of `builder.formatting` (`ofText`, `plain`,
`html`; `DELIMITERS` and `HTML_TAGS` are `byDelimiter` and `element`) and of `TextSpan` of
`schemas.preview`.

* `Style`, `Span` — a run of text with at most one inline style;
* `Span.ofText` — the spans of a message text: bold, italic, struck out or monospace where a text
  stands between two equal delimiters, without nesting;
* `Span.plain`, `Span.html` — the spans as bare text and as escaped markup.
-/

set_option autoImplicit false

namespace MessageTemplate

/-- An inline style. -/
inductive Style where
  | bold
  | italic
  | strikethrough
  | monospace
  deriving DecidableEq, Repr, Inhabited

namespace Style

/-- The name of a style. -/
def name : Style → String
  | .bold => "bold"
  | .italic => "italic"
  | .strikethrough => "strikethrough"
  | .monospace => "monospace"

/-- All styles, in the order in which they are enumerated. -/
def all : List Style := [.bold, .italic, .strikethrough, .monospace]

/-- What stands on both sides of a text to give it the style. -/
def delimiter : Style → List Char
  | .bold => ['*']
  | .italic => ['_']
  | .strikethrough => ['~']
  | .monospace => ['\x60', '\x60', '\x60']

/-- The element that shows the style in markup. -/
def element : Style → String
  | .bold => "strong"
  | .italic => "em"
  | .strikethrough => "del"
  | .monospace => "code"

/-- The order in which delimiters are tried; the longest comes first. -/
def byDelimiter : List Style := [.monospace, .bold, .italic, .strikethrough]

/-- The style whose delimiter stands at the front of a text. -/
def atFront? (cs : List Char) : Option Style :=
  byDelimiter.find? fun s => s.delimiter.isPrefixOf cs

/-- Whether a text may take the style: it is not empty, and monospace text has no backtick. -/
def admits (s : Style) (inner : List Char) : Bool :=
  !inner.isEmpty && !(s == .monospace && inner.contains '\x60')

end Style

/-- A run of text with at most one inline style. -/
structure Span where
  text : String
  style : Option Style := none
  deriving DecidableEq, Repr, Inhabited

namespace Span

/-! ## Reading -/

/-- A styled text, or a character that belongs to none. -/
inductive Mark where
  | plain (c : Char)
  | styled (s : Style) (inner : List Char)
  deriving DecidableEq, Repr

/-- The text in front of the first occurrence of a delimiter. -/
def upTo? (delimiter : List Char) : List Char → Option (List Char)
  | [] => none
  | c :: rest =>
    if delimiter.isPrefixOf (c :: rest) then some []
    else (upTo? delimiter rest).map (c :: ·)

/-- The text that takes the style whose delimiter stands at the front. -/
def innerAtFront? (s : Style) (cs : List Char) : Option (List Char) :=
  (upTo? s.delimiter (cs.drop s.delimiter.length)).filter s.admits

/-- The marks of a text after its first `skip` characters, which belong to the mark before. A
delimiter that opens nothing is plain, all of it. -/
def marksFrom : Nat → List Char → List Mark
  | _, [] => []
  | skip + 1, _ :: rest => marksFrom skip rest
  | 0, c :: rest =>
    match Style.atFront? (c :: rest) with
    | none => .plain c :: marksFrom 0 rest
    | some s =>
      match innerAtFront? s (c :: rest) with
      | some inner =>
        .styled s inner :: marksFrom (2 * s.delimiter.length + inner.length - 1) rest
      | none => s.delimiter.map .plain ++ marksFrom (s.delimiter.length - 1) rest

/-- An unstyled span of characters collected last first, unless there are none. -/
def flush (collected : List Char) : List Span :=
  if collected.isEmpty then [] else [⟨String.ofList collected.reverse, none⟩]

/-- The spans of marks; plain characters in a row form one span. -/
def collect (collected : List Char) : List Mark → List Span
  | [] => flush collected
  | .plain c :: rest => collect (c :: collected) rest
  | .styled s inner :: rest => flush collected ++ ⟨String.ofList inner, some s⟩ :: collect [] rest

/-- The spans of a message text. -/
def ofText (text : String) : List Span :=
  collect [] (marksFrom 0 text.toList)

/-- The spans of a dynamic value, which must be text unless it counts as not given. -/
def ofData (d : Data) : Except Failure (List Span) :=
  if d.isEmptyish then .ok []
  else
    match d with
    | .str s => .ok (ofText s)
    | .list _ | .object _ => .error .noParts
    | _ => .error .wrongKind

/-! ## Writing -/

/-- The text of spans without their styles. -/
def plain (spans : List Span) : String :=
  String.join (spans.map Span.text)

/-- A character in markup. -/
def escapeChar (c : Char) : List Char :=
  match c with
  | '&' => "&amp;".toList
  | '<' => "&lt;".toList
  | '>' => "&gt;".toList
  | '"' => "&quot;".toList
  | '\'' => "&#x27;".toList
  | '\n' => "<br>".toList
  | c => [c]

/-- The text of a span in markup. -/
def escaped (s : Span) : String :=
  String.ofList (s.text.toList.flatMap escapeChar)

/-- A span in markup, inside the element of its style. -/
def markup (s : Span) : String :=
  match s.style with
  | some style => "<" ++ style.element ++ ">" ++ s.escaped ++ "</" ++ style.element ++ ">"
  | none => s.escaped

/-- Spans in markup. -/
def html (spans : List Span) : String :=
  String.join (spans.map markup)

/-! ## Values -/

/-- The enumeration of the style names. -/
def styleNames : String := "'bold', 'italic', 'strikethrough' or 'monospace'"

/-- Reads a style name. -/
def readStyle : Data → Reading Style :=
  Read.word (Style.all.map fun s => (s.name, s)) styleNames

/-- Reads a span. -/
def read : Data → Reading Span
  | .object ms =>
    ((Reading.value Span.mk).ap (Read.required ms "text" Read.text)).ap
      (Read.field ms ["style"] none (Read.optional readStyle))
  | _ => .mismatch (.noPart "TextSpan")

/-- A span as a value. -/
def toData (s : Span) : Data :=
  .object [("text", .str s.text), ("style", .ofText? (s.style.map Style.name))]

end Span

end MessageTemplate
