import MessageTemplate.Edit
import MessageTemplate.Component.Reading

/-!
# Reading edits

Model of the validation of the operations of `builder.model`, of `parse_operation`
(`Command.read`), of `_PATH_OPERATIONS` and `operation_for_path` (`fixedPaths`, `Command.ofPath`),
of `update` (`Template.update`) and of `new_template` for any arguments (`Template.draftOf`).

* `EditKind` — the kinds of edits, by the word that selects them;
* `Command` — an edit and the members that were given for it;
* `Command.read` — a command from a dynamic value whose member `op` selects the kind;
* `Command.ofPath` — the command that sets the field at a dotted path;
* `Template.draftOf` — a draft for a category and a language given as dynamic values.
-/

set_option autoImplicit false

namespace MessageTemplate

/-- The kinds of edits. -/
inductive EditKind where
  | setName
  | setCategory
  | setLanguage
  | setHeaderEnabled
  | setHeaderFormat
  | setHeaderText
  | setHeaderSample
  | setHeaderMedia
  | setBodyText
  | setBodySample
  | setFooterEnabled
  | setFooterText
  | setButtonsEnabled
  | addButton
  | removeButton
  | setButtonField
  | insertVariable
  deriving DecidableEq, Repr, Inhabited

namespace EditKind

/-- The word that selects a kind. -/
def word : EditKind → String
  | .setName => "set_name"
  | .setCategory => "set_category"
  | .setLanguage => "set_language"
  | .setHeaderEnabled => "set_header_enabled"
  | .setHeaderFormat => "set_header_format"
  | .setHeaderText => "set_header_text"
  | .setHeaderSample => "set_header_example"
  | .setHeaderMedia => "set_header_media"
  | .setBodyText => "set_body_text"
  | .setBodySample => "set_body_example"
  | .setFooterEnabled => "set_footer_enabled"
  | .setFooterText => "set_footer_text"
  | .setButtonsEnabled => "set_buttons_enabled"
  | .addButton => "add_button"
  | .removeButton => "remove_button"
  | .setButtonField => "set_button_field"
  | .insertVariable => "insert_variable"

/-- All kinds. -/
def all : List EditKind :=
  [.setName, .setCategory, .setLanguage, .setHeaderEnabled, .setHeaderFormat, .setHeaderText,
   .setHeaderSample, .setHeaderMedia, .setBodyText, .setBodySample, .setFooterEnabled,
   .setFooterText, .setButtonsEnabled, .addButton, .removeButton, .setButtonField,
   .insertVariable]

/-- The kind of a word. -/
def ofWord? (s : String) : Option EditKind := all.find? fun k => k.word == s

/-- The members of a kind beside the one that selects it. -/
def members : EditKind → List String
  | .setHeaderMedia => ["media_url", "media_handle", "filename"]
  | .setBodySample => ["index", "value"]
  | .addButton => ["type"]
  | .removeButton => ["index"]
  | .setButtonField => ["index", "field", "value"]
  | .insertVariable => ["target"]
  | _ => ["value"]

end EditKind

/-- The member that selects the kind of an edit. -/
def kindMember : String := "op"

/-- The kind of an edit. -/
def Edit.kind : Edit → EditKind
  | .setName _ => .setName
  | .setCategory _ => .setCategory
  | .setLanguage _ => .setLanguage
  | .setHeaderEnabled _ => .setHeaderEnabled
  | .setHeaderFormat _ => .setHeaderFormat
  | .setHeaderText _ => .setHeaderText
  | .setHeaderSample _ => .setHeaderSample
  | .setHeaderMedia _ => .setHeaderMedia
  | .setBodyText _ => .setBodyText
  | .setBodySample _ _ => .setBodySample
  | .setFooterEnabled _ => .setFooterEnabled
  | .setFooterText _ => .setFooterText
  | .setButtonsEnabled _ => .setButtonsEnabled
  | .addButton _ => .addButton
  | .removeButton _ => .removeButton
  | .setButtonField _ _ _ => .setButtonField
  | .insertVariable _ => .insertVariable

/-- The members of an edit beside the one that selects its kind. -/
def Edit.values : Edit → Members
  | .setName v | .setCategory v | .setLanguage v | .setHeaderFormat v | .setHeaderText v
  | .setBodyText v | .setFooterText v => [("value", .str v)]
  | .setHeaderEnabled v | .setFooterEnabled v | .setButtonsEnabled v => [("value", .bool v)]
  | .setHeaderSample v => [("value", .ofText? v)]
  | .setHeaderMedia change =>
    [("media_url", .ofText? (change.url.getD none)),
     ("media_handle", .ofText? (change.handle.getD none)),
     ("filename", .ofText? (change.filename.getD none))]
  | .setBodySample index v => [("index", .ofNat index), ("value", .str v)]
  | .addButton kind => [("type", .str kind)]
  | .removeButton index => [("index", .int index)]
  | .setButtonField index field v =>
    [("index", .int index), ("field", .str field), ("value", .ofText? v)]
  | .insertVariable target => [("target", .str target.word)]

/-- An edit as a value, all its members written. -/
def Edit.toData (e : Edit) : Data :=
  .object ((kindMember, .str e.kind.word) :: e.values)

/-! ## Reading members -/

/-- The enumeration of the target words. -/
def targetWords : String := "'header' or 'body'"

/-- Reads a target. -/
def Target.read : Data → Reading Target :=
  Read.word [("header", .header), ("body", .body)] targetWords

/-- A member that may be left out, which differs from being null. -/
def readChange (ms : Members) (name : String) : Reading (Option (Option String)) :=
  Read.field ms [name] none fun d => (Read.optional Read.text d).map some

/-- Reads the members of an edit of a kind. -/
def EditKind.read (k : EditKind) (ms : Members) : Reading Edit :=
  let text : Reading String := Read.required ms "value" Read.text
  let truth : Reading Bool := Read.required ms "value" Read.truth
  let optionalText : Reading (Option String) :=
    Read.field ms ["value"] none (Read.optional Read.text)
  match k with
  | .setName => text.map .setName
  | .setCategory => text.map .setCategory
  | .setLanguage => text.map .setLanguage
  | .setHeaderEnabled => truth.map .setHeaderEnabled
  | .setHeaderFormat => text.map .setHeaderFormat
  | .setHeaderText => text.map .setHeaderText
  | .setHeaderSample => optionalText.map .setHeaderSample
  | .setHeaderMedia =>
    ((((Reading.value MediaChange.mk).ap (readChange ms "media_url")).ap
      (readChange ms "media_handle")).ap (readChange ms "filename")).map .setHeaderMedia
  | .setBodyText => text.map .setBodyText
  | .setBodySample =>
    ((Reading.value Edit.setBodySample).ap (Read.required ms "index" Read.natural)).ap text
  | .setFooterEnabled => truth.map .setFooterEnabled
  | .setFooterText => text.map .setFooterText
  | .setButtonsEnabled => truth.map .setButtonsEnabled
  | .addButton =>
    (Read.field ms ["type"] ButtonKind.quickReply.word Read.text).map .addButton
  | .removeButton => (Read.required ms "index" Read.integer).map .removeButton
  | .setButtonField =>
    (((Reading.value Edit.setButtonField).ap (Read.required ms "index" Read.integer)).ap
      (Read.required ms "field" Read.text)).ap optionalText
  | .insertVariable => (Read.field ms ["target"] .body Target.read).map .insertVariable

/-! ## Commands -/

/-- An edit and the members that were given for it, in alphabetical order. -/
structure Command where
  edit : Edit
  given : List String
  deriving DecidableEq, Repr, Inhabited

namespace Command

/-- Puts a name into an alphabetical list. -/
def insertName (name : String) : List String → List String
  | [] => [name]
  | other :: rest => if name ≤ other then name :: other :: rest else other :: insertName name rest

/-- The names in alphabetical order. -/
def alphabetical (names : List String) : List String := names.foldr insertName []

/-- Those of the names that are members, in alphabetical order. -/
def givenOf (ms : Members) (names : List String) : List String :=
  alphabetical (names.filter fun name => Members.has ms name)

/-- The enumeration of the words that select a kind. -/
def kindWords : String :=
  ", ".intercalate (EditKind.all.map fun k => "'" ++ k.word ++ "'")

/-- Reads a command whose kind one of its members selects. -/
def read : Data → Reading Command
  | .object ms =>
    match Members.get? ms kindMember with
    | none => .mismatch (.noTag kindMember)
    | some tag =>
      match tag.str?.bind EditKind.ofWord? with
      | none => .mismatch (.otherTag kindMember tag.text kindWords)
      | some k =>
        ((k.read ms).under (.name k.word)).map fun e =>
          ⟨e, givenOf ms (kindMember :: k.members)⟩
  | _ => .mismatch .noFields

/-- The command of a kind with the given members. -/
def ofMembers (k : EditKind) (ms : Members) : Except Failure Command :=
  ((k.read ms).map fun e => ⟨e, givenOf ms k.members⟩).result

/-! ## Paths -/

/-- The paths that address one field each, with the kind of edit that sets it and the member that
takes the value. -/
def fixedPaths : List (String × EditKind × String) :=
  [("name", .setName, "value"), ("category", .setCategory, "value"),
   ("language", .setLanguage, "value"), ("header.enabled", .setHeaderEnabled, "value"),
   ("header.format", .setHeaderFormat, "value"), ("header.text", .setHeaderText, "value"),
   ("header.example", .setHeaderSample, "value"), ("header.mediaUrl", .setHeaderMedia, "media_url"),
   ("body.text", .setBodyText, "value"), ("footer.enabled", .setFooterEnabled, "value"),
   ("footer.text", .setFooterText, "value"), ("buttons.enabled", .setButtonsEnabled, "value")]

/-- The segments of a path, between its points. -/
def segments : List Char → List (List Char)
  | [] => [[]]
  | c :: rest =>
    if c == '.' then [] :: segments rest
    else
      match segments rest with
      | [] => [[c]]
      | segment :: more => (c :: segment) :: more

/-- Whether a segment is a position in a list: digits, and at least one. -/
def isPosition (segment : List Char) : Bool :=
  !segment.isEmpty && segment.all Text.isDigitLike

/-- The command for a path that leads into a list. -/
def ofSegments (path : String) (segments : List String) (value : Data) : Except Failure Command :=
  let atPosition (position : String) (make : Data → Except Failure Command) :=
    if isPosition position.toList then
      match Text.readNumeral position.toList with
      | .ok n => make (.ofNat n)
      | .error e => .error (.numeral e)
    else .error (.edit (.noPath path))
  match segments with
  | ["body", "examples", position] =>
    atPosition position fun i => ofMembers .setBodySample [("index", i), ("value", value)]
  | ["buttons", "items", position, field] =>
    atPosition position fun i =>
      ofMembers .setButtonField [("index", i), ("field", .str field), ("value", value)]
  | _ => .error (.edit (.noPath path))

/-- The command that sets the field at a path. -/
def ofPath (path : String) (value : Data) : Except Failure Command :=
  match fixedPaths.lookup path with
  | some (k, member) => ofMembers k [(member, value)]
  | none => ofSegments path ((segments path.toList).map String.ofList) value

/-- The command for a path given as a dynamic value. -/
def ofPathData (path value : Data) : Except Failure Command :=
  match path with
  | .str s => ofPath s value
  | .list _ | .object _ => .error .wrongKind
  | _ => .error .noParts

end Command

namespace Template

/-- The template after the edit that sets the field at a path. -/
def update (t : Template) (path value : Data) : Except Failure Template :=
  match Command.ofPathData path value with
  | .ok c => t.apply c.edit
  | .error e => .error e

/-- A draft of a category and a language; without a language it takes the default. -/
def draftOf (category language : Data) : Except Failure Template :=
  let language := if language.isEmptyish then .str defaultLanguage else language
  match ofDetails { category := category, language := language } with
  | .ok t => .ok (draft t.category t.language)
  | .error e => .error e

end Template

end MessageTemplate
