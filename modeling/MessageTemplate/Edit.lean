import MessageTemplate.Template

/-!
# Edits

Model of `apply` of `builder.model`, of the seventeen operations it takes (the constructors of
`Edit`) and of `_check_index` (`buttonAt`), `BUTTON_FIELDS` (`ButtonField`) and `new_template`
(`draft`). `Header.setMedia`, `setSample`, `addButton`, `removeButton`, `setButtonField` and
`insertVariable` are its branches for the operations of these names; `setSample` is the one for
`SetBodyExample`.

* `Edit` — one change of a template;
* `Template.apply` — the template after an edit. An edit touches the part that it addresses and
  nothing else; a part that is missing counts as its default.
-/

set_option autoImplicit false

namespace MessageTemplate

/-- The texts into which a variable can be inserted. -/
inductive Target where
  | header
  | body
  deriving DecidableEq, Repr, Inhabited

/-- The word for a target. -/
def Target.word : Target → String
  | .header => "header"
  | .body => "body"

/-- Media fields to be replaced; a field that is not given stays as it is. -/
structure MediaChange where
  url : Option (Option String) := none
  handle : Option (Option String) := none
  filename : Option (Option String) := none
  deriving DecidableEq, Repr, Inhabited

/-- One change of a template. -/
inductive Edit where
  | setName (value : String)
  | setCategory (value : String)
  | setLanguage (value : String)
  | setHeaderEnabled (value : Bool)
  | setHeaderFormat (value : String)
  | setHeaderText (value : String)
  | setHeaderSample (value : Option String)
  | setHeaderMedia (change : MediaChange)
  | setBodyText (value : String)
  | setBodySample (index : Nat) (value : String)
  | setFooterEnabled (value : Bool)
  | setFooterText (value : String)
  | setButtonsEnabled (value : Bool)
  | addButton (kind : String)
  | removeButton (index : Int)
  | setButtonField (index : Int) (field : String) (value : Option String)
  /-- Appends the next variable to a text. -/
  | insertVariable (target : Target)
  deriving DecidableEq, Repr, Inhabited

/-- The fields of a button that an edit can set. -/
inductive ButtonField where
  | kind
  | text
  | url
  | phoneNumber
  | sample
  deriving DecidableEq, Repr, Inhabited

namespace ButtonField

/-- The field of a name; the phone number has two spellings. -/
def ofName? (name : String) : Option ButtonField :=
  match name with
  | "type" => some .kind
  | "text" => some .text
  | "url" => some .url
  | "phone_number" => some .phoneNumber
  | "phoneNumber" => some .phoneNumber
  | "example" => some .sample
  | _ => none

end ButtonField

/-- The button with another value in a field. -/
def Button.setField (b : Button) (field : ButtonField) (value : Option String) : Button :=
  match field with
  | .kind => { b with kind := value }
  | .text => { b with text := value }
  | .url => { b with url := value }
  | .phoneNumber => { b with phoneNumber := value }
  | .sample => { b with sample := value }

/-- The header with other media. -/
def Header.setMedia (h : Header) (change : MediaChange) : Header :=
  { h with
    mediaUrl := change.url.getD h.mediaUrl
    mediaHandle := change.handle.getD h.mediaHandle
    filename := change.filename.getD h.filename }

/-- The greatest number of entries that a list can have. -/
def countableLength : Nat := 9223372036854775807

/-- A list of samples with another value at a position; empty samples fill it up, which fails only
where they and the value are more than a list can have. -/
def setSample (samples : List String) (index : Nat) (value : String) :
    Except Failure (List String) :=
  let empty := index - samples.length
  if index < samples.length then .ok (samples.set index value)
  else if countableLength ≤ empty then .error .uncountable
  else .ok (samples ++ List.replicate empty "" ++ [value])

/-- A text with the next variable behind it. -/
def withNextVariable (text : String) : Except Text.NumeralError String :=
  match Variable.nextOrdinal text with
  | .error e => .error e
  | .ok n =>
    match Text.writeInteger n with
    | .error e => .error e
    | .ok _ => .ok (text ++ Variable.plainToken n)

namespace Template

/-- The template with another header. -/
def mapHeader (t : Template) (f : Header → Header) : Template :=
  { t with header := some (f t.headerOrDefault) }

/-- The template with another footer. -/
def mapFooter (t : Template) (f : Footer → Footer) : Template :=
  { t with footer := some (f t.footerOrDefault) }

/-- The template with other buttons. -/
def mapButtons (t : Template) (f : ButtonSet → ButtonSet) : Template :=
  { t with buttons := some (f t.buttonsOrDefault) }

/-- The list position of a button. -/
def buttonAt (t : Template) (index : Int) : Except EditError Nat :=
  let count := t.buttonsOrDefault.items.length
  if 0 ≤ index && index < count then .ok index.toNat else .error (.noButton index count)

/-- The template with another name, which a saved template cannot take. -/
def rename (t : Template) (name : String) : Except EditError Template :=
  if t.isPersisted && name != t.name then .error .nameIsFixed else .ok { t with name := name }

/-- The template with one more button, and its buttons shown; a full set stays as it is. -/
def addButton (t : Template) (kind : String) : Template :=
  if maxButtonCount ≤ t.buttonsOrDefault.items.length then t
  else t.mapButtons fun set =>
    { set with enabled := true, items := set.items ++ [{ kind := some kind }] }
where
  /-- The most buttons that a template can hold. -/
  maxButtonCount : Nat := 10

/-- The template without a button; without its last one the buttons are off. -/
def removeButton (t : Template) (index : Int) : Except EditError Template :=
  match t.buttonAt index with
  | .error e => .error e
  | .ok i =>
    .ok (t.mapButtons fun set =>
      let items := set.items.eraseIdx i
      { set with items := items, enabled := !items.isEmpty && set.enabled })

/-- The template with another value in a field of a button. -/
def setButtonField (t : Template) (index : Int) (field : String) (value : Option String) :
    Except EditError Template :=
  match t.buttonAt index with
  | .error e => .error e
  | .ok i =>
    match ButtonField.ofName? field with
    | none => .error (.noButtonField field)
    | some f =>
      .ok (t.mapButtons fun set => { set with items := set.items.modify i (·.setField f value) })

/-- The template with the next variable behind one of its texts. -/
def insertVariable (t : Template) : Target → Except Text.NumeralError Template
  | .header =>
    match withNextVariable t.headerOrDefault.text with
    | .error e => .error e
    | .ok text => .ok (t.mapHeader ({ · with text := text }))
  | .body =>
    match withNextVariable t.body.text with
    | .error e => .error e
    | .ok text => .ok { t with body := { t.body with text := text } }

/-- An edit error as a failure. -/
def liftEdit : Except EditError Template → Except Failure Template
  | .ok t => .ok t
  | .error e => .error (.edit e)

/-- The template after an edit. -/
def apply (t : Template) : Edit → Except Failure Template
  | .setName value => liftEdit (t.rename value)
  | .setCategory value => .ok { t with category := value }
  | .setLanguage value => .ok { t with language := value }
  | .setHeaderEnabled value => .ok (t.mapHeader ({ · with enabled := value }))
  | .setHeaderFormat value => .ok (t.mapHeader ({ · with format := value }))
  | .setHeaderText value => .ok (t.mapHeader ({ · with text := value }))
  | .setHeaderSample value => .ok (t.mapHeader ({ · with sample := value }))
  | .setHeaderMedia change => .ok (t.mapHeader (·.setMedia change))
  | .setBodyText value => .ok { t with body := { t.body with text := value } }
  | .setBodySample index value =>
    (setSample t.body.samples index value).map fun samples =>
      { t with body := { t.body with samples := samples } }
  | .setFooterEnabled value => .ok (t.mapFooter ({ · with enabled := value }))
  | .setFooterText value => .ok (t.mapFooter ({ · with text := value }))
  | .setButtonsEnabled value => .ok (t.mapButtons ({ · with enabled := value }))
  | .addButton kind => .ok (t.addButton kind)
  | .removeButton index => liftEdit (t.removeButton index)
  | .setButtonField index field value => liftEdit (t.setButtonField index field value)
  | .insertVariable target => Failure.ofNumeral (t.insertVariable target)

/-- The language of a new draft for which none is given. -/
def defaultLanguage : String := "en"

/-- An empty draft with all its parts, off. -/
def draft (category : String) (language : String) : Template :=
  { category := category, language := language, header := some {}, footer := some {},
    buttons := some {} }

/-- The draft with which the work begins. -/
def blank : Template := draft Category.marketing.word defaultLanguage

end Template

end MessageTemplate
