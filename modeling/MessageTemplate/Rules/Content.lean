import MessageTemplate.Rules.Category
import MessageTemplate.Rules.Details
import MessageTemplate.Text.Blank
import MessageTemplate.Text.Phrase

/-!
# Rules on the content

Model of `_check_header`, `_check_body`, `_check_footer`, `_check_category_content` and
`_check_content` of `builder.validator`; `discouraged` is `DISCOURAGED_CONTENT`.

* `Header.findings`, `Body.findings`, `Footer.findings` — what is wrong with one part;
* `Template.categoryContentFindings` — what the category forbids or demands;
* `Template.contentFindings` — all of it.

A text with an overlong numeral has no ordinals, so that a rule that asks for them fails.
-/

set_option autoImplicit false

namespace MessageTemplate

/-- The most characters of a header text. -/
def maxHeaderLength : Nat := 60

/-- The most variables of a header text. -/
def maxHeaderVariables : Nat := 1

/-- The most characters of a body text. -/
def maxBodyLength : Nat := 1024

/-- The most characters of a footer text. -/
def maxFooterLength : Nat := 60

/-- Whether a text begins with the scheme that addresses must have. -/
def isSecureAddress (s : String) : Bool :=
  "https://".toList.isPrefixOf s.toList

namespace Header

/-- The findings on the variables of a header text. -/
def variableFindings (h : Header) : Except Text.NumeralError (List Finding) :=
  let count := (Variable.tokens h.text).length
  if maxHeaderVariables < count then
    .ok [.error "header.text" ("Header can contain at most " ++ toString maxHeaderVariables ++
      " variable")]
  else if count = 0 then .ok []
  else
    match Variable.ordinals h.text with
    | .error e => .error e
    | .ok ordinals =>
      .ok (Finding.onlyIf (ordinals != [1])
        [.error "header.text" ("Header variable must be " ++ Variable.plainToken 1)])

/-- What is wrong with a header text. -/
def textFindings (h : Header) : Except Text.NumeralError (List Finding) :=
  if h.text.isEmpty then .ok [.error "header.text" "Header text is required"]
  else
    match h.variableFindings with
    | .error e => .error e
    | .ok onVariables =>
      .ok (Finding.onlyIf (maxHeaderLength < h.text.length)
          [.error "header.text" ("Header exceeds " ++ toString maxHeaderLength ++ " characters")] ++
        onVariables ++
        Finding.onlyIf (Variable.occurs h.text && (given? h.sample).isNone)
          [.error "header.example" "Example value is required for the header variable"])

/-- What is wrong with a media header of the format. -/
def mediaFindings (h : Header) (format : HeaderFormat) : List Finding :=
  Finding.onlyIf ((given? h.mediaUrl).isNone && (given? h.mediaHandle).isNone)
    [.warning "header.media" ("A sample " ++ format.noun ++ " is required before submission")] ++
  Finding.onlyIf ((given? h.mediaUrl).any fun url => !isSecureAddress url)
    [.error "header.mediaUrl" "Media URL must be a valid HTTPS URL"]

/-- What is wrong with a header that is shown. -/
def shownFindings (h : Header) : Except Text.NumeralError (List Finding) :=
  match h.format? with
  | some .text => h.textFindings
  | some format => .ok (h.mediaFindings format)
  | none =>
    .ok [.error "header.format" ("Invalid header format. Must be one of: " ++
      enumerate (HeaderFormat.all.map HeaderFormat.word))]

/-- What is wrong with a header. -/
def findings (header : Option Header) : Except Text.NumeralError (List Finding) :=
  match header with
  | some h => if h.enabled then h.shownFindings else .ok []
  | none => .ok []

end Header

/-- Content that the platform commonly rejects, and the advice about it. -/
def discouraged : List ((List Char → Bool) × String) :=
  [(Text.occursAsWords (["free", "win", "winner", "prize", "congratulations"].map String.toList),
     "Avoid spam-triggering words"),
   (Text.occursAnywhere (["http://bit.ly", "https://bit.ly"].map String.toList),
     "URL shorteners are not recommended"),
   (Text.occursAsWords (["click here", "act now", "limited time"].map String.toList),
     "Avoid urgency phrases that may trigger rejection")]

namespace Body

/-- The findings on the ordinals of a body text. -/
def sequenceFindings (ordinals : List Nat) : List Finding :=
  match Variable.firstGap (ordinals.map Int.ofNat) with
  | none => []
  | some gap =>
    [.error "body.text" ("Variables must be sequential starting from " ++ Variable.plainToken 1 ++
      ": " ++ Variable.plainToken gap ++ " is missing (found " ++
      enumerate (ordinals.map Variable.plainToken) ++ ")")]

/-- The findings on the number of samples. -/
def sampleFindings (slots samples : Nat) : List Finding :=
  Finding.onlyIf (samples < slots)
    [.error "body.examples" ("Provide example values for all " ++ toString slots ++
      " variables (" ++ toString (slots - samples) ++ " missing)")]

/-- What is wrong with a body. -/
def findings (b : Body) : Except Text.NumeralError (List Finding) :=
  if Text.isBlankText b.text.toList then .ok [.error "body.text" "Body text is required"]
  else
    match Variable.ordinals b.text with
    | .error e => .error e
    | .ok ordinals =>
      .ok (Finding.onlyIf (maxBodyLength < b.text.length)
          [.error "body.text" ("Body exceeds " ++ toString maxBodyLength ++ " characters")] ++
        sequenceFindings ordinals ++
        sampleFindings ordinals.length b.samples.length ++
        discouraged.flatMap fun (occurs, advice) =>
          Finding.onlyIf (occurs b.text.toList) [.warning "body.text" advice])

end Body

namespace Footer

/-- What is wrong with a footer. -/
def findings (footer : Option Footer) : List Finding :=
  match footer with
  | none => []
  | some f =>
    Finding.onlyIf f.enabled
      (Finding.onlyIf (maxFooterLength < f.text.length)
          [.error "footer.text" ("Footer exceeds " ++ toString maxFooterLength ++
            " characters")] ++
        Finding.onlyIf (Variable.occurs f.text)
          [.error "footer.text" "Variables are not allowed in the footer"])

end Footer

namespace Template

/-- Whether the template shows a header. -/
def showsHeader (t : Template) : Bool := t.header.any Header.enabled

/-- What the category forbids or demands of the content. -/
def categoryContentFindings (t : Template) : Except Text.NumeralError (List Finding) :=
  match Category.ofWord? t.category with
  | none => .ok []
  | some category =>
    let rules := CategoryRules.ofCategory category
    let onHeader := Finding.onlyIf (t.showsHeader && !rules.headerAllowed)
      [.error "header" (category.title ++ " templates cannot have headers")]
    if !rules.requiresCode then .ok onHeader
    else
      match Variable.ordinals t.body.text with
      | .error e => .error e
      | .ok ordinals =>
        .ok (onHeader ++ Finding.onlyIf (!ordinals.contains 1)
          [.error "body.text" (category.title ++ " templates must include " ++
            Variable.plainToken 1 ++ " for the code")])

/-- What is wrong with the content of a template. -/
def contentFindings (t : Template) : Except Text.NumeralError (List Finding) :=
  match Header.findings t.header with
  | .error e => .error e
  | .ok onHeader =>
    match t.body.findings with
    | .error e => .error e
    | .ok onBody =>
      match t.categoryContentFindings with
      | .error e => .error e
      | .ok onCategory => .ok (onHeader ++ onBody ++ Footer.findings t.footer ++ onCategory)

end Template

end MessageTemplate
