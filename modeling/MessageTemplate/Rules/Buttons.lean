import MessageTemplate.Rules.Content

/-!
# Rules on the buttons

Model of `_check_buttons` of `builder.validator`: `Button.findings` is the body of its loop,
`sizeFindings` and `mixFindings` are what it checks of all buttons together, and
`isInternationalPhone` is what `PHONE_PATTERN` matches.

* `Button.findings` — what is wrong with one button, addressed by its position;
* `Template.buttonFindings` — what is wrong with the buttons of a template, one by one and
  together.
-/

set_option autoImplicit false

namespace MessageTemplate

/-- The most characters of a button text. -/
def maxButtonTextLength : Nat := 25

/-- The most buttons that open an address. -/
def maxUrlButtons : Nat := 2

/-- The most buttons that call a number. -/
def maxPhoneButtons : Nat := 1

/-- A phone number without blanks, hyphens and parentheses. -/
def compactPhone (cs : List Char) : List Char :=
  cs.filter fun c => !(Text.isBlank c || c == '-' || c == '(' || c == ')')

/-- A plus sign, a digit other than zero, and one to fourteen more decimal digits. -/
def isInternationalPhone : List Char → Bool
  | '+' :: first :: rest =>
    '1' ≤ first && first ≤ '9' && rest.all Text.isDecimalDigit && 1 ≤ rest.length &&
      rest.length ≤ 14
  | _ => false

/-- A text for a message; nothing has a name of its own. -/
def shown (s : Option String) : String := (Data.ofText? s).text

namespace Button

/-- How messages call the button at a position. -/
def label (i : Nat) : String := "Button " ++ toString (i + 1)

/-- The dotted name of the button at a position. -/
def fieldAt (i : Nat) : String := "buttons.items[" ++ toString i ++ "]"

/-- The findings on the kind of a button. -/
def kindFindings (category : String) (i : Nat) (b : Button) : List Finding :=
  match b.kind? with
  | none =>
    [.error (fieldAt i ++ ".type") (label i ++ " has an unknown type: " ++ shown b.kind)]
  | some k =>
    Finding.onlyIf (!(CategoryRules.of category).allowedKinds.contains k)
      [.error (fieldAt i ++ ".type") (label i ++ ": " ++ k.word ++
        " buttons are not allowed for " ++ category ++ " templates")]

/-- The findings on the text of a button. -/
def textFindings (i : Nat) (b : Button) : List Finding :=
  let text := b.text.getD ""
  if Text.isBlankText text.toList then
    [.error (fieldAt i ++ ".text") (label i ++ " text is required")]
  else Finding.onlyIf (maxButtonTextLength < text.length)
    [.error (fieldAt i ++ ".text") (label i ++ " text exceeds " ++
      toString maxButtonTextLength ++ " chars")]

/-- The findings on the address of a button that opens one. -/
def urlFindings (i : Nat) (b : Button) : List Finding :=
  match given? b.url with
  | none => [.error (fieldAt i ++ ".url") (label i ++ " requires a URL")]
  | some url => Finding.onlyIf (!isSecureAddress url)
      [.error (fieldAt i ++ ".url") (label i ++ " requires a valid HTTPS URL")]

/-- The findings on the number of a button that calls one. -/
def phoneFindings (i : Nat) (b : Button) : List Finding :=
  match given? b.phoneNumber with
  | none => [.error (fieldAt i ++ ".phoneNumber") (label i ++ " requires a phone number")]
  | some phone => Finding.onlyIf (!isInternationalPhone (compactPhone phone.toList))
      [.error (fieldAt i ++ ".phoneNumber")
        (label i ++ " requires phone in international format (+...)")]

/-- The findings on what a button of its kind must have. -/
def actionFindings (i : Nat) (b : Button) : List Finding :=
  match b.kind? with
  | some .url => b.urlFindings i
  | some .phoneNumber => b.phoneFindings i
  | some .copyCode => Finding.onlyIf (given? b.sample).isNone
      [.warning (fieldAt i ++ ".example") (label i ++ " should include an example code")]
  | _ => []

/-- What is wrong with the button at a position, in a template of the category. -/
def findings (category : String) (i : Nat) (b : Button) : List Finding :=
  b.kindFindings category i ++ b.textFindings i ++ b.actionFindings i

end Button

namespace ButtonSet

/-- How many buttons are of a kind. -/
def count (items : List Button) (k : ButtonKind) : Nat :=
  items.countP fun b => b.kind? = some k

/-- The findings on the number of buttons. -/
def sizeFindings (category : String) (items : List Button) : List Finding :=
  let allowed := (CategoryRules.of category).maxButtons
  if maxButtons < items.length then
    [.error "buttons" ("Maximum " ++ toString maxButtons ++ " buttons allowed")]
  else Finding.onlyIf (allowed < items.length)
    [.error "buttons" ("Maximum " ++ toString allowed ++ " button allowed for " ++ category ++
      " templates")]

/-- The findings on the kinds that occur together. -/
def mixFindings (items : List Button) : List Finding :=
  let urls := count items .url
  let phones := count items .phoneNumber
  Finding.onlyIf (maxUrlButtons < urls)
    [.error "buttons" ("Maximum " ++ toString maxUrlButtons ++ " URL buttons allowed")] ++
  Finding.onlyIf (maxPhoneButtons < phones)
    [.error "buttons" ("Maximum " ++ toString maxPhoneButtons ++ " phone button allowed")] ++
  Finding.onlyIf (count items .quickReply != 0 && urls + phones != 0)
    [.warning "buttons" "Mixing quick reply with URL/phone buttons may affect user experience"]

/-- The findings on the buttons from a position on, one by one. -/
def findingsFrom (category : String) : Nat → List Button → List Finding
  | _, [] => []
  | i, b :: rest => b.findings category i ++ findingsFrom category (i + 1) rest

/-- What is wrong with buttons that are shown, one by one and together. -/
def shownFindings (category : String) (items : List Button) : List Finding :=
  findingsFrom category 0 items ++ sizeFindings category items ++ mixFindings items

end ButtonSet

namespace Template

/-- What is wrong with the buttons of a template. -/
def buttonFindings (t : Template) : List Finding :=
  match t.buttons with
  | some set =>
    Finding.onlyIf (set.enabled && !set.items.isEmpty)
      (ButtonSet.shownFindings t.category set.items)
  | none => []

end Template

end MessageTemplate
