import MessageTemplate.Template

/-!
# Rules that depend on the category

Model of `CategoryRules`, `CATEGORY_RULES`, `DEFAULT_RULES` and `rules_for` (`CategoryRules.of`)
of `builder.validator`.

* `CategoryRules` — what the platform allows in a category;
* `CategoryRules.of` — the rules of a category word; any other word has the general rules.
-/

set_option autoImplicit false

namespace MessageTemplate

/-- The most buttons that any template may have. -/
def maxButtons : Nat := 10

/-- What the platform allows in a category. -/
structure CategoryRules where
  headerAllowed : Bool := true
  /-- Whether the text must have the first variable, for the code. -/
  requiresCode : Bool := false
  allowedKinds : List ButtonKind := ButtonKind.all
  maxButtons : Nat := MessageTemplate.maxButtons
  deriving DecidableEq, Repr, Inhabited

namespace CategoryRules

/-- The rules of a category. -/
def ofCategory : Category → CategoryRules
  | .marketing => {}
  | .utility => {}
  | .authentication =>
    { headerAllowed := false, requiresCode := true, allowedKinds := [.copyCode, .url],
      maxButtons := 1 }

/-- The rules of a category word. -/
def of (word : String) : CategoryRules :=
  match Category.ofWord? word with
  | some c => ofCategory c
  | none => {}

/-- The rules of a dynamic value: of its text, or the general ones. -/
def ofData (d : Data) : Except Failure CategoryRules :=
  if d.isEmptyish then .ok (of "")
  else
    match d with
    | .str s => .ok (of s)
    | .list _ | .object _ => .error .wrongKind
    | _ => .ok {}

/-- Rules as a value. -/
def toData (r : CategoryRules) : Data :=
  .object [("header_allowed", .bool r.headerAllowed), ("requires_otp", .bool r.requiresCode),
    ("allowed_button_types", .list (r.allowedKinds.map fun k => .str k.word)),
    ("max_buttons", .ofNat r.maxButtons)]

end CategoryRules

end MessageTemplate
