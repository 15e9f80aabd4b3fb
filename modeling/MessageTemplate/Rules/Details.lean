import MessageTemplate.Template
import MessageTemplate.Report

/-!
# Rules on the details

Model of `_check_details` of `builder.validator`; `isNameText` is what `NAME_PATTERN` matches, and
`reservedBeginnings` is `RESERVED_NAME_PREFIXES`.

* `Template.detailFindings` — what is wrong with name, category and language.
-/

set_option autoImplicit false

namespace MessageTemplate

/-- The most characters that a name may have. -/
def maxNameLength : Nat := 512

/-- Beginnings of names that the platform often rejects. -/
def reservedBeginnings : List String := ["test_", "sample_", "example_"]

/-- A small letter, a digit or the underscore. -/
def isNameChar (c : Char) : Bool :=
  ('a' ≤ c && c ≤ 'z') || ('0' ≤ c && c ≤ '9') || c == '_'

/-- A text without the line break at its end. -/
def withoutFinalBreak (cs : List Char) : List Char :=
  if cs.getLast? = some '\n' then cs.dropLast else cs

/-- A name of name characters only; a line break at the end is passed over. -/
def isNameText (cs : List Char) : Bool :=
  !(withoutFinalBreak cs).isEmpty && (withoutFinalBreak cs).all isNameChar

/-- Words in an enumeration. -/
def enumerate (words : List String) : String := ", ".intercalate words

namespace Template

/-- What is wrong with a name. -/
def nameFindings (name : String) : List Finding :=
  if name.isEmpty then [.error "name" "Template name is required"]
  else
    Finding.onlyIf (!isNameText name.toList)
      [.error "name" "Only lowercase letters, numbers, and underscores allowed"] ++
    Finding.onlyIf (maxNameLength < name.length)
      [.error "name" ("Template name cannot exceed " ++ toString maxNameLength ++ " characters")] ++
    Finding.onlyIf (reservedBeginnings.any fun b => b.toList.isPrefixOf name.toList)
      [.warning "name" "Names starting with test_, sample_ or example_ are often rejected"]

/-- What is wrong with a category. -/
def categoryFindings (category : String) : List Finding :=
  if category.isEmpty then [.error "category" "Category is required"]
  else Finding.onlyIf (Category.ofWord? category).isNone
    [.error "category" ("Invalid category: " ++ category ++ ". Must be one of: " ++
      enumerate (Category.all.map Category.word))]

/-- What is wrong with a language. -/
def languageFindings (language : String) : List Finding :=
  if language.isEmpty then [.error "language" "Language is required"]
  else Finding.onlyIf (!languages.contains language)
    [.error "language" ("Unsupported language: " ++ language)]

/-- What is wrong with the details of a template. -/
def detailFindings (t : Template) : List Finding :=
  nameFindings t.name ++ categoryFindings t.category ++ languageFindings t.language

end Template

end MessageTemplate
