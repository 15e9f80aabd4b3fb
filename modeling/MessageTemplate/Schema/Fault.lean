import MessageTemplate.Data.Location

/-!
# Faults of ill-typed values

Model of the error records of the validation library: the `type`, `msg` and `loc` of each are
`Mismatch.code`, `Mismatch.message` and `Fault.location`.

* `Mismatch` — what can be wrong with a value when a typed one is asked for, with its `code` and
  its `message`;
* `Fault` — a mismatch and the location of the value.
-/

set_option autoImplicit false

namespace MessageTemplate

/-- What is wrong with a value. -/
inductive Mismatch where
  | missing
  | noText
  | noTruthValue
  | unreadableTruthValue
  | noInteger
  | unreadableInteger
  | oversizedInteger
  | fractionalInteger
  /-- An infinite or undefined number. -/
  | noFiniteNumber
  | unreadableNumber
  | belowMinimum (bound : Nat)
  | noList
  | noDictionary
  /-- An object was asked for, to be read as the named part. -/
  | noPart (part : String)
  /-- An object was asked for, and anything with named fields would have done. -/
  | noFields
  /-- Text other than the admitted words, which come with their enumeration. -/
  | otherWord (admitted : String)
  /-- The member that selects the kind is missing. -/
  | noTag (member : String)
  /-- The member that selects the kind holds another text than the admitted ones. -/
  | otherTag (member : String) (given : String) (admitted : String)
  /-- The document that should hold the value cannot be read. -/
  | brokenDocument
  deriving DecidableEq, Repr, Inhabited

namespace Mismatch

/-- The code of a mismatch. -/
def code : Mismatch → String
  | .missing => "missing"
  | .noText => "string_type"
  | .noTruthValue => "bool_type"
  | .unreadableTruthValue => "bool_parsing"
  | .noInteger => "int_type"
  | .unreadableInteger => "int_parsing"
  | .oversizedInteger => "int_parsing_size"
  | .fractionalInteger => "int_from_float"
  | .noFiniteNumber => "finite_number"
  | .unreadableNumber => "float_parsing"
  | .belowMinimum _ => "greater_than_equal"
  | .noList => "list_type"
  | .noDictionary => "dict_type"
  | .noPart _ => "model_type"
  | .noFields => "model_attributes_type"
  | .otherWord _ => "literal_error"
  | .noTag _ => "union_tag_not_found"
  | .otherTag _ _ _ => "union_tag_invalid"
  | .brokenDocument => "json_invalid"

/-- The message of a mismatch. -/
def message : Mismatch → String
  | .missing => "Field required"
  | .noText => "Input should be a valid string"
  | .noTruthValue => "Input should be a valid boolean"
  | .unreadableTruthValue => "Input should be a valid boolean, unable to interpret input"
  | .noInteger => "Input should be a valid integer"
  | .unreadableInteger => "Input should be a valid integer, unable to parse string as an integer"
  | .oversizedInteger => "Unable to parse input string as an integer, exceeded maximum size"
  | .fractionalInteger => "Input should be a valid integer, got a number with a fractional part"
  | .noFiniteNumber => "Input should be a finite number"
  | .unreadableNumber => "Input should be a valid number, unable to parse string as a number"
  | .belowMinimum bound => "Input should be greater than or equal to " ++ toString bound
  | .noList => "Input should be a valid list"
  | .noDictionary => "Input should be a valid dictionary"
  | .noPart part => "Input should be a valid dictionary or instance of " ++ part
  | .noFields => "Input should be a valid dictionary or object to extract fields from"
  | .otherWord admitted => "Input should be " ++ admitted
  | .noTag member => "Unable to extract tag using discriminator '" ++ member ++ "'"
  | .otherTag member given admitted =>
    "Input tag '" ++ given ++ "' found using '" ++ member ++
      "' does not match any of the expected tags: " ++ admitted
  | .brokenDocument => "JSON decode error"

end Mismatch

/-- A value that does not fit, and where it stands. -/
structure Fault where
  location : Location
  mismatch : Mismatch
  deriving DecidableEq, Repr, Inhabited

namespace Fault

/-- The fault seen from an enclosing value. -/
def under (k : Key) (f : Fault) : Fault := { f with location := k :: f.location }

/-- A fault as a value: code, location and message. -/
def toData (f : Fault) : Data :=
  .object [("type", .str f.mismatch.code), ("loc", .list (f.location.map Key.toData)),
    ("msg", .str f.mismatch.message)]

end Fault

end MessageTemplate
