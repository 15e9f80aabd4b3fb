import MessageTemplate.Text.DecimalDigit

/-!
# Numerals

Model of `int` on digits and of `str` on integers, with the bound on their length.

Numbers are read from and written as decimal numerals of a bounded length:

* `readNumeral` — the number that a run of digits of any script denotes;
* `writeInteger` — the numeral of an integer.

Both refuse a numeral of more than `numeralLimit` digits.
-/

set_option autoImplicit false

namespace MessageTemplate.Text

/-- The most digits that a numeral may have, leading zeros included. -/
def numeralLimit : Nat := 4300

/-- Why a numeral cannot be read or written. -/
inductive NumeralError where
  /-- The text to read begins with this many decimal digits, more than the limit. -/
  | tooLong (digits : Nat)
  /-- The text holds a character that is no decimal digit. -/
  | notDecimal (text : List Char)
  /-- The number to write needs more digits than the limit. -/
  | tooBig
  deriving DecidableEq, Repr

/-- The longest part of a refused text that its message shows. -/
def shownLimit : Nat := 200

/-- The message of a numeral error. -/
def NumeralError.message : NumeralError → String
  | .tooLong digits =>
    "Exceeds the limit (4300 digits) for integer string conversion: value has " ++
      toString digits ++ " digits; use sys.set_int_max_str_digits() to increase the limit"
  | .notDecimal text =>
    "invalid literal for int() with base 10: " ++
      String.ofList (('\'' :: text ++ ['\'']).take shownLimit)
  | .tooBig =>
    "Exceeds the limit (4300 digits) for integer string conversion; " ++
      "use sys.set_int_max_str_digits() to increase the limit"

/-- The number that a list of digits denotes; characters without a value count as zero. -/
def digitsValue (cs : List Char) : Nat :=
  cs.foldl (fun n c => 10 * n + (digitValue? c).getD 0) 0

/-- Reads a run of decimal digits; the limit is on the digits that stand at its beginning. -/
def readNumeral (cs : List Char) : Except NumeralError Nat :=
  let leading := (cs.takeWhile isDecimalDigit).length
  if numeralLimit < leading then .error (.tooLong leading)
  else if cs.all isDecimalDigit then .ok (digitsValue cs)
  else .error (.notDecimal cs)

/-- The numeral of an integer, with a minus sign if it is negative. -/
def writeInteger (n : Int) : Except NumeralError String :=
  if n.natAbs < Nat.pow 10 numeralLimit then .ok (toString n) else .error .tooBig

end MessageTemplate.Text
