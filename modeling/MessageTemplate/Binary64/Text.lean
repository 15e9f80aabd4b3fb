import MessageTemplate.Binary64

/-!
# The text of floating-point numbers

Model of `repr` and `float` between these numbers and their texts (`text`, `parse?`).

* `Binary64.text` — the shortest decimal, positional from `0.0001` up to below `10 ^ 16` and with
  an exponent of at least two digits elsewhere; a whole number keeps `.0` in positional form;
* `Binary64.parse?` — reads a decimal numeral with optional sign, point and exponent, or one of
  the names of the values that are no finite number.
-/

set_option autoImplicit false

namespace MessageTemplate.Binary64

/-- Sign of a negative number. -/
def signText (negative : Bool) : List Char := if negative then ['-'] else []

/-- Where the decimal point of a positional numeral may stand: after more than this many zeros
to the left of the digits a number is written with an exponent. -/
def leastPoint : Int := -3

/-- The greatest number of digits before the point in a positional numeral. -/
def greatestPoint : Int := 16

/-- The digits with the decimal point after `point` of them, zeros filling up. -/
def positional (digits : List Char) (point : Int) : List Char :=
  if point ≤ 0 then
    ['0', '.'] ++ List.replicate (-point).toNat '0' ++ digits
  else if (digits.length : Int) ≤ point then
    digits ++ List.replicate (point - digits.length).toNat '0' ++ ['.', '0']
  else
    digits.take point.toNat ++ ['.'] ++ digits.drop point.toNat

/-- The digits with the point after the first and the exponent behind. -/
def scientific (digits : List Char) (exponent : Int) : List Char :=
  let power := Nat.toDigits 10 exponent.natAbs
  digits.take 1 ++ (if digits.length ≤ 1 then [] else '.' :: digits.drop 1) ++
    ['e', if exponent < 0 then '-' else '+'] ++
    (if power.length < 2 then '0' :: power else power)

/-- The text of a number as characters. -/
def chars : Binary64 → List Char
  | .finite negative m q =>
    let (digits, exponent) := (shortest m q).getD (0, 0)
    let ds := Nat.toDigits 10 digits
    let point : Int := ds.length + exponent
    signText negative ++
      (if leastPoint ≤ point && point ≤ greatestPoint then positional ds point
        else scientific ds (point - 1))
  | .infinite negative => signText negative ++ ['i', 'n', 'f']
  | .undefined => ['n', 'a', 'n']

/-- The text of a number. -/
def text (x : Binary64) : String := String.ofList x.chars

/-- One of the digits 0 to 9. -/
def isAsciiDigit (c : Char) : Bool := '0' ≤ c && c ≤ '9'

/-- The number that a list of digits 0 to 9 denotes. -/
def asciiValue (cs : List Char) : Nat :=
  cs.foldl (fun n c => 10 * n + (c.toNat - '0'.toNat)) 0

/-- The integer of digits with an optional sign; there must be a digit. -/
def signedValue? (cs : List Char) : Option Int :=
  let (negative, digits) :=
    match cs with
    | '-' :: rest => (true, rest)
    | '+' :: rest => (false, rest)
    | _ => (false, cs)
  if digits.isEmpty || !digits.all isAsciiDigit then none
  else some (if negative then -(asciiValue digits) else asciiValue digits)

/-- A numeral without sign: digits, a point among them, and an exponent. -/
def parseUnsigned? (negative : Bool) (cs : List Char) : Option Binary64 :=
  let whole := cs.takeWhile isAsciiDigit
  let rest := cs.dropWhile isAsciiDigit
  let (fraction, rest) :=
    match rest with
    | '.' :: tail => (tail.takeWhile isAsciiDigit, tail.dropWhile isAsciiDigit)
    | _ => ([], rest)
  if whole.isEmpty && fraction.isEmpty then none
  else
    let power? : Option Int :=
      match rest with
      | [] => some 0
      | c :: tail => if c == 'e' || c == 'E' then signedValue? tail else none
    power?.map fun power =>
      ofDecimal negative (asciiValue (whole ++ fraction)) (power - fraction.length)

/-- Reads a number: a numeral or a name in any case, with an optional sign. -/
def parse? (cs : List Char) : Option Binary64 :=
  let (negative, body) :=
    match cs with
    | '-' :: rest => (true, rest)
    | '+' :: rest => (false, rest)
    | _ => (false, cs)
  match String.ofList (body.map Char.toLower) with
  | "inf" | "infinity" => some (.infinite negative)
  | "nan" => some .undefined
  | _ => parseUnsigned? negative body

end MessageTemplate.Binary64
