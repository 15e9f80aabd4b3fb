import MessageTemplate.Schema.Fault
import MessageTemplate.Data.Text
import MessageTemplate.Text.Blank
import MessageTemplate.Text.Numeral

/-!
# Reading typed values

Model of the lax mode of the validation library, for the types that the fields of
`schemas.templates`, `schemas.preview`, `builder.model` and `core.config` have.

* `Reading` — a typed value, or every fault that was found in its place;
* `Reading.ap`, `Reading.entriesFrom` — several readings at once, the faults of all in order;
* `Read.text`, `Read.truth`, `Read.integer`, `Read.list`, … — readers of single values;
* `Read.field`, `Read.required` — readers of the members of an object.

Readers of truth values and integers also take values of other kinds that plainly stand for one.
-/

set_option autoImplicit false

namespace MessageTemplate

/-- A typed value, or every fault that was found in its place. -/
inductive Reading (α : Type) where
  | value (a : α)
  | faulty (faults : List Fault)
  deriving Repr, Inhabited

namespace Reading

variable {α β : Type}

/-- The faults of a reading. -/
def faults : Reading α → List Fault
  | .value _ => []
  | .faulty fs => fs

/-- A reading that fails with one mismatch. -/
def mismatch (m : Mismatch) : Reading α := .faulty [⟨[], m⟩]

/-- Applies a function to the typed value. -/
def map (f : α → β) : Reading α → Reading β
  | .value a => .value (f a)
  | .faulty fs => .faulty fs

/-- Reads on with the typed value. -/
def andThen (r : Reading α) (f : α → Reading β) : Reading β :=
  match r with
  | .value a => f a
  | .faulty fs => .faulty fs

/-- Two readings at once: a function and its argument. Both are looked at, so that the faults of
both are reported. -/
def ap (f : Reading (α → β)) (a : Reading α) : Reading β :=
  match f, a with
  | .value f, .value a => .value (f a)
  | .value _, .faulty fs => .faulty fs
  | .faulty fs, .value _ => .faulty fs
  | .faulty fs, .faulty gs => .faulty (fs ++ gs)

/-- The reading of a part, seen from the enclosing value. -/
def under (k : Key) : Reading α → Reading α
  | .value a => .value a
  | .faulty fs => .faulty (fs.map (Fault.under k))

/-- Readings of all entries of a list, from the given position on. -/
def entriesFrom (read : Data → Reading α) : Nat → List Data → Reading (List α)
  | _, [] => .value []
  | i, d :: rest =>
    ((value List.cons).ap ((read d).under (.index i))).ap (entriesFrom read (i + 1) rest)

@[simp] theorem faults_value (a : α) : (Reading.value a).faults = [] := rfl

@[simp] theorem faults_faulty (fs : List Fault) : (Reading.faulty fs : Reading α).faults = fs := rfl

@[simp] theorem ap_value_value (f : α → β) (a : α) : (value f).ap (value a) = value (f a) := rfl

/-- Both readings are reported. -/
theorem faults_ap (f : Reading (α → β)) (a : Reading α) :
    (f.ap a).faults = f.faults ++ a.faults := by
  cases f <;> cases a <;> simp [ap, faults]

theorem ap_of_value {f : Reading (α → β)} {r : Reading α} {g : α → β} {a : α}
    (hf : f = value g) (hr : r = value a) : f.ap r = value (g a) := by
  rw [hf, hr]
  rfl

/-- Entries that are each read as they were written. -/
theorem entriesFrom_map {read : Data → Reading α} {write : α → Data} {as : List α}
    (h : ∀ a ∈ as, read (write a) = value a) (i : Nat) :
    entriesFrom read i (as.map write) = value as := by
  induction as generalizing i with
  | nil => rfl
  | cons a as ih =>
    obtain ⟨ha, has⟩ := List.forall_mem_cons.mp h
    refine ap_of_value (ap_of_value rfl ?_) (ih has (i + 1))
    rw [ha]
    rfl

end Reading

namespace Read

/-! ## Single values -/

/-- Text. -/
def text : Data → Reading String
  | .str s => .value s
  | _ => .mismatch .noText

/-- The words for true, in lower case. -/
def trueWords : List String := ["1", "on", "t", "true", "y", "yes"]

/-- The words for false, in lower case. -/
def falseWords : List String := ["0", "off", "f", "false", "n", "no"]

/-- A truth value given as a word, in any case. -/
def truthWord (s : String) : Reading Bool :=
  let word := String.ofList (s.toList.map Char.toLower)
  if trueWords.contains word then .value true
  else if falseWords.contains word then .value false
  else .mismatch .unreadableTruthValue

/-- The least integer beyond those of 64 bits. -/
def word64 : Int := 9223372036854775808

/-- A truth value given as an integer; beyond 64 bits it is none at all. -/
def truthInteger (n : Int) : Reading Bool :=
  if n = 0 then .value false
  else if n = 1 then .value true
  else if -word64 ≤ n && n < word64 then .mismatch .unreadableTruthValue
  else .mismatch .noTruthValue

/-- A truth value; words, zero and one stand for one. -/
def truth : Data → Reading Bool
  | .bool b => .value b
  | .int n => truthInteger n
  | .float x =>
    match x.toInt? with
    | some n => if n = -word64 then .mismatch .noTruthValue else truthInteger n
    | none => .mismatch .noTruthValue
  | .str s => truthWord s
  | _ => .mismatch .noTruthValue

/-- One of the digits 1 to 9. -/
def isLeadingDigit (c : Char) : Bool := '1' ≤ c && c ≤ '9'

/-- A plain numeral: digits without leading zeros, after a minus sign or none. Its digits are
limited in number. -/
def plainInteger? (cs : List Char) : Option Int :=
  let (negative, digits) :=
    match cs with
    | '-' :: rest => (true, rest)
    | _ => (false, cs)
  let plain :=
    match digits with
    | ['0'] => true
    | c :: rest => isLeadingDigit c && rest.all Binary64.isAsciiDigit
    | [] => false
  if plain && digits.length ≤ Text.numeralLimit then
    let n : Int := Binary64.asciiValue digits
    some (if negative then -n else n)
  else none

/-- Whether a text begins like a plain numeral with too many digits, whatever comes after them. -/
def beginsOversized (cs : List Char) : Bool :=
  let body :=
    match cs with
    | '-' :: rest => rest
    | _ => cs
  match body with
  | c :: rest =>
    isLeadingDigit c && Text.numeralLimit < 1 + (rest.takeWhile Binary64.isAsciiDigit).length
  | [] => false

/-- What is left of a numeral after a zero, `last` being the character before: the zeros and
underscores at its front are passed over, but one character stays before a point or the end. A
minus sign may follow the zeros. -/
def afterZeros (last : Char) : List Char → Option (List Char)
  | [] => some [last]
  | c :: rest =>
    if c == '0' || c == '_' then afterZeros c rest
    else if isLeadingDigit c || c == '-' then some (c :: rest)
    else if c == '.' then some (last :: c :: rest)
    else none

/-- A numeral without its leading zeros; it must begin with a digit. -/
def withoutLeadingZeros : List Char → Option (List Char)
  | [] => none
  | c :: rest =>
    if c == '0' then afterZeros c rest
    else if isLeadingDigit c then some (c :: rest)
    else none

/-- A numeral without its fraction, if that is a point with nothing but zeros behind it. -/
def withoutZeroFraction (cs : List Char) : List Char :=
  match cs.dropWhile (· != '.') with
  | '.' :: zeros =>
    if !zeros.isEmpty && zeros.all (· == '0') then cs.takeWhile (· != '.') else cs
  | _ => cs

/-- Whether underscores only stand alone and between other characters. -/
def isGrouped (cs : List Char) : Bool :=
  cs.head? != some '_' && cs.getLast? != some '_' && !(cs.zip (cs.drop 1)).contains ('_', '_')

/-- A numeral without the underscores that group its digits. -/
def ungrouped (cs : List Char) : List Char :=
  if isGrouped cs then cs.filter (· != '_') else cs

/-- The plain form of a numeral, which may have white space around it, a plus sign, leading zeros,
a fraction of zeros, and digits grouped by underscores. -/
def plainForm? (cs : List Char) : Option (List Char) :=
  let tidy (body : List Char) : Option (List Char) :=
    (withoutLeadingZeros body).map fun rest => ungrouped (withoutZeroFraction rest)
  match Text.trimWith Text.isWhiteSpace cs with
  | '-' :: body => (tidy body).map ('-' :: ·)
  | '+' :: body => tidy body
  | body => tidy body

/-- An integer given as a numeral. A plain numeral with too many digits is too large; every other
text that has no plain form cannot be read. -/
def integerNumeral (s : String) : Reading Int :=
  if beginsOversized s.toList then .mismatch .oversizedInteger
  else
    match (plainForm? s.toList).bind plainInteger? with
    | some n => .value n
    | none => .mismatch .unreadableInteger

/-- An integer; truth values, floating-point numbers without a fraction and numerals stand for
one. -/
def integer : Data → Reading Int
  | .int n => .value n
  | .bool b => .value (if b then 1 else 0)
  | .float x =>
    if x.isFinite then
      match x.toInt? with
      | some n => if -word64 < n && n < word64 then .value n else .mismatch .oversizedInteger
      | none => .mismatch .fractionalInteger
    else .mismatch .noFiniteNumber
  | .str s => integerNumeral s
  | _ => .mismatch .noInteger

/-- An integer that is not negative. -/
def natural (d : Data) : Reading Nat :=
  (integer d).andThen fun n => if n < 0 then .mismatch (.belowMinimum 0) else .value n.toNat

/-- A floating-point number given as a numeral: white space around it, or underscores between its
characters, are allowed. -/
def numberNumeral (s : String) : Reading Binary64 :=
  let cs := s.toList
  match Binary64.parse? (Text.trimWith Text.isWhiteSpace cs) with
  | some x => .value x
  | none =>
    match if isGrouped cs then Binary64.parse? (ungrouped cs) else none with
    | some x => .value x
    | none => .mismatch .unreadableNumber

/-- A list, every entry read the same way. -/
def list {α : Type} (read : Data → Reading α) : Data → Reading (List α)
  | .list items => Reading.entriesFrom read 0 items
  | _ => .mismatch .noList

/-- A value or null. -/
def optional {α : Type} (read : Data → Reading α) : Data → Reading (Option α)
  | .null => .value none
  | d => (read d).map some

/-- Any object, as it is. -/
def dictionary : Data → Reading Members
  | .object ms => .value ms
  | _ => .mismatch .noDictionary

/-- One of some words; `admitted` is their enumeration. -/
def word {α : Type} (words : List (String × α)) (admitted : String) (d : Data) : Reading α :=
  match d with
  | .str s =>
    match words.lookup s with
    | some a => .value a
    | none => .mismatch (.otherWord admitted)
  | _ => .mismatch (.otherWord admitted)

/-! ## Members of objects -/

/-- The first of the names that is a member, with its value. -/
def member? (ms : Members) (names : List String) : Option (String × Data) :=
  names.findSome? fun name => (ms.lookup name).map fun d => (name, d)

/-- A member under one of its names, or the default where it has none; a fault is reported under
the name that was found. -/
def field {α : Type} (ms : Members) (names : List String) (default : α)
    (read : Data → Reading α) : Reading α :=
  match member? ms names with
  | some (name, d) => (read d).under (.name name)
  | none => .value default

/-- A member that must be there. -/
def required {α : Type} (ms : Members) (name : String) (read : Data → Reading α) : Reading α :=
  match ms.lookup name with
  | some d => (read d).under (.name name)
  | none => .faulty [⟨[.name name], .missing⟩]

end Read

end MessageTemplate
