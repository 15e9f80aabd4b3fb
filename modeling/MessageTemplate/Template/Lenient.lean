import MessageTemplate.Data.Dropping
import MessageTemplate.Failure
import MessageTemplate.Template.Reading
import MessageTemplate.Report

/-!
# Lenient reading of templates

Model of `coerce_template` of `builder.validator` (`recover`; `readRepeatedly` is its loop over
`_COERCE_PASSES`). `without` is `_drop` at one location followed by `_strip_dropped`.

* `Template.readLenient` — a template from any dynamic value, with an issue for each value that
  does not fit;
* `Template.recover` — the same for values that are not nested too deeply;
* `Data.without` — a value without one of its parts.

Values that do not fit are taken away and the rest is read again, a bounded number of times: the
second spelling of a member may come to light only when the first is gone.
-/

set_option autoImplicit false

namespace MessageTemplate

/-- A fault as an issue, under the dotted name of its location. -/
def Fault.toIssue (f : Fault) : Issue :=
  ⟨f.location.fieldName, f.mismatch.message⟩

namespace Data

/-- Takes away the values at the locations, the last first, so that the positions of the others
in their lists stay as they are. A location where nothing stands changes nothing. -/
def eraseAll (d : Data) (locations : List Location) : Data :=
  locations.foldr (fun loc rest => (rest.erase? loc).getD rest) d

/-- How deep a value may be nested that is copied part by part. -/
def deepestCopy : Nat := 490

/-- A value without the part at a location, and whether there was one. -/
def without (d : Data) (loc : Location) : Except Failure (Data × Bool) :=
  if loc.isEmpty then .error .noEntry
  else
    let (left, dropped) := (Marked.ofData d).drop loc
    let rest := left.strip
    if deepestCopy < rest.nesting then .error .tooDeep else .ok (rest, dropped)

/-- Whether a value can be taken away at one of the locations. -/
def erasesSome (d : Data) (locations : List Location) : Bool :=
  locations.any fun loc => (d.erase? loc).isSome

end Data

namespace Template

/-- How often a value is read before it is given up. -/
def readingAttempts : Nat := 3

/-- Reads a value at most the given number of times, each time without the values that did not
fit before. -/
def readRepeatedly : Nat → Data → Option Template × List Issue
  | 0, _ => (none, [])
  | attempts + 1, d =>
    match Template.read d with
    | .value t => (some t, [])
    | .faulty faults =>
      let issues := faults.map Fault.toIssue
      let locations := faults.map Fault.location
      if d.erasesSome locations then
        let (t, more) := readRepeatedly attempts (d.eraseAll locations)
        (t, issues ++ more)
      else (none, issues)

/-- The issue about a value that is no object. -/
def noObject : Issue := ⟨Location.wholeName, "Template must be an object"⟩

/-- A template from any value, and an issue for each value that does not fit; no template only if
nothing can be made of the value. -/
def readLenient (d : Data) : Option Template × List Issue :=
  match d with
  | .object _ => readRepeatedly readingAttempts d
  | _ => (none, [noObject])

/-- Lenient reading of a value; an object is copied first and may not be nested too deeply. -/
def recover (d : Data) : Except Failure (Option Template × List Issue) :=
  match d with
  | .object _ => if Data.deepestCopy < d.nesting then .error .tooDeep else .ok (readLenient d)
  | _ => .ok (readLenient d)

end Template

end MessageTemplate
