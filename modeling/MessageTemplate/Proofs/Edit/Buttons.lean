import MessageTemplate.Edit.Reading
import MessageTemplate.Proofs.Edit.Placing

/-!
# What an edit does to the buttons

* `ButtonSet.Change` — the ways in which an edit can change a set of buttons;
* `Template.apply_buttons` — an edit changes the buttons of a template in one of them;
* `ButtonSet.Change.length_le` — a set of at most ten buttons stays one;
* `ButtonSet.Change.shows` — a set that does not show an empty list comes to do so only if it is
  switched on.
-/

set_option autoImplicit false

namespace MessageTemplate

namespace ButtonSet

/-- What an edit can do to a set of buttons. -/
inductive Change (set : ButtonSet) : Edit → ButtonSet → Prop
  /-- An edit of something else keeps the set. -/
  | kept {edit : Edit}
    (h : edit.kind ∉ [.setButtonsEnabled, .addButton, .removeButton, .setButtonField]) :
    Change set edit set
  | switched {v : Bool} : Change set (.setButtonsEnabled v) { set with enabled := v }
  /-- A full set takes no button. -/
  | full {kind : String} (h : 10 ≤ set.items.length) : Change set (.addButton kind) set
  | added {kind : String} (h : set.items.length < 10) :
    Change set (.addButton kind) ⟨true, set.items ++ [{ kind := some kind }]⟩
  | removed {i : Nat} (h : i < set.items.length) : Change set (.removeButton i) (set.without i)
  | fieldSet {i : Nat} {f : ButtonField} {name : String} {v : Option String}
    (hi : i < set.items.length) (hname : name ∈ f.names) :
    Change set (.setButtonField i name v) { set with items := set.items.modify i (·.setField f v) }

/-- The set does not show an empty list. -/
def ShowsSome (set : ButtonSet) : Prop := set.enabled = true → set.items ≠ []

instance (set : ButtonSet) : Decidable set.ShowsSome := inferInstanceAs (Decidable (_ → _))

variable {set after : ButtonSet} {edit : Edit}

/-- A set never grows beyond ten buttons. -/
theorem Change.length_le (h : set.Change edit after) (hset : set.items.length ≤ 10) :
    after.items.length ≤ 10 := by
  cases h with
  | kept _ => exact hset
  | switched => exact hset
  | full _ => exact hset
  | added hroom =>
    rw [List.length_append, List.length_singleton]
    exact hroom
  | @removed i _ => exact Nat.le_trans (List.length_eraseIdx_le _ i) hset
  | fieldSet _ _ =>
    rw [List.length_modify]
    exact hset

/-- Only switching a set on makes it show an empty list. -/
theorem Change.shows (h : set.Change edit after) (hset : set.ShowsSome)
    (hedit : edit ≠ .setButtonsEnabled true) : after.ShowsSome := by
  cases h with
  | kept _ => exact hset
  | @switched v =>
    intro hon
    obtain rfl : v = true := hon
    exact absurd rfl hedit
  | full _ => exact hset
  | added _ => exact fun _ => List.append_ne_nil_of_right_ne_nil _ (List.cons_ne_nil _ _)
  | @removed i _ =>
    -- The switch goes off together with the last button.
    intro hon hnone
    simp only [without] at hon hnone
    simp [hnone] at hon
  | @fieldSet i f _ v _ _ =>
    intro hon hnone
    have hlength : (set.items.modify i (·.setField f v)).length = 0 := congrArg List.length hnone
    rw [List.length_modify] at hlength
    exact hset hon (List.length_eq_zero_iff.mp hlength)

end ButtonSet

namespace Template

variable {t after : Template}

/-- **An edit changes the buttons in no other way.** -/
theorem apply_buttons {edit : Edit} (h : t.apply edit = .ok after) :
    t.buttonsOrDefault.Change edit after.buttonsOrDefault := by
  cases edit with
  | setName value =>
    obtain ⟨rfl, _⟩ := rename_eq_ok (liftEdit_eq_ok h)
    exact .kept (by simp [Edit.kind])
  | setBodySample index value =>
    simp only [apply] at h
    cases hx : setSample t.body.samples index value <;> rw [hx] at h <;> cases h
    exact .kept (by simp [Edit.kind])
  | setButtonsEnabled value =>
    cases h
    exact .switched
  | addButton kind =>
    cases h
    unfold addButton
    split
    · rename_i hfull
      exact .full hfull
    · rename_i hroom
      exact .added (Nat.not_le.mp hroom)
  | removeButton index =>
    obtain ⟨i, rfl, hi, rfl⟩ := removeButton_eq_ok_iff.mp (liftEdit_eq_ok h)
    exact .removed hi
  | setButtonField index name v =>
    obtain ⟨i, f, rfl, hi, hname, rfl⟩ := setButtonField_eq_ok_iff.mp (liftEdit_eq_ok h)
    exact .fieldSet hi hname
  | insertVariable target =>
    cases target with
    | header =>
      simp only [apply, insertVariable] at h
      cases hx : withNextVariable t.headerOrDefault.text <;> rw [hx] at h <;> cases h
      exact .kept (by simp [Edit.kind])
    | body =>
      simp only [apply, insertVariable] at h
      cases hx : withNextVariable t.body.text <;> rw [hx] at h <;> cases h
      exact .kept (by simp [Edit.kind])
  | _ =>
    cases h
    exact .kept (by simp [Edit.kind])

end Template

end MessageTemplate
