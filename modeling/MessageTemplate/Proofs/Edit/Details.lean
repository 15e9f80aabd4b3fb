import MessageTemplate.Edit

/-!
# Edits and details

* `Template.SameDetails` — two templates have the same identifier, name, language and category;
* `Template.apply_details` — an edit either keeps the details, or sets one of them and nothing else;
* `Template.apply_id` — it never changes the identifier;
* `Template.apply_name` — nor the name of a template that has one.
-/

set_option autoImplicit false

namespace MessageTemplate.Template

/-- The templates have the same identifier, name, language and category. -/
def SameDetails (t t' : Template) : Prop :=
  t'.id = t.id ∧ t'.name = t.name ∧ t'.language = t.language ∧ t'.category = t.category

variable {t after : Template}

theorem SameDetails.refl (t : Template) : t.SameDetails t := ⟨rfl, rfl, rfl, rfl⟩

theorem sameDetails_mapHeader (f : Header → Header) : t.SameDetails (t.mapHeader f) :=
  ⟨rfl, rfl, rfl, rfl⟩

theorem sameDetails_mapFooter (f : Footer → Footer) : t.SameDetails (t.mapFooter f) :=
  ⟨rfl, rfl, rfl, rfl⟩

theorem sameDetails_mapButtons (f : ButtonSet → ButtonSet) : t.SameDetails (t.mapButtons f) :=
  ⟨rfl, rfl, rfl, rfl⟩

theorem sameDetails_body (b : Body) : t.SameDetails { t with body := b } := ⟨rfl, rfl, rfl, rfl⟩

theorem liftEdit_eq_ok {r : Except EditError Template} (h : liftEdit r = .ok t) : r = .ok t := by
  cases r with
  | error e => cases h
  | ok t' => exact congrArg Except.ok (Except.ok.inj h)

theorem rename_eq_ok {name : String} (h : t.rename name = .ok after) :
    after = { t with name := name } ∧ (t.id = none ∨ name = t.name) := by
  unfold rename at h
  split at h
  · cases h
  · rename_i hfixed
    cases h
    refine ⟨rfl, ?_⟩
    cases hid : t.id with
    | none => exact Or.inl rfl
    | some id =>
      refine Or.inr ?_
      simpa [isPersisted, hid] using hfixed

theorem sameDetails_addButton (t : Template) (kind : String) :
    t.SameDetails (t.addButton kind) := by
  unfold addButton
  split
  · exact SameDetails.refl t
  · exact sameDetails_mapButtons _

theorem sameDetails_removeButton {index : Int} (h : t.removeButton index = .ok after) :
    t.SameDetails after := by
  unfold removeButton at h
  split at h
  · cases h
  · cases h
    exact sameDetails_mapButtons _

theorem sameDetails_setButtonField {index : Int} {field : String} {value : Option String}
    (h : t.setButtonField index field value = .ok after) : t.SameDetails after := by
  unfold setButtonField at h
  split at h
  · cases h
  · split at h
    · cases h
    · cases h
      exact sameDetails_mapButtons _

theorem sameDetails_insertVariable {target : Target}
    (h : Failure.ofNumeral (t.insertVariable target) = .ok after) : t.SameDetails after := by
  cases target with
  | header =>
    unfold insertVariable at h
    cases hx : withNextVariable t.headerOrDefault.text <;> rw [hx] at h <;> cases h
    exact sameDetails_mapHeader _
  | body =>
    unfold insertVariable at h
    cases hx : withNextVariable t.body.text <;> rw [hx] at h <;> cases h
    exact sameDetails_body _

/-- **An edit keeps the details or sets one of them.** Only a template without identifier takes
another name. -/
theorem apply_details {edit : Edit} (h : t.apply edit = .ok after) :
    t.SameDetails after ∨
    (∃ name, edit = .setName name ∧ after = { t with name := name } ∧
      (t.id = none ∨ name = t.name)) ∨
    (∃ category, edit = .setCategory category ∧ after = { t with category := category }) ∨
    (∃ language, edit = .setLanguage language ∧ after = { t with language := language }) := by
  cases edit with
  | setName value =>
    obtain ⟨heq, hname⟩ := rename_eq_ok (liftEdit_eq_ok h)
    exact Or.inr (Or.inl ⟨value, rfl, heq, hname⟩)
  | setCategory value => exact Or.inr (Or.inr (Or.inl ⟨value, rfl, (Except.ok.inj h).symm⟩))
  | setLanguage value => exact Or.inr (Or.inr (Or.inr ⟨value, rfl, (Except.ok.inj h).symm⟩))
  | setHeaderEnabled value => cases h; exact Or.inl (sameDetails_mapHeader _)
  | setHeaderFormat value => cases h; exact Or.inl (sameDetails_mapHeader _)
  | setHeaderText value => cases h; exact Or.inl (sameDetails_mapHeader _)
  | setHeaderSample value => cases h; exact Or.inl (sameDetails_mapHeader _)
  | setHeaderMedia change => cases h; exact Or.inl (sameDetails_mapHeader _)
  | setBodyText value => cases h; exact Or.inl (sameDetails_body _)
  | setBodySample index value =>
    simp only [apply] at h
    cases hx : setSample t.body.samples index value <;> rw [hx] at h <;> cases h
    exact Or.inl (sameDetails_body _)
  | setFooterEnabled value => cases h; exact Or.inl (sameDetails_mapFooter _)
  | setFooterText value => cases h; exact Or.inl (sameDetails_mapFooter _)
  | setButtonsEnabled value => cases h; exact Or.inl (sameDetails_mapButtons _)
  | addButton kind => cases h; exact Or.inl (sameDetails_addButton t kind)
  | removeButton index => exact Or.inl (sameDetails_removeButton (liftEdit_eq_ok h))
  | setButtonField index field value =>
    exact Or.inl (sameDetails_setButtonField (liftEdit_eq_ok h))
  | insertVariable target => exact Or.inl (sameDetails_insertVariable h)

/-- **No edit changes the identifier.** -/
theorem apply_id {edit : Edit} (h : t.apply edit = .ok after) : after.id = t.id := by
  rcases apply_details h with hsame | ⟨_, _, rfl, _⟩ | ⟨_, _, rfl⟩ | ⟨_, _, rfl⟩
  · exact hsame.1
  · rfl
  · rfl
  · rfl

/-- **No edit changes the name of a template with an identifier.** -/
theorem apply_name {edit : Edit} (hid : t.id ≠ none) (h : t.apply edit = .ok after) :
    after.name = t.name := by
  rcases apply_details h with hsame | ⟨_, _, rfl, hname⟩ | ⟨_, _, rfl⟩ | ⟨_, _, rfl⟩
  · exact hsame.2.1
  · exact hname.resolve_left hid
  · rfl
  · rfl

end MessageTemplate.Template
