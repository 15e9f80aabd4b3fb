import MessageTemplate.Edit.Reading
import MessageTemplate.Preview
import MessageTemplate.Proofs.Edit.Buttons
import MessageTemplate.Proofs.Readable
import MessageTemplate.Proofs.Template.WellTyped

/-!
# Edits and what buttons need

A button is read with a kind and a text, and it is shown with them. An edit sets any field of a
button to a text or to none, so it can take one of the two away.

* `Edit.takesAway` — whether an edit does so;
* `Template.apply_wellTyped_iff` — an edit keeps a template well-typed unless it takes away;
* `Template.preview_ok_iff` — a template can be shown if the buttons that it shows are well-typed;
* `Revision`, `Template.revised` — edits as they are asked for, and runs of them;
* `Template.revised_wellTyped` — runs that take nothing away keep templates well-typed;
* `Template.text_taken_away` — one edit that takes away is enough for a template that cannot be
  shown.
-/

set_option autoImplicit false

namespace MessageTemplate

/-- Whether an edit takes away the kind or the text of a button. -/
def Edit.takesAway : Edit → Bool
  | .setButtonField _ field none => ["type", "text"].contains field
  | _ => false

/-! ## One button -/

namespace Button

variable {b : Button}

/-- A field that is set leaves a button well-typed unless its kind or its text is set to none. -/
theorem wellTyped_setField_iff (hb : b.WellTyped) {f : ButtonField} {value : Option String} :
    (b.setField f value).WellTyped ↔ ¬ (value = none ∧ (f = .kind ∨ f = .text)) := by
  obtain ⟨hkind, htext⟩ := hb
  cases f <;> cases value <;> simp [WellTyped, setField, hkind, htext]

theorem preview_value_iff : (∃ p, b.preview = .value p) ↔ b.WellTyped := by
  unfold preview WellTyped
  cases b.kind <;> cases b.text <;> simp [needed, Reading.ap]

theorem previewAll_ok_iff {bs : List Button} :
    (∃ ps, previewAll bs = .ok ps) ↔ ∀ b ∈ bs, b.WellTyped := by
  induction bs with
  | nil => exact ⟨fun _ => List.forall_mem_nil _, fun _ => ⟨[], rfl⟩⟩
  | cons b rest ih =>
    rw [List.forall_mem_cons, ← preview_value_iff, ← ih, previewAll]
    cases b.preview with
    | faulty faults => simp
    | value p => cases previewAll rest <;> simp

end Button

/-- An edit that sets a field takes away if the field is one of the two and is set to none. -/
theorem Edit.takesAway_setButtonField {field : String} {f : ButtonField}
    (h : ButtonField.ofName? field = some f) (index : Int) (value : Option String) :
    (Edit.setButtonField index field value).takesAway = false ↔
      ¬ (value = none ∧ (f = .kind ∨ f = .text)) := by
  cases value with
  | some s => simp [takesAway]
  | none =>
    unfold ButtonField.ofName? at h
    split at h <;> cases h <;> simp [takesAway]

namespace Template

variable {t after : Template}

/-! ## The buttons of a template -/

theorem wellTyped_iff : t.WellTyped ↔
    (∀ i ∈ t.id, ∃ s, i = .text s) ∧ ∀ b ∈ t.buttonsOrDefault.items, b.WellTyped := by
  unfold WellTyped buttonsOrDefault
  cases t.buttons <;> simp

theorem mem_shownButtons {b : Button} (h : b ∈ t.shownButtons) : b ∈ t.buttonsOrDefault.items := by
  unfold shownButtons at h
  unfold buttonsOrDefault
  cases hbuttons : t.buttons with
  | none =>
    rw [hbuttons] at h
    cases h
  | some set =>
    simp only [hbuttons] at h
    split at h
    · exact h
    · cases h

/-- The parts of a preview. -/
theorem preview_parts {values : Option LiveValues} {p : Preview}
    (h : t.preview values = .ok p) :
    p.header = t.header.bind (Header.preview values) ∧ p.body = t.body.preview values ∧
      p.footer = t.footer.bind Footer.preview ∧
      Button.previewAll t.shownButtons = .ok p.buttons := by
  unfold preview at h
  split at h
  · cases h
  · rename_i hbuttons
    cases h
    exact ⟨rfl, rfl, rfl, hbuttons⟩

theorem preview_ok_iff {values : Option LiveValues} :
    (∃ p, t.preview values = .ok p) ↔ ∀ b ∈ t.shownButtons, b.WellTyped := by
  rw [← Button.previewAll_ok_iff, preview]
  cases Button.previewAll t.shownButtons <;> simp

/-- A well-typed template can be shown. -/
theorem WellTyped.preview (h : t.WellTyped) (values : Option LiveValues) :
    ∃ p, t.preview values = .ok p :=
  preview_ok_iff.mpr fun b hb => (wellTyped_iff.mp h).2 b (mem_shownButtons hb)

/-! ## One edit -/

/-- One entry of a list changed: all entries have a property afterwards if the changed one has. -/
theorem forall_mem_modify_iff {α : Type} {P : α → Prop} {l : List α} (hl : ∀ a ∈ l, P a) {i : Nat}
    (hi : i < l.length) (g : α → α) : (∀ a ∈ l.modify i g, P a) ↔ P (g l[i]) := by
  constructor
  · intro h
    refine h _ (List.mem_iff_getElem.mpr ⟨i, by rwa [List.length_modify], ?_⟩)
    exact List.getElem_modify_eq g i l _
  · intro h a ha
    obtain ⟨j, hj, rfl⟩ := List.mem_iff_getElem.mp ha
    rw [List.getElem_modify]
    split
    · rename_i hij
      subst hij
      exact h
    · exact hl _ (List.getElem_mem _)

/-- **An edit keeps a template well-typed exactly if it takes nothing away.** -/
theorem apply_wellTyped_iff (ht : t.WellTyped) {edit : Edit} (h : t.apply edit = .ok after) :
    after.WellTyped ↔ edit.takesAway = false := by
  obtain ⟨hid, hitems⟩ := wellTyped_iff.mp ht
  rw [← apply_id h] at hid
  rw [wellTyped_iff, and_iff_right hid]
  have hchange := apply_buttons h
  generalize after.buttonsOrDefault = set at hchange ⊢
  cases hchange with
  | kept hkind =>
    refine iff_of_true hitems ?_
    cases edit with
    | setButtonField index field value => simp [Edit.kind] at hkind
    | _ => rfl
  | switched => exact iff_of_true hitems rfl
  | full _ => exact iff_of_true hitems rfl
  | added _ =>
    rw [List.forall_mem_append, List.forall_mem_singleton]
    exact iff_of_true ⟨hitems, rfl, rfl⟩ rfl
  | removed _ => exact iff_of_true (fun b hb => hitems b (List.mem_of_mem_eraseIdx hb)) rfl
  | fieldSet hi hname =>
    rw [forall_mem_modify_iff hitems hi,
      Edit.takesAway_setButtonField (ButtonField.ofName?_eq_some_iff.mpr hname)]
    exact Button.wellTyped_setField_iff (hitems _ (List.getElem_mem hi))

end Template

/-! ## Runs of revisions -/

/-- What is asked of a template: the edit that a value describes, or the one that sets the field at
a path. -/
inductive Revision where
  | operation (d : Data)
  | field (path value : Data)
  deriving Repr, Inhabited

/-- The command that a revision is read as. -/
def Revision.command : Revision → Except Failure Command
  | .operation d => (Command.read d).result
  | .field path value => Command.ofPathData path value

/-- Whether a revision is read as an edit that takes away the kind or the text of a button. -/
def Revision.takesAway (r : Revision) : Bool :=
  match r.command with
  | .ok c => c.edit.takesAway
  | .error _ => false

namespace Template

variable {t : Template}

theorem wellTyped_draft (category language : String) : (draft category language).WellTyped := by
  refine ⟨nofun, ?_⟩
  rintro _ ⟨⟩
  exact List.forall_mem_nil _

theorem wellTyped_of_draftOf {category language : Data} (h : draftOf category language = .ok t) :
    t.WellTyped := by
  unfold draftOf at h
  dsimp only at h
  generalize ofDetails _ = r at h
  cases r with
  | error e => exact absurd h nofun
  | ok details =>
    obtain rfl := Except.ok.inj h
    exact wellTyped_draft _ _

/-- The template after a revision; one that fails leaves it as it is. -/
def revise (t : Template) (r : Revision) : Template :=
  match r.command with
  | .error _ => t
  | .ok c =>
    match t.apply c.edit with
    | .error _ => t
    | .ok after => after

/-- The template after revisions, one after another. -/
def revised (t : Template) (revisions : List Revision) : Template := revisions.foldl revise t

/-- A revision leaves the template or applies the edit that it is read as. -/
theorem revise_cases (t : Template) (r : Revision) :
    t.revise r = t ∨ ∃ c, r.command = .ok c ∧ t.apply c.edit = .ok (t.revise r) := by
  unfold revise
  cases hcommand : r.command with
  | error e => exact Or.inl rfl
  | ok c =>
    dsimp only
    cases happly : t.apply c.edit with
    | error e => exact Or.inl rfl
    | ok after => exact Or.inr ⟨c, rfl, happly⟩

theorem wellTyped_revise (ht : t.WellTyped) {r : Revision} (hr : r.takesAway = false) :
    (t.revise r).WellTyped := by
  rcases revise_cases t r with hsame | ⟨c, hcommand, happly⟩
  · rw [hsame]
    exact ht
  · refine (apply_wellTyped_iff ht happly).mpr ?_
    rwa [Revision.takesAway, hcommand] at hr

theorem wellTyped_revised (ht : t.WellTyped) {revisions : List Revision}
    (hr : ∀ r ∈ revisions, r.takesAway = false) : (t.revised revisions).WellTyped := by
  induction revisions generalizing t with
  | nil => exact ht
  | cons r rest ih =>
    obtain ⟨hfirst, hrest⟩ := List.forall_mem_cons.mp hr
    exact ih (wellTyped_revise ht hfirst) hrest

/-- **Edits keep templates well-typed as long as they take nothing away.** An edit of a well-typed
template gives a well-typed one exactly if it does not set the kind or the text of a button to
none. A template can be shown exactly if the buttons that it shows are well-typed. So a template
can be shown that comes, by any revisions that take nothing away, from a draft or from a template
that was read. -/
theorem revised_wellTyped (t : Template) :
    (∀ edit after, t.WellTyped → t.apply edit = .ok after →
      (after.WellTyped ↔ edit.takesAway = false)) ∧
    (∀ values, (∃ p, t.preview values = .ok p) ↔ ∀ b ∈ t.shownButtons, b.WellTyped) ∧
    ∀ revisions : List Revision,
      ((∃ category language, draftOf category language = .ok t) ∨
        ∃ d, Template.read d = .value t) →
      (∀ r ∈ revisions, r.takesAway = false) →
      (t.revised revisions).WellTyped ∧
        ∀ values, ∃ p, (t.revised revisions).preview values = .ok p := by
  refine ⟨fun edit after ht h => apply_wellTyped_iff ht h, fun values => preview_ok_iff, ?_⟩
  intro revisions hstart hr
  have ht : t.WellTyped := by
    rcases hstart with ⟨category, language, hdraft⟩ | ⟨d, hread⟩
    · exact wellTyped_of_draftOf hdraft
    · exact wellTyped_of_read hread
  have hrevised : (t.revised revisions).WellTyped := wellTyped_revised ht hr
  exact ⟨hrevised, hrevised.preview⟩

/-- A template that shows one button. -/
def withButton (b : Button) : Template := { orderUpdate with buttons := some ⟨true, [b]⟩ }

theorem wellTyped_withButton_iff {b : Button} : (withButton b).WellTyped ↔ b.WellTyped := by
  constructor
  · exact fun h => h.2 _ rfl b (List.mem_singleton_self b)
  · intro hb
    refine ⟨nofun, ?_⟩
    rintro _ ⟨⟩
    exact List.forall_mem_singleton.mpr hb

/-- A button is added and filled in; a web address is set to none, which is no loss, and what is
not there cannot be changed. -/
def trackingButton : List Revision :=
  [.operation (.object [("op", .str "add_button"), ("type", .str "URL")]),
   .field (.str "buttons.items.0.text") (.str "Track order"),
   .operation (.object [("op", .str "set_button_field"), ("index", .int 0),
     ("field", .str "url"), ("value", .null)]),
   .field (.str "buttons.items.1.text") (.str "Help")]

theorem revised_wellTyped_trackingButton :
    (withButton {}).apply (.setButtonField 0 "text" (some "Yes")) =
      .ok (withButton { text := some "Yes" }) ∧
    (withButton { text := some "Yes" }).WellTyped ∧
    draftOf (.str "UTILITY") .null = .ok (draft "UTILITY" "en") ∧
    (∀ r ∈ trackingButton, r.takesAway = false) ∧
    ((draft "UTILITY" "en").revised trackingButton).buttons =
      some ⟨true, [{ kind := some "URL", text := some "Track order" }]⟩ ∧
    ((draft "UTILITY" "en").revised trackingButton).WellTyped ∧
    ∀ values, ∃ p, ((draft "UTILITY" "en").revised trackingButton).preview values = .ok p := by
  have hdefault : (withButton {}).WellTyped := wellTyped_withButton_iff.mpr ⟨rfl, rfl⟩
  have hset : (withButton {}).apply (.setButtonField 0 "text" (some "Yes")) =
      .ok (withButton { text := some "Yes" }) := rfl
  have hdraft : draftOf (.str "UTILITY") .null = .ok (draft "UTILITY" "en") := by decide +kernel
  have hr : ∀ r ∈ trackingButton, r.takesAway = false := by decide +kernel
  exact ⟨hset, ((revised_wellTyped _).1 _ _ hdefault hset).mpr rfl, hdraft, hr, by decide +kernel,
    (revised_wellTyped _).2.2 trackingButton (Or.inl ⟨_, _, hdraft⟩) hr⟩

/-- The first edit adds a button, the second one sets its text to null. -/
def textToNull : List Revision :=
  [.operation (.object [("op", .str "add_button")]),
   .operation (.object [("op", .str "set_button_field"), ("index", .int 0),
     ("field", .str "text"), ("value", .null)])]

/-- **A text set to null is taken away.** The edit is read and applied without a failure; the
template is not well-typed after it, and it cannot be shown. -/
theorem text_taken_away :
    (withButton {}).WellTyped ∧
    (∃ r ∈ textToNull, ∃ c, r.command = .ok c ∧
      (withButton {}).apply c.edit = .ok (withButton { text := none })) ∧
    ¬ (withButton { text := none }).WellTyped ∧
    orderUpdate.revised textToNull = withButton { text := none } ∧
    ∀ values, (withButton { text := none }).preview values =
      .error (.faulty [⟨[.name "text"], .noText⟩]) := by
  have hcommand : (textToNull.get ⟨1, by decide⟩).command =
      .ok ⟨.setButtonField 0 "text" none, ["field", "index", "op", "value"]⟩ := by
    decide +kernel
  refine ⟨wellTyped_withButton_iff.mpr ⟨rfl, rfl⟩, ⟨_, List.get_mem _ _, _, hcommand, rfl⟩, ?_,
    by decide +kernel, fun _ => rfl⟩
  exact fun h => absurd (wellTyped_withButton_iff.mp h).2 nofun

end Template

end MessageTemplate
