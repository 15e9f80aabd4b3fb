import MessageTemplate.Preview
import MessageTemplate.Proofs.Component.RoundTrip
import MessageTemplate.Proofs.Edit.WellTyped
import MessageTemplate.Proofs.Variable.Filling

/-!
# The preview of what a submission keeps

A template that was sent and read again has lost something, but nothing that is seen.

* `HeaderPreview.Alike`, `ButtonPreview.Alike`, `Preview.Alike` — previews that differ in nothing
  but the media of a header and what a button of its kind has no use for;
* `Template.preview_kept` — the preview of what is kept is alike, with any live values;
* `Template.preview_ofSubmission` — the same for the template that is read from a submission.
-/

set_option autoImplicit false

namespace MessageTemplate

/-! ## Alike previews -/

/-- Headers of one format with the same text; only the media of a media header may differ. -/
structure HeaderPreview.Alike (p q : HeaderPreview) : Prop where
  format : p.format = q.format
  text : p.text = q.text
  spans : p.spans = q.spans
  textHeader : p.format = HeaderFormat.text.word → p = q

/-- Buttons of one kind with the same text and the same target, as far as their kind has one. -/
structure ButtonPreview.Alike (p q : ButtonPreview) : Prop where
  kind : p.kind = q.kind
  text : p.text = q.text
  url : p.kind = ButtonKind.url.word → p.url = q.url
  phoneNumber : p.kind = ButtonKind.phoneNumber.word → p.phoneNumber = q.phoneNumber
  sample : p.kind = ButtonKind.copyCode.word → given? p.sample = given? q.sample

/-- Messages that look the same. -/
structure Preview.Alike (p q : Preview) : Prop where
  header : Option.Rel HeaderPreview.Alike p.header q.header
  body : p.body = q.body
  footer : p.footer = q.footer
  buttons : List.Forall₂ ButtonPreview.Alike p.buttons q.buttons

theorem HeaderPreview.Alike.refl (p : HeaderPreview) : p.Alike p := ⟨rfl, rfl, rfl, fun _ => rfl⟩

/-! ## Parts -/

namespace Header

variable {h : Header}

theorem textPreview_kept (hon : h.enabled = true) (hf : h.format? = some .text)
    (values : Option LiveValues) : h.kept.textPreview values = h.textPreview values := by
  have hkept := kept_of_text hon hf
  have hfilled : Variable.substitute h.text (h.kept.valuesFor values) =
      Variable.substitute h.text (h.valuesFor values) := by
    by_cases htokens : Variable.tokens h.text = []
    · exact Variable.substitute_of_tokens_eq_nil htokens _ _
    · rw [hkept]
      simp [valuesFor, htokens]
  have htext : h.kept.text = h.text := by rw [hkept]
  unfold textPreview
  rw [htext, format_kept hon, hfilled]

/-- Media may be lost, but not that they are shown. -/
theorem mediaPreview_alike {h k : Header} (hformat : h.format = k.format)
    (hmedia : h.format ≠ HeaderFormat.text.word) (f f' : HeaderFormat) :
    (h.mediaPreview f).Alike (k.mediaPreview f') :=
  ⟨hformat, rfl, rfl, fun htext => absurd htext hmedia⟩

/-- The header that is kept looks the same. -/
theorem preview_kept (h : Header) (values : Option LiveValues) :
    Option.Rel HeaderPreview.Alike (h.preview values) (h.kept.preview values) := by
  unfold preview
  rw [enabled_kept]
  cases hon : h.enabled with
  | false => exact .none
  | true =>
    rw [format?_kept hon]
    cases hf : h.format? with
    | none => exact .none
    | some format =>
      by_cases htext : format = .text
      · subst htext
        simp only [textPreview_kept hon hf]
        cases h.textPreview values with
        | none => exact .none
        | some p => exact .some (.refl p)
      · have hmedia : h.format ≠ HeaderFormat.text.word := fun hword =>
          htext (Option.some.inj (hf.symm.trans (HeaderFormat.ofWord?_eq_some_iff.mpr hword)))
        cases format with
        | text => exact absurd rfl htext
        | _ => exact .some (mediaPreview_alike (format_kept hon).symm hmedia _ _)

end Header

theorem Body.preview_kept (b : Body) (values : Option LiveValues) :
    b.kept.preview values = b.preview values := by
  unfold Body.preview
  congr 1
  by_cases htokens : Variable.tokens b.text = []
  · exact Variable.substitute_of_tokens_eq_nil htokens _ _
  · simp [kept, htokens]

theorem Footer.preview_kept (f : Footer) : f.kept.preview = f.preview := by
  unfold kept
  split
  · rename_i hsent
    have hshown : f.enabled = true ∧ f.text ≠ "" := by simpa using hsent
    simp [preview, hshown]
  · rename_i hoff
    simpa [preview] using hoff

namespace Button

/-- What is shown of a button is what it has. -/
theorem preview_eq_value_iff {b : Button} {p : ButtonPreview} :
    b.preview = .value p ↔ b.kind = some p.kind ∧ b.text = some p.text ∧ b.url = p.url ∧
      b.phoneNumber = p.phoneNumber ∧ b.sample = p.sample := by
  obtain ⟨kind, text, url, phoneNumber, sample⟩ := p
  unfold preview
  cases b.kind <;> cases b.text <;> simp [needed, Reading.ap]

/-- The button that is kept looks the same. -/
theorem preview_kept {b : Button} {p : ButtonPreview} (h : b.preview = .value p) :
    ∃ q, b.kept.preview = .value q ∧ p.Alike q := by
  obtain ⟨hkind, htext, hurl, hphone, hsample⟩ := preview_eq_value_iff.mp h
  refine ⟨⟨p.kind, p.text, b.kept.url, b.kept.phoneNumber, b.kept.sample⟩,
    preview_eq_value_iff.mpr ⟨hkind, htext, rfl, rfl, rfl⟩, rfl, rfl, ?_, ?_, ?_⟩
  · intro hword
    simp [kept, hkind, hword, hurl]
  · intro hword
    simp [kept, hkind, hword, hphone]
  · intro hword
    simp [kept, hkind, hword, hsample]

theorem previewAll_kept {bs : List Button} {ps : List ButtonPreview} (h : previewAll bs = .ok ps) :
    ∃ qs, previewAll (bs.map kept) = .ok qs ∧ List.Forall₂ ButtonPreview.Alike ps qs := by
  induction bs generalizing ps with
  | nil =>
    cases h
    exact ⟨[], rfl, .nil⟩
  | cons b rest ih =>
    unfold previewAll at h
    split at h
    · cases h
    · rename_i p hp
      split at h
      · cases h
      · rename_i ps' hps
        cases h
        obtain ⟨q, hq, halike⟩ := preview_kept hp
        obtain ⟨qs, hqs, hall⟩ := ih hps
        refine ⟨q :: qs, ?_, .cons halike hall⟩
        rw [List.map_cons, previewAll, hq, hqs]

end Button

/-! ## Templates -/

namespace Template

variable {t : Template} {values : Option LiveValues}

theorem shownButtons_kept (t : Template) :
    t.kept.shownButtons = t.shownButtons.map Button.kept := by
  unfold shownButtons kept buttonsOrDefault ButtonSet.kept
  cases t.buttons with
  | none => rfl
  | some set =>
    cases hon : set.enabled <;> cases hitems : set.items <;> simp [hon, hitems]

/-- **What is kept of a template looks the same**, with any live values. -/
theorem preview_kept {p : Preview} (h : t.preview values = .ok p) :
    ∃ q, t.kept.preview values = .ok q ∧ p.Alike q := by
  obtain ⟨hheader, hbody, hfooter, hbuttons⟩ := preview_parts h
  obtain ⟨buttons, hkept, halike⟩ := Button.previewAll_kept hbuttons
  rw [← shownButtons_kept] at hkept
  refine ⟨_, by rw [preview, hkept], ⟨?_, ?_, ?_, halike⟩⟩
  · have hdefault : t.header.bind (Header.preview values) = t.headerOrDefault.preview values :=
      bind_eq_apply_getD rfl _
    rw [hheader, hdefault]
    exact t.headerOrDefault.preview_kept values
  · rw [hbody, ← Body.preview_kept]
    rfl
  · have hdefault : t.footer.bind Footer.preview = t.footerOrDefault.preview :=
      bind_eq_apply_getD rfl _
    rw [hfooter, hdefault, ← Footer.preview_kept]
    rfl

/-- **A template looks the same after it was sent and read again**: for every template whose buttons
have a kind and a text, valid or not, and any live values. -/
theorem preview_ofSubmission (ht : t.WellTyped) :
    ∃ r, ofSubmission t.submission = .ok r ∧ ∀ values, ∃ p q, t.preview values = .ok p ∧
      r.preview values = .ok q ∧ p.Alike q := by
  refine ⟨_, ofComponents_components ht none, fun values => ?_⟩
  obtain ⟨p, hp⟩ := ht.preview values
  obtain ⟨q, hq, halike⟩ := preview_kept hp
  exact ⟨p, q, hp, hq, halike⟩

/-- A template with a document, of which the handle is sent and the address is not. -/
def invoice : Template :=
  { orderUpdate with
    header := some
      { enabled := true, format := "DOCUMENT", mediaUrl := some "https://a.example/invoice.pdf",
        mediaHandle := some "4::aW", filename := some "invoice.pdf" }
    body := ⟨"Your invoice *{{1}}* for {{2}}.", ["#42"]⟩
    footer := some { enabled := false, text := "Thank you" }
    buttons := some
      { enabled := true
        items := [{ kind := some "COPY_CODE", text := some "Copy", url := some "x",
                    sample := some "" }] } }

theorem preview_ofSubmission_invoice :
    invoice.WellTyped ∧ ∃ r p q, ofSubmission invoice.submission = .ok r ∧
      invoice.preview (some { body := some ["7"] }) = .ok p ∧
      r.preview (some { body := some ["7"] }) = .ok q ∧ p.Alike q ∧
      q.body.text = "Your invoice *7* for [Variable 2]." := by
  have ht : invoice.WellTyped := ⟨nofun, by decide⟩
  obtain ⟨r, hr, halike⟩ := preview_ofSubmission ht
  obtain ⟨p, q, hp, hq, halike⟩ := halike (some { body := some ["7"] })
  refine ⟨ht, r, p, q, hr, hp, hq, halike, ?_⟩
  rw [← halike.body, (preview_parts hp).2.1]
  decide +kernel

end Template

end MessageTemplate
