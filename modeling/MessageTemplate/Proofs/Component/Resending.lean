import MessageTemplate.Proofs.Component.RoundTrip

/-!
# Sending again

What is kept of a template is sent as the template itself was: each part drops at most what its
component does not hold.

* `Header.component?_kept`, `Body.component_kept`, `Footer.component?_kept`,
  `ButtonSet.component?_kept` — part by part;
* `Template.submission_kept` — for a whole template, whether it can be read again or not.
-/

set_option autoImplicit false

namespace MessageTemplate

namespace Header

variable {h : Header}

/-- The sample of a text is sent only if the text has a variable. -/
theorem textSample_eq (h : Header) :
    h.textSample = ((if Variable.tokens h.text = [] then none else given? h.sample).map
      fun s => ("example", Data.object [("header_text", .list [.str s])])).toList := by
  unfold textSample
  by_cases htokens : Variable.tokens h.text = []
  · have hoccurs := Variable.occurs_eq_false_iff.mpr htokens
    cases given? h.sample <;> simp [hoccurs, htokens]
  · have hoccurs := Variable.occurs_iff.mpr htokens
    cases given? h.sample <;> simp [hoccurs, htokens]

/-- Of handle and address one is sent. -/
theorem mediaSample_eq (h : Header) :
    h.mediaSample = (h.mediumSent?.map
      fun s => ("example", Data.object [("header_handle", .list [.str s])])).toList := by
  unfold mediaSample mediumSent?
  cases given? h.mediaHandle <;> cases given? h.mediaUrl <;> rfl

theorem given?_mediumSent? (h : Header) : given? h.mediumSent? = h.mediumSent? := by
  unfold mediumSent?
  split
  · rename_i handle hhandle
    rw [← hhandle, given?_given?]
  · exact given?_given? _

theorem textSample_kept (hon : h.enabled = true) (hf : h.format? = some .text) :
    h.kept.textSample = h.textSample := by
  rw [textSample_eq, textSample_eq, kept_of_text hon hf]
  by_cases htokens : Variable.tokens h.text = [] <;> simp [htokens]

/-- The sample comes back in one of the two slots, and is sent again from there. -/
theorem mediaSample_kept {f : HeaderFormat} (hon : h.enabled = true) (hf : h.format? = some f)
    (hne : f ≠ .text) : h.kept.mediaSample = h.mediaSample := by
  have hsent : h.kept.mediumSent? = h.mediumSent? := by
    have hgiven := h.given?_mediumSent?
    rw [kept_of_medium hon hf hne, mediumSent?]
    cases hmedium : h.mediumSent? with
    | none => rfl
    | some s =>
      rw [hmedium] at hgiven
      cases haddress : isWebAddress s <;> simp [Option.filter_some, haddress, hgiven]
  rw [mediaSample_eq, mediaSample_eq, hsent]

theorem content_kept (hon : h.enabled = true) : h.kept.content = h.content := by
  unfold content
  rw [format?_kept hon]
  cases hf : h.format? with
  | none => rfl
  | some f =>
    by_cases htext : f = .text
    · subst htext
      have hkept : h.kept.text = h.text := by rw [kept_of_text hon hf]
      simp only [textSample_kept hon hf, hkept]
    · cases f with
      | text => exact absurd rfl htext
      | _ => exact mediaSample_kept hon hf htext

/-- What is kept of a header is sent as the header was. -/
theorem component?_kept (h : Header) : h.kept.component? = h.component? := by
  unfold component?
  rw [enabled_kept]
  by_cases hon : h.enabled = true
  · rw [format_kept hon, content_kept hon]
  · rw [if_neg hon, if_neg hon]

end Header

theorem Body.component_kept (b : Body) : b.kept.component = b.component := by
  by_cases htokens : Variable.tokens b.text = []
  · have hoccurs := Variable.occurs_eq_false_iff.mpr htokens
    simp [component, sampleMembers, kept, hoccurs]
  · simp [kept, htokens]

theorem Footer.component?_kept (f : Footer) : f.kept.component? = f.component? := by
  unfold kept
  split
  · rename_i hsent
    have hshown : f.enabled = true ∧ f.text ≠ "" := by simpa using hsent
    simp [component?, hshown]
  · rename_i hoff
    simpa [component?] using hoff

namespace Button

/-- A button sends what its kind is for, and keeps it. -/
theorem entry_kept (b : Button) : b.kept.entry = b.entry := by
  have hkind : b.kept.kind? = b.kind? := rfl
  have haction : b.kept.action = b.action := by
    unfold action
    rw [hkind]
    cases hk : b.kind? with
    | none => rfl
    | some k =>
      obtain ⟨word, hword, hk⟩ := Option.bind_eq_some_iff.mp hk
      obtain rfl := ButtonKind.ofWord?_eq_some_iff.mp hk
      cases k <;> simp [kept, hword]
  unfold entry
  rw [haction]
  rfl

end Button

theorem ButtonSet.component?_kept (set : ButtonSet) : set.kept.component? = set.component? := by
  unfold kept
  split
  · rename_i hsent
    have hshown : set.enabled = true ∧ set.items ≠ [] := by simpa using hsent
    simp [component?, hshown, Function.comp_def, Button.entry_kept]
  · rename_i hoff
    simpa [component?] using hoff

namespace Template

/-- **What is kept of a template is sent as the template was.** -/
theorem submission_kept (t : Template) : t.kept.submission = t.submission := by
  have hheader : t.header.bind Header.component? = t.headerOrDefault.component? :=
    bind_eq_apply_getD rfl _
  have hfooter : t.footer.bind Footer.component? = t.footerOrDefault.component? :=
    bind_eq_apply_getD rfl _
  have hbuttons : t.buttons.bind ButtonSet.component? = t.buttonsOrDefault.component? :=
    bind_eq_apply_getD rfl _
  have hcomponents : t.kept.components =
      t.headerOrDefault.kept.component?.toList ++ [t.body.kept.component] ++
        t.footerOrDefault.kept.component?.toList ++ t.buttonsOrDefault.kept.component?.toList :=
    rfl
  rw [Header.component?_kept, Body.component_kept, Footer.component?_kept,
    ButtonSet.component?_kept, ← hheader, ← hfooter, ← hbuttons] at hcomponents
  rw [submission, hcomponents]
  rfl

theorem submission_keptAs (t : Template) (id : Option String) :
    (t.keptAs id).submission = t.submission :=
  t.submission_kept

end Template

end MessageTemplate
