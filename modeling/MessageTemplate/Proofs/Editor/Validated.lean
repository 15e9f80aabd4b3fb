import MessageTemplate.Editor
import Mathlib.Tactic.Common

/-!
# Reports of an editor

* `Editor.Validated` — the report of the editor is the one on its template in its step;
* `Editor.perform_validated` — kept by every action that does not leave a changed editor behind a
  failure;
* `Editor.perform_unchanged` — an action that fails changes the editor only if there is no report
  on the template that it leaves behind.
-/

set_option autoImplicit false

namespace MessageTemplate.Editor

/-- The report of the editor is the one on its template in its step. -/
def Validated (e : Editor) : Prop := e.template.validate e.step = .ok e.validation

/-! ## Parts of actions -/

/-- Making the report anew fails only for want of a report. -/
theorem revalidate_eq (e : Editor) :
    (∃ r, e.template.validate e.step = .ok r ∧
      e.revalidate = { editor := { e with validation := r } }) ∨
    (∃ failure, e.template.validate e.step = .error failure ∧
      e.revalidate = { editor := e, failure := some failure }) := by
  unfold revalidate
  cases h : e.template.validate e.step with
  | ok r => exact Or.inl ⟨r, rfl, rfl⟩
  | error failure => exact Or.inr ⟨failure, rfl, rfl⟩

theorem edit_eq_ok {e after : Editor} {edit : Edit} (h : e.edit edit = .ok after) :
    ∃ t r, e.template.apply edit = .ok t ∧ t.validate e.step = .ok r ∧
      after = { e with template := t, past := e.template :: e.past, validation := r } := by
  unfold Editor.edit at h
  split at h
  · cases h
  · rename_i t ht
    split at h
    · cases h
    · rename_i r hr
      cases h
      exact ⟨t, r, ht, hr, rfl⟩

/-- A command either fails and changes nothing, or becomes an edit of the editor. -/
theorem dispatch_cases (e : Editor) (command : Except Failure Command) :
    ((e.dispatch command).editor = e ∧ (e.dispatch command).failure ≠ none) ∨
    (∃ c, command = .ok c ∧ e.edit c.edit = .ok (e.dispatch command).editor ∧
      (e.dispatch command).failure = none) := by
  unfold dispatch
  split
  · exact Or.inl ⟨rfl, by simp⟩
  · rename_i c
    split
    · exact Or.inl ⟨rfl, by simp⟩
    · rename_i after hafter
      exact Or.inr ⟨c, rfl, hafter, rfl⟩

theorem setStep_eq_ok {e after : Editor} {step : Data} (h : e.setStep step = .ok after) :
    ∃ r, e.template.validate step = .ok r ∧ after = { e with step := step, validation := r } := by
  unfold setStep at h
  split at h
  · rename_i r hr
    cases h
    exact ⟨r, hr, rfl⟩
  · cases h

theorem validated_revalidate {e : Editor} (h : e.revalidate.failure = none) :
    e.revalidate.editor.Validated := by
  rcases revalidate_eq e with ⟨r, hr, heq⟩ | ⟨failure, _, heq⟩
  · rw [heq]
    exact hr
  · rw [heq] at h
    cases h

theorem revalidate_failure {e : Editor} (h : e.revalidate.failure ≠ none) :
    ∀ r, e.revalidate.editor.template.validate e.revalidate.editor.step ≠ .ok r := by
  intro r hr
  rcases revalidate_eq e with ⟨_, _, heq⟩ | ⟨failure, hf, heq⟩
  · rw [heq] at h
    exact h rfl
  · rw [heq] at hr
    rw [hf] at hr
    cases hr

theorem validated_dispatch {e : Editor} (command : Except Failure Command) (he : e.Validated) :
    (e.dispatch command).editor.Validated := by
  rcases dispatch_cases e command with ⟨h, _⟩ | ⟨c, _, h, _⟩
  · rw [h]
    exact he
  · obtain ⟨t, r, _, hr, heq⟩ := edit_eq_ok h
    rw [heq]
    exact hr

theorem dispatch_unchanged {e : Editor} {command : Except Failure Command}
    (h : (e.dispatch command).failure ≠ none) : (e.dispatch command).editor = e := by
  rcases dispatch_cases e command with ⟨heq, _⟩ | ⟨_, _, _, hnone⟩
  · exact heq
  · exact absurd hnone h

/-! ## Actions -/

theorem start_validated {t : Template} {step : Data} {e : Editor} (h : start t step = .ok e) :
    e.Validated := by
  unfold start at h
  split at h
  · rename_i r hr
    cases h
    exact hr
  · cases h

/-- **An action keeps the report in line with the template and the step**, unless it leaves a
changed editor behind a failure. -/
theorem perform_validated {e : Editor} (he : e.Validated) (a : Action)
    (hclean : (e.perform a).failure ≠ none → (e.perform a).editor = e) :
    (e.perform a).editor.Validated := by
  by_cases hf : (e.perform a).failure = none
  · cases a with
    | dispatch operation => exact validated_dispatch _ he
    | update path value => exact validated_dispatch _ he
    | undo =>
      simp only [perform, undo] at hf ⊢
      split at hf
      · cases hf
      · exact validated_revalidate hf
    | setStep step =>
      simp only [perform] at hf ⊢
      split at hf
      · rename_i after hafter
        obtain ⟨r, hr, rfl⟩ := setStep_eq_ok hafter
        exact hr
      · cases hf
    | markSaved id => exact validated_revalidate hf
  · rw [hclean hf]
    exact he

/-- **A failure leaves a changed editor behind only without a report** on the template and the
step that it has then. -/
theorem perform_unchanged {e : Editor} {a : Action} (hf : (e.perform a).failure ≠ none)
    (hr : ∃ r, (e.perform a).editor.template.validate (e.perform a).editor.step = .ok r) :
    (e.perform a).editor = e := by
  obtain ⟨r, hr⟩ := hr
  cases a with
  | dispatch operation => exact dispatch_unchanged hf
  | update path value => exact dispatch_unchanged hf
  | undo =>
    simp only [perform, undo] at hf hr ⊢
    split at hf
    · rfl
    · rename_i t past hp
      simp only [hp] at hr
      exact absurd hr (revalidate_failure hf r)
  | setStep step =>
    simp only [perform] at hf ⊢
    split at hf
    · exact absurd rfl hf
    · rfl
  | markSaved id => exact absurd hr (revalidate_failure hf r)

/-- Only a change of the step changes the step. -/
theorem perform_step (e : Editor) {a : Action} (ha : ∀ step, a ≠ .setStep step) :
    (e.perform a).editor.step = e.step := by
  have hrevalidate : ∀ e' : Editor, e'.revalidate.editor.step = e'.step := by
    intro e'
    rcases revalidate_eq e' with ⟨_, _, heq⟩ | ⟨_, _, heq⟩ <;> rw [heq]
  have hdispatch : ∀ command, (e.dispatch command).editor.step = e.step := by
    intro command
    rcases dispatch_cases e command with ⟨h, _⟩ | ⟨c, _, h, _⟩
    · rw [h]
    · obtain ⟨t, r, _, _, heq⟩ := edit_eq_ok h
      rw [heq]
  cases a with
  | dispatch operation => exact hdispatch _
  | update path value => exact hdispatch _
  | undo =>
    simp only [perform, undo]
    split
    · rfl
    · exact hrevalidate _
  | setStep step => exact absurd rfl (ha step)
  | markSaved id => exact hrevalidate _

end MessageTemplate.Editor
