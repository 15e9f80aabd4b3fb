import MessageTemplate.Proofs.Editor.Run
import Mathlib.Data.List.Infix

/-!
# Actions of an editor that fail

An action fails if there is no command, edit, step or past for it, or if there is no report on the
template that it makes current.

* `Editor.failed_action` — a failure leaves the editor as it was, but for undoing an edit without
  which there is no report;
* `Editor.stale_after_undo` — which leaves a template behind that the report is not about;
* `Editor.validated_run` — over readable templates the report is up to date in every run.
-/

set_option autoImplicit false

namespace MessageTemplate.Editor

/-! ## One action -/

/-- Undoing fails in the middle: the snapshot is current, but there is no report on it. -/
theorem failed_undo {e : Editor} {t : Template} {past : List Template} (h : e.past = t :: past)
    (hf : (e.perform .undo).failure ≠ none) :
    (∃ failure, t.validate e.step = .error failure) ∧
      (e.perform .undo).editor = { e with template := t, past := past } := by
  rw [perform_undo h] at hf ⊢
  rcases revalidate_eq { e with template := t, past := past } with
    ⟨r, _, heq⟩ | ⟨failure, herror, heq⟩
  · rw [heq] at hf
    exact absurd rfl hf
  · rw [heq]
    exact ⟨⟨failure, herror⟩, rfl⟩

/-- No other failure changes the editor. -/
theorem failed_unchanged {e : Editor} {a : Action} (ha : ∀ id, a ≠ .markSaved id)
    (hundo : a ≠ .undo) (hf : (e.perform a).failure ≠ none) : (e.perform a).editor = e := by
  cases a with
  | dispatch operation => exact dispatch_unchanged hf
  | update path value => exact dispatch_unchanged hf
  | setStep step =>
    simp only [perform] at hf ⊢
    split at hf
    · exact absurd rfl hf
    · rfl
  | undo => exact absurd rfl hundo
  | markSaved id => exact absurd rfl (ha id)

/-- **A failure leaves the editor as it was**, unless it comes from undoing an edit: then the
snapshot before the edit is current, there is no report on it in the step of the editor, and the
report is still the one on the template that was undone. -/
theorem failed_action {e : Editor} {a : Action} (ha : ∀ id, a ≠ .markSaved id)
    (hf : (e.perform a).failure ≠ none) :
    ((e.perform a).editor = e ↔ (a = .undo → e.past = [])) ∧
      (a = .undo → ∀ t past, e.past = t :: past →
        (∃ failure, t.validate e.step = .error failure) ∧
          (e.perform a).editor = { e with template := t, past := past }) := by
  by_cases hundo : a = .undo
  · subst hundo
    refine ⟨?_, fun _ t past hp => failed_undo hp hf⟩
    cases hp : e.past with
    | nil =>
      refine iff_of_true ?_ fun _ => rfl
      simp only [perform, undo, hp]
    | cons t past =>
      have hne : (e.perform .undo).editor ≠ e := by
        rw [(failed_undo hp hf).2]
        intro heq
        have hlength := congrArg (fun e => e.past.length) heq
        simp [hp] at hlength
      exact iff_of_false hne fun h => List.cons_ne_nil t past (h rfl)
  · have hsame := failed_unchanged ha hundo hf
    exact ⟨iff_of_true hsame fun h => absurd h hundo, fun h => absurd h hundo⟩

/-! ## Undoing an overlong text -/

/-- An editor of a template whose header is a single variable of the digits. -/
def withHeaderVariable (digits : List Char) : Editor where
  template := .withHeaderVariable digits
  step := .int 1
  validation := ⟨true, [], []⟩

theorem start_withHeaderVariable (digits : List Char) :
    start (.withHeaderVariable digits) (.int 1) = .ok (withHeaderVariable digits) := by
  have hvalidate : (Template.withHeaderVariable digits).validate (.int 1) = .ok ⟨true, [], []⟩ :=
    Template.report_details_withHeaderVariable digits
  unfold start
  rw [hvalidate]
  rfl

/-- A short header instead, and on to the content. -/
def shortened : List Action :=
  [.update (.str "header.text") (.str "Order update"), .setStep (.int 2)]

/-- The template with the short header. -/
def shortHeader : Template :=
  { Template.orderUpdate with
    header := some { enabled := true, format := "TEXT", text := "Order update" } }

theorem run_shortened (digits : List Char) :
    (withHeaderVariable digits).run shortened =
      { template := shortHeader, past := [.withHeaderVariable digits], step := .int 2,
        validation := ⟨true, [], []⟩ } := by
  have hcommand : Command.ofPathData (.str "header.text") (.str "Order update") =
      .ok ⟨.setHeaderText "Order update", ["value"]⟩ := by decide +kernel
  have happly : (Template.withHeaderVariable digits).apply (.setHeaderText "Order update") =
      .ok shortHeader := rfl
  have hdetails : shortHeader.validate (.int 1) = .ok ⟨true, [], []⟩ := by decide +kernel
  have hcontent : shortHeader.validate (.int 2) = .ok ⟨true, [], []⟩ := by decide +kernel
  have hedit : (withHeaderVariable digits).edit (.setHeaderText "Order update") =
      .ok { template := shortHeader, past := [.withHeaderVariable digits], step := .int 1,
            validation := ⟨true, [], []⟩ } := by
    simp only [Editor.edit, withHeaderVariable, happly, hdetails]
  simp only [shortened, run, List.foldl_cons, List.foldl_nil, next, perform, hcommand, dispatch,
    hedit, setStep, hcontent]

theorem undo_shortened_failure {digits : List Char} (hd : digits.all Text.isDecimalDigit = true)
    (hl : Text.numeralLimit < digits.length) :
    (((withHeaderVariable digits).run shortened).perform .undo).failure ≠ none := by
  obtain ⟨failure, hcontent⟩ := Template.report_content_withHeaderVariable hd hl
  have hvalidate : (Template.withHeaderVariable digits).validate (.int 2) = .error failure :=
    hcontent
  rw [run_shortened, perform_undo rfl]
  simp [revalidate, hvalidate]

/-- Undoing the short header fails, and the overlong one is current. -/
theorem failed_action_shortened :
    (((withHeaderVariable Variable.overlongDigits).run shortened).perform .undo).editor =
      { template := .withHeaderVariable Variable.overlongDigits, step := .int 2,
        validation := ⟨true, [], []⟩ } := by
  have hfailed := undo_shortened_failure Variable.overlongDigits_decimal
    Variable.overlongDigits_length
  have hundone := ((failed_action (a := .undo) nofun hfailed).2 rfl
    (.withHeaderVariable Variable.overlongDigits) [] (by rw [run_shortened])).2
  rw [hundone, run_shortened]

/-- **A failure leaves a changed editor behind**: undoing an edit in a run takes the edit back and
fails, and the report is that on a template that is not there any more. -/
theorem stale_after_undo :
    start (.withHeaderVariable Variable.overlongDigits) (.int 1) =
        .ok (withHeaderVariable Variable.overlongDigits) ∧
      (((withHeaderVariable Variable.overlongDigits).run shortened).perform .undo).failure ≠
        none ∧
      (((withHeaderVariable Variable.overlongDigits).run shortened).perform .undo).editor ≠
        (withHeaderVariable Variable.overlongDigits).run shortened ∧
      ¬ (((withHeaderVariable Variable.overlongDigits).run shortened).perform
        .undo).editor.Validated := by
  have hfailed := undo_shortened_failure Variable.overlongDigits_decimal
    Variable.overlongDigits_length
  have hpast : ((withHeaderVariable Variable.overlongDigits).run shortened).past =
      [.withHeaderVariable Variable.overlongDigits] := by rw [run_shortened]
  obtain ⟨⟨failure, herror⟩, hundone⟩ := failed_undo hpast hfailed
  refine ⟨start_withHeaderVariable _, hfailed, ?_, ?_⟩
  · intro hsame
    rw [← hsame, hundone] at hpast
    cases hpast
  · unfold Validated
    rw [hundone]
    intro hvalid
    cases herror.symm.trans hvalid

/-! ## Readable templates -/

/-- A step that has a report on one template has one on every readable template. -/
theorem validate_of_readable {t t' : Template} {step : Data} {r : Report}
    (h : t.validate step = .ok r) (ht : t'.Readable) : ∃ r', t'.validate step = .ok r' := by
  unfold Template.validate at h ⊢
  cases hs : Step.ofData step with
  | error failure =>
    rw [hs] at h
    cases h
  | ok s => exact Template.report_of_readable ht s

/-- A failure leaves the editor as it was if the template afterwards is readable. -/
theorem unchanged_of_readable {e : Editor} (he : e.Validated) {a : Action}
    (hr : (e.next a).template.Readable) (hf : (e.perform a).failure ≠ none) : e.next a = e := by
  by_cases ha : ∃ step, a = .setStep step
  · obtain ⟨step, rfl⟩ := ha
    have hunchanged := (failed_action (a := .setStep step) nofun hf).1
    exact hunchanged.mpr nofun
  · apply perform_unchanged hf
    have hstep := perform_step e fun step h => ha ⟨step, h⟩
    rw [hstep]
    exact validate_of_readable he hr

/-- **No report is stale**: over readable templates an editor that begins in a step has the report
on its template in its step after every action of every run, failed ones included. -/
theorem validated_run {t : Template} {step : Data} {s : Step} (hs : Step.ofData step = .ok s)
    (ht : t.Readable) :
    ∃ e, start t step = .ok e ∧ ∀ actions : List Action,
      (∀ before, before <+: actions → (e.run before).template.Readable) →
      (e.run actions).Validated := by
  obtain ⟨r, hr⟩ := Template.report_of_readable ht s
  have hvalidate : t.validate step = .ok r := by
    unfold Template.validate
    rw [hs]
    exact hr
  have hstart : start t step = .ok { template := t, step := step, validation := r } := by
    unfold start
    rw [hvalidate]
  refine ⟨_, hstart, ?_⟩
  intro actions hreadable
  induction actions using List.reverseRecOn with
  | nil => exact start_validated hstart
  | append_singleton actions a ih =>
    have hbefore := ih fun before h => hreadable before (h.trans (List.prefix_append _ _))
    have hafter := hreadable _ (List.prefix_refl _)
    rw [run_concat] at hafter ⊢
    exact perform_validated hbefore a (unchanged_of_readable hbefore hafter)

/-- A path that there is not, nothing to undo, a step that there is not, another name for a stored
template, and an edit that is undone in another step. -/
def stumbles : List Action :=
  [.update (.str "header.colour") (.str "red"), .undo, .setStep (.int 9),
   .markSaved (some (.text "tpl_1")), .update (.str "name") (.str "late_order"),
   .update (.str "body.text") (.str "Your order {{1}} is late."), .setStep (.int 2), .undo]

/-- The report after them is up to date. -/
theorem validated_run_stumbles : (opened.run stumbles).Validated := by
  have hstep : Step.ofData (.int 1) = .ok .details := rfl
  have hreadable : Template.orderUpdate.Readable := by decide +kernel
  obtain ⟨e, hstart, hvalidated⟩ := validated_run hstep hreadable
  cases hstart.symm.trans start_opened
  apply hvalidated
  intro before h
  have hall : ∀ b ∈ List.inits stumbles, (opened.run b).template.Readable := by decide +kernel
  exact hall before (List.mem_inits _ _ |>.mpr h)

end MessageTemplate.Editor
