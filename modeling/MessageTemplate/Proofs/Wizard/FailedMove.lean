import MessageTemplate.Proofs.Wizard.Gate

/-!
# Moves that fail

A move fails if there is no report on the template in the step that it enters, or if it goes to a
value that names no step.

* `Wizard.editor_of_failed_move` — the editor stays as it was;
* `Wizard.failed_move_iff` — the steps do so only for a move to the current step, or to none;
* `Session.failed_move_run` — both at the end of every run, and what is left of the gate;
* `Session.advance_past_overlong` — a failed move that opens the gate.
-/

set_option autoImplicit false

namespace MessageTemplate

namespace Wizard

variable {w : Wizard} {a : Action} {dashboard : Option Dashboard} {t : Traffic}

theorem entering_of_error {s : Step} {e : Failure} (h : w.template.report s = .error e) :
    w.entering s = { w with current := s, furthest := later w.furthest s } := by
  unfold entering
  rw [h]

/-- A move that fails either enters a step in which there is no report, and only the steps of the
wizard change, or goes to a value and enters no step. -/
theorem failed_move_cases (ha : a.IsMove)
    (hf : ∃ i, (w.perform dashboard t a).result = .error i) :
    (∃ s, w.target? a = some s ∧ (w.perform dashboard t a).wizard =
      { w with current := s, furthest := later w.furthest s }) ∨
    (w.target? a = none ∧ (∃ step, a = .goTo step) ∧ (w.perform dashboard t a).wizard = w) := by
  cases h : w.target? a with
  | some s =>
    rw [perform_of_target h] at hf ⊢
    obtain ⟨heq, hfail⟩ := moveTo_eq w t s
    obtain ⟨e, he⟩ := hfail.mp hf
    rw [heq]
    exact Or.inl ⟨s, rfl, entering_of_error he⟩
  | none =>
    obtain ⟨hsame, hgo, _⟩ := perform_of_no_target ha h dashboard t
    exact Or.inr ⟨rfl, hgo hf, hsame⟩

/-- A move that fails leaves the template, its history, the step of the editor and the report as
they were. -/
theorem editor_of_failed_move (ha : a.IsMove)
    (hf : ∃ i, (w.perform dashboard t a).result = .error i) :
    (w.perform dashboard t a).wizard.editor = w.editor := by
  rcases failed_move_cases ha hf with ⟨s, _, h⟩ | ⟨_, _, h⟩ <;> rw [h]

/-- The next step and the step before are not the current one. -/
theorem target_ne_current {s : Step} (ha : ¬ ∃ step, a = .goTo step) (h : w.target? a = some s) :
    s ≠ w.current := by
  rintro rfl
  rcases (isMove_of_target h).cases with rfl | rfl | hgo
  · simp only [target?] at h
    split at h
    · have := Step.number_next h
      omega
    · cases h
  · have := Step.number_previous (s := w.current) (r := w.current) h
    omega
  · exact ha hgo

/-- **A move that fails leaves the wizard as it was** exactly if it goes to the current step or to
a value that names no step. -/
theorem failed_move_iff (hw : w.current.number ≤ w.furthest.number) (ha : a.IsMove)
    (hf : ∃ i, (w.perform dashboard t a).result = .error i) :
    (w.perform dashboard t a).wizard = w ↔
      ∃ step, a = .goTo step ∧ ∀ s, w.target? (.goTo step) = some s → s = w.current := by
  rcases failed_move_cases ha hf with ⟨s, hs, h⟩ | ⟨hs, ⟨step, rfl⟩, h⟩
  · rw [h]
    constructor
    · intro heq
      have hcurrent : s = w.current := congrArg Wizard.current heq
      by_cases hgo : ∃ step, a = .goTo step
      · obtain ⟨step, rfl⟩ := hgo
        refine ⟨step, rfl, ?_⟩
        intro r hr
        rw [hs] at hr
        cases hr
        exact hcurrent
      · exact absurd hcurrent (target_ne_current hgo hs)
    · rintro ⟨step, rfl, hcurrent⟩
      have hlater : later w.furthest w.current = w.furthest := by
        apply Step.number_inj
        rw [later_number]
        omega
      rw [hcurrent s hs, hlater]
  · refine iff_of_true h ⟨step, rfl, ?_⟩
    intro s hgo
    rw [hs] at hgo
    cases hgo

end Wizard

namespace Session

/-- **What a move that fails leaves behind**, at the end of every run: the editor as it was, and
the wizard as it was exactly if the move goes to the current step or to a value that names no step.
As long as no action has left a changed wizard behind a failure, every step before the furthest one
was passed with a valid report. -/
theorem failed_move_run {e : Editor} {s : Session} (hs : Wizard.start e = .ok s.wizard)
    (dashboard : Option Dashboard) (actions : List Wizard.Action) :
    (∀ a : Wizard.Action, a.IsMove →
      (∃ i, ((s.run dashboard actions).outcome dashboard a).result = .error i) →
      (s.run dashboard (actions ++ [a])).wizard.editor = (s.run dashboard actions).wizard.editor ∧
        ((s.run dashboard (actions ++ [a])).wizard = (s.run dashboard actions).wizard ↔
          ∃ step, a = .goTo step ∧
            ∀ r, (s.run dashboard actions).wizard.target? (.goTo step) = some r →
              r = (s.run dashboard actions).wizard.current)) ∧
    (s.Clean dashboard actions → ∀ n, s.wizard.current.number ≤ n →
      n < (s.run dashboard actions).wizard.furthest.number → s.Passed dashboard actions n) := by
  obtain ⟨hstep, hfurthest⟩ := Wizard.inStep_start hs
  have hle : (s.run dashboard actions).wizard.current.number ≤
      (s.run dashboard actions).wizard.furthest.number := current_run (by rw [hfurthest]) actions
  constructor
  · intro a ha hf
    rw [run_concat]
    exact ⟨Wizard.editor_of_failed_move ha hf, Wizard.failed_move_iff hle ha hf⟩
  · intro hclean n hn hreached
    exact passed_run hstep hfurthest hclean hn hreached

end Session

/-! ## A variable with too many digits -/

namespace Wizard

/-- A wizard on the first step, with a header that is a single variable of the digits. -/
def withHeaderVariable (digits : List Char) : Wizard where
  editor :=
    { template :=
        { name := "order_update", category := "UTILITY", language := "en",
          header := some
            { enabled := true, format := "TEXT", text := String.ofList (Variable.token digits) }
          body := { text := "Your order has left our store." } }
      step := .int 1
      validation := ⟨true, [], []⟩ }
  current := .details
  furthest := .details

theorem withHeaderVariable_content {digits : List Char}
    (hd : digits.all Text.isDecimalDigit = true) (hl : Text.numeralLimit < digits.length) :
    ∃ e, (withHeaderVariable digits).template.report .content = .error e :=
  Template.report_content_withHeaderVariable hd hl

/-- The way to the content fails, and the wizard is on it nevertheless. -/
theorem withHeaderVariable_advance {digits : List Char}
    (hd : digits.all Text.isDecimalDigit = true) (hl : Text.numeralLimit < digits.length)
    (dashboard : Option Dashboard) (t : Traffic) :
    (∃ i, ((withHeaderVariable digits).perform dashboard t .advance).result = .error i) ∧
      ((withHeaderVariable digits).perform dashboard t .advance).wizard =
        { withHeaderVariable digits with current := .content, furthest := .content } := by
  obtain ⟨e, he⟩ := withHeaderVariable_content hd hl
  rw [perform_of_target (s := .content) rfl]
  obtain ⟨heq, hfail⟩ := moveTo_eq (withHeaderVariable digits) t .content
  exact ⟨hfail.mpr ⟨e, he⟩, heq.trans (entering_of_error he)⟩

end Wizard

namespace Session

variable {digits : List Char}

/-- A session of a wizard whose header is a single variable of the digits. -/
def withHeaderVariable (digits : List Char) : Session := ⟨Wizard.withHeaderVariable digits, {}⟩

theorem start_withHeaderVariable (digits : List Char) :
    Wizard.start (withHeaderVariable digits).wizard.editor =
      .ok (withHeaderVariable digits).wizard := by
  have hreport : (withHeaderVariable digits).wizard.template.report .details =
      .ok ⟨true, [], []⟩ := Template.report_details_withHeaderVariable digits
  exact Wizard.start_of_report rfl hreport

theorem run_withHeaderVariable (hd : digits.all Text.isDecimalDigit = true)
    (hl : Text.numeralLimit < digits.length) :
    ((withHeaderVariable digits).run none [.advance]).wizard =
      { (withHeaderVariable digits).wizard with current := .content, furthest := .content } :=
  (Wizard.withHeaderVariable_advance hd hl none {}).2

/-- The second attempt leads past the content. -/
theorem furthest_withHeaderVariable (hd : digits.all Text.isDecimalDigit = true)
    (hl : Text.numeralLimit < digits.length) :
    ((withHeaderVariable digits).run none [.advance, .advance]).wizard.furthest = .buttons := by
  show (((withHeaderVariable digits).run none [.advance]).wizard.perform none
    ((withHeaderVariable digits).run none [.advance]).traffic .advance).wizard.furthest = .buttons
  rw [run_withHeaderVariable hd hl, Wizard.perform_of_target (s := .buttons) rfl,
    (Wizard.moveTo_eq _ _ _).1]
  rfl

/-- No earlier moment saw a report on the content. -/
theorem not_passed_withHeaderVariable (hd : digits.all Text.isDecimalDigit = true)
    (hl : Text.numeralLimit < digits.length) :
    ¬ (withHeaderVariable digits).Passed none [.advance, .advance] Step.content.number := by
  rintro ⟨before, r, hprefix, hlength, hnumber, hreport, _⟩
  match before, hprefix with
  | [], _ => cases hnumber
  | [a], h =>
    cases (List.cons_prefix_cons.mp h).1
    obtain ⟨e, he⟩ := Wizard.withHeaderVariable_content hd hl
    rw [run_withHeaderVariable hd hl] at hreport
    cases he.symm.trans hreport
  | _ :: _ :: _, _ =>
    simp only [List.length_cons, List.length_nil] at hlength
    omega

/-- The failed way to the content of an overlong header. -/
theorem failed_move_run_overlong :
    ((withHeaderVariable Variable.overlongDigits).run none [.advance]).wizard.editor =
        (withHeaderVariable Variable.overlongDigits).wizard.editor ∧
      ((withHeaderVariable Variable.overlongDigits).run none [.advance]).wizard ≠
        (withHeaderVariable Variable.overlongDigits).wizard := by
  have hfails := Wizard.withHeaderVariable_advance Variable.overlongDigits_decimal
    Variable.overlongDigits_length none {}
  obtain ⟨heditor, hiff⟩ :=
    (failed_move_run (start_withHeaderVariable Variable.overlongDigits) none []).1 .advance trivial
      hfails.1
  refine ⟨heditor, ?_⟩
  intro hsame
  obtain ⟨step, hgo, _⟩ := hiff.mp hsame
  cases hgo

/-- **A failed move opens the gate**: the first attempt to leave the details fails and changes the
wizard, and the second one passes the content, on which there is no report. -/
theorem advance_past_overlong :
    Wizard.start (withHeaderVariable Variable.overlongDigits).wizard.editor =
        .ok (withHeaderVariable Variable.overlongDigits).wizard ∧
      (∃ i, ((withHeaderVariable Variable.overlongDigits).outcome none .advance).result =
        .error i) ∧
      ((withHeaderVariable Variable.overlongDigits).run none [.advance]).wizard.current =
        .content ∧
      (withHeaderVariable Variable.overlongDigits).wizard.current = .details ∧
      ((withHeaderVariable Variable.overlongDigits).run none
        [.advance, .advance]).wizard.furthest = .buttons ∧
      ¬ (withHeaderVariable Variable.overlongDigits).Passed none [.advance, .advance]
        Step.content.number := by
  have hdecimal := Variable.overlongDigits_decimal
  have hlength := Variable.overlongDigits_length
  have hfirst := run_withHeaderVariable hdecimal hlength
  exact ⟨start_withHeaderVariable _,
    (Wizard.withHeaderVariable_advance hdecimal hlength none {}).1,
    congrArg Wizard.current hfirst, rfl, furthest_withHeaderVariable hdecimal hlength,
    not_passed_withHeaderVariable hdecimal hlength⟩

end Session

end MessageTemplate
