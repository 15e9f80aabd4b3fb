import MessageTemplate.Proofs.Wizard.Session
import Mathlib.Data.List.Induction
import Mathlib.Data.List.Infix

/-!
# The gate of a wizard

* `Session.Clean` — no action of a run left a changed wizard behind a failure;
* `Session.Passed` — at an earlier moment of a run the wizard stood on a step with a valid report;
* `Session.passed_run` — in a clean run every step before the furthest one was passed;
* `Session.Gated` — what holds at the end of a run in which nothing went around the gate;
* `Session.gated_run` — a run over readable templates is such a run.
-/

set_option autoImplicit false

namespace MessageTemplate

namespace Wizard

/-! ## One action -/

/-- An action changes the steps only if it enters one. -/
theorem perform_steps (dashboard : Option Dashboard) (w : Wizard) (t : Traffic) (a : Action) :
    ((w.perform dashboard t a).wizard.current = w.current ∧
      (w.perform dashboard t a).wizard.furthest = w.furthest) ∨
    ∃ s, w.target? a = some s ∧ (w.perform dashboard t a).wizard.current = s ∧
      (w.perform dashboard t a).wizard.furthest = later w.furthest s := by
  rcases perform_cases dashboard w t a with h | ⟨_, _, h, _⟩ | ⟨s, hs, h, _⟩
  · rw [h]
    exact Or.inl ⟨rfl, rfl⟩
  · rw [h]
    exact Or.inl ⟨rfl, rfl⟩
  · rw [h]
    exact Or.inr ⟨s, hs, rfl, rfl⟩

theorem furthest_perform (dashboard : Option Dashboard) (w : Wizard) (t : Traffic) (a : Action) :
    w.furthest.number ≤ (w.perform dashboard t a).wizard.furthest.number := by
  rcases perform_steps dashboard w t a with ⟨_, h⟩ | ⟨s, _, _, h⟩
  · rw [h]
  · rw [h, later_number]
    exact Nat.le_max_left _ _

theorem current_perform {w : Wizard} (hw : w.current.number ≤ w.furthest.number)
    (dashboard : Option Dashboard) (t : Traffic) (a : Action) :
    (w.perform dashboard t a).wizard.current.number ≤
      (w.perform dashboard t a).wizard.furthest.number := by
  rcases perform_steps dashboard w t a with ⟨hc, hf⟩ | ⟨s, _, hc, hf⟩
  · rw [hc, hf]
    exact hw
  · rw [hc, hf, later_number]
    exact Nat.le_max_right _ _

theorem canGoTo_number {w : Wizard} {step : Data} {n : Int} (h : w.canGoTo step = .ok true)
    (hn : Step.integerOf? step = some n) : n ≤ w.furthest.number := by
  cases step with
  | int m =>
    cases hn
    simp only [canGoTo, Except.ok.injEq, decide_eq_true_eq] at h
    exact h.2
  | bool b =>
    cases hn
    simp only [canGoTo, Except.ok.injEq, decide_eq_true_eq] at h
    exact h.2
  | float x =>
    simp only [canGoTo, Except.ok.injEq, Bool.and_eq_true, Bool.or_eq_true, beq_iff_eq] at h
    exact Binary64.le_of_compareInt? hn h.2
  | null => cases hn
  | str s => cases hn
  | list items => cases hn
  | object members => cases hn

/-- A step beyond the furthest one is entered only from the step before it, with a valid report. -/
theorem target_number {w : Wizard} (hw : w.current.number ≤ w.furthest.number) {a : Action}
    {s : Step} (h : w.target? a = some s) (hs : w.furthest.number < s.number) :
    s.number = w.current.number + 1 ∧ w.validation.valid = true := by
  rcases (isMove_of_target h).cases with rfl | rfl | ⟨step, rfl⟩
  · simp only [target?] at h
    split at h
    · rename_i hadvance
      unfold canAdvance at hadvance
      rw [Bool.and_eq_true] at hadvance
      exact ⟨Step.number_next h, hadvance.2⟩
    · cases h
  · have := Step.number_previous (s := w.current) (r := s) h
    omega
  · simp only [target?] at h
    split at h
    · rename_i hgo
      obtain ⟨n, hn, hnumber⟩ := Option.bind_eq_some_iff.mp h
      have hreached := canGoTo_number hgo hn
      have := Step.ofNumber?_eq_some hnumber
      omega
    · cases h

end Wizard

/-! ## Runs -/

namespace Session

variable (dashboard : Option Dashboard)

/-- No action of the run left a changed wizard behind a failure. -/
def Clean (s : Session) (actions : List Wizard.Action) : Prop :=
  ∀ before a, before ++ [a] <+: actions →
    (∃ i, ((s.run dashboard before).outcome dashboard a).result = .error i) →
    (s.run dashboard (before ++ [a])).wizard = (s.run dashboard before).wizard

/-- At an earlier moment of the run the wizard stood on the step of this number, and the report on
the template of that moment was valid in it. -/
def Passed (s : Session) (actions : List Wizard.Action) (n : Nat) : Prop :=
  ∃ before r, before <+: actions ∧ before.length < actions.length ∧
    (s.run dashboard before).wizard.current.number = n ∧
    (s.run dashboard before).wizard.template.report (s.run dashboard before).wizard.current =
      .ok r ∧ r.valid = true

variable {dashboard}

theorem Clean.left {s : Session} {actions : List Wizard.Action} {a : Wizard.Action}
    (h : s.Clean dashboard (actions ++ [a])) : s.Clean dashboard actions := by
  intro before b hb
  exact h before b (hb.trans (List.prefix_append _ _))

theorem Clean.last {s : Session} {actions : List Wizard.Action} {a : Wizard.Action}
    (h : s.Clean dashboard (actions ++ [a]))
    (hf : ∃ i, ((s.run dashboard actions).outcome dashboard a).result = .error i) :
    ((s.run dashboard actions).outcome dashboard a).wizard = (s.run dashboard actions).wizard := by
  have hsame := h actions a (List.prefix_refl _) hf
  rw [run_concat] at hsame
  exact hsame

theorem inStep_run {s : Session} (hs : s.wizard.InStep) {actions : List Wizard.Action}
    (hc : s.Clean dashboard actions) : (s.run dashboard actions).wizard.InStep := by
  induction actions using List.reverseRecOn with
  | nil => exact hs
  | append_singleton actions a ih =>
    rw [run_concat]
    exact Wizard.inStep_perform (ih hc.left) dashboard _ a hc.last

/-- A run over readable templates is clean. -/
theorem clean_of_readable {s : Session} (hs : s.wizard.InStep) {actions : List Wizard.Action}
    (hr : ∀ before, before <+: actions → (s.run dashboard before).wizard.template.Readable) :
    s.Clean dashboard actions := by
  induction actions using List.reverseRecOn with
  | nil =>
    intro before a h
    simp at h
  | append_singleton actions a ih =>
    have hclean := ih fun before h => hr before (h.trans (List.prefix_append _ _))
    intro before b h hf
    rcases List.prefix_concat_iff.mp h with heq | h
    · obtain ⟨rfl, hab⟩ := List.append_inj' heq rfl
      cases hab
      have hafter := hr _ (List.prefix_refl _)
      rw [run_concat] at hafter ⊢
      exact Wizard.perform_unchanged (inStep_run hs hclean) dashboard _ _ hafter hf
    · exact hclean before b h hf

theorem current_run {s : Session} (hs : s.wizard.current.number ≤ s.wizard.furthest.number)
    (actions : List Wizard.Action) :
    (s.run dashboard actions).wizard.current.number ≤
      (s.run dashboard actions).wizard.furthest.number := by
  induction actions using List.reverseRecOn with
  | nil => exact hs
  | append_singleton actions a ih =>
    rw [run_concat]
    exact Wizard.current_perform ih dashboard _ a

/-- The furthest step of a run never falls back. -/
theorem furthest_run (s : Session) {before actions : List Wizard.Action}
    (h : before <+: actions) :
    (s.run dashboard before).wizard.furthest.number ≤
      (s.run dashboard actions).wizard.furthest.number := by
  induction actions using List.reverseRecOn with
  | nil =>
    rw [List.prefix_nil.mp h]
  | append_singleton actions a ih =>
    rcases List.prefix_concat_iff.mp h with rfl | h
    · exact le_rfl
    · rw [run_concat]
      exact (ih h).trans (Wizard.furthest_perform dashboard _ _ a)

theorem Passed.later {s : Session} {actions : List Wizard.Action} {n : Nat}
    (h : s.Passed dashboard actions n) (a : Wizard.Action) :
    s.Passed dashboard (actions ++ [a]) n := by
  obtain ⟨before, r, hprefix, hlength, hmoment⟩ := h
  refine ⟨before, r, hprefix.trans (List.prefix_append _ _), ?_, hmoment⟩
  rw [List.length_append]
  omega

/-- **In a clean run every step before the furthest one was passed**, from the first on. -/
theorem passed_run {s : Session} (hs : s.wizard.InStep) (hf : s.wizard.current = s.wizard.furthest)
    {actions : List Wizard.Action} (hc : s.Clean dashboard actions) {n : Nat}
    (hn : s.wizard.current.number ≤ n)
    (hreached : n < (s.run dashboard actions).wizard.furthest.number) :
    s.Passed dashboard actions n := by
  induction actions using List.reverseRecOn with
  | nil =>
    rw [run_nil, ← hf] at hreached
    omega
  | append_singleton actions a ih =>
    by_cases hbefore : n < (s.run dashboard actions).wizard.furthest.number
    · exact (ih hc.left hbefore).later a
    · -- The last action has moved the furthest step, so it has entered the step after `n`.
      have hle : (s.run dashboard actions).wizard.current.number ≤
          (s.run dashboard actions).wizard.furthest.number := current_run (by rw [hf]) actions
      rw [run_concat] at hreached
      rcases Wizard.perform_steps dashboard (s.run dashboard actions).wizard
          (s.run dashboard actions).traffic a with ⟨_, hsame⟩ | ⟨r, hr, _, hlater⟩
      · unfold step outcome at hreached
        rw [hsame] at hreached
        omega
      · unfold step outcome at hreached
        rw [hlater, Wizard.later_number] at hreached
        obtain ⟨hnumber, hvalid⟩ := Wizard.target_number hle hr (by omega)
        refine ⟨actions, _, List.prefix_append _ _, ?_, by omega, (inStep_run hs hc.left).2, hvalid⟩
        rw [List.length_append]
        exact Nat.lt_succ_self _

/-! ## The gate -/

variable (dashboard) in
/-- The state of a wizard after a run in which nothing went around the gate. -/
structure Gated (s : Session) (actions : List Wizard.Action) : Prop where
  /-- The editor stands on the current step, and its report is the one on the template in it. -/
  inStep : (s.run dashboard actions).wizard.InStep
  first_le_current : 1 ≤ (s.run dashboard actions).wizard.current.number
  current_le_furthest : (s.run dashboard actions).wizard.current.number ≤
    (s.run dashboard actions).wizard.furthest.number
  furthest_le_last : (s.run dashboard actions).wizard.furthest.number ≤ 4
  furthest_monotone : ∀ before, before <+: actions →
    (s.run dashboard before).wizard.furthest.number ≤
      (s.run dashboard actions).wizard.furthest.number
  /-- Every step between the first and the furthest one was passed. -/
  passed : ∀ n, s.wizard.current.number ≤ n →
    n < (s.run dashboard actions).wizard.furthest.number → s.Passed dashboard actions n
  /-- Without a dashboard a submission is answered in the review of a valid template only, and the
  answer is what would be sent. -/
  submitted : ∀ t answer, ((s.run dashboard actions).wizard.submit none t).result = .ok answer ↔
    (s.run dashboard actions).wizard.current = .review ∧
      (∃ r, (s.run dashboard actions).wizard.template.report .review = .ok r ∧ r.valid = true) ∧
      answer = .submitted (s.run dashboard actions).wizard.template.submission.toData

end Session

/-- Without a dashboard a submission is answered in the review of a valid template only. -/
theorem Wizard.submit_none_eq_ok {w : Wizard} {t : Traffic} {answer : Answer} :
    (w.submit none t).result = .ok answer ↔
      w.current = .review ∧ (∃ r, w.template.report .review = .ok r ∧ r.valid = true) ∧
        answer = .submitted w.template.submission.toData := by
  unfold submit
  by_cases hreview : w.current = .review
  · rw [hreview]
    cases hr : w.template.report .review with
    | error e => simp [failed]
    | ok r =>
      cases hvalid : r.valid
      · simp [refused, hvalid]
      · simp only [answered, hvalid, bne_self_eq_false, Bool.false_eq_true, if_false, if_true,
          Except.ok.injEq, exists_eq_left', true_and]
        exact eq_comm
  · simp [hreview, refused]

namespace Session

/-- **Nothing goes around the gate of a wizard** in a run over readable templates: the editor
follows the wizard, every step before the furthest one was passed with a valid report, and only
valid templates in review are submitted. -/
theorem gated_run {e : Editor} {s : Session} (hs : Wizard.start e = .ok s.wizard)
    (dashboard : Option Dashboard) (actions : List Wizard.Action)
    (hr : ∀ before, before <+: actions → (s.run dashboard before).wizard.template.Readable) :
    s.Gated dashboard actions := by
  obtain ⟨hstep, hfurthest⟩ := Wizard.inStep_start hs
  have hclean := clean_of_readable hstep hr
  exact {
    inStep := inStep_run hstep hclean
    first_le_current := (Step.number_bounds _).1
    current_le_furthest := current_run (by rw [hfurthest]) actions
    furthest_le_last := (Step.number_bounds _).2
    furthest_monotone := fun _ h => furthest_run s h
    passed := fun _ hn hreached => passed_run hstep hfurthest hclean hn hreached
    submitted := fun _ _ => Wizard.submit_none_eq_ok }

/-- A wizard on the first step, with a template that is valid in every step. -/
def atDetails : Wizard where
  editor :=
    { template :=
        { name := "order_update", category := "UTILITY", language := "en",
          body := { text := "Your order has left our store." } }
      step := .int 1
      validation := ⟨true, [], []⟩ }
  current := .details
  furthest := .details

/-- The gate after a walk to the review, back to the content by number, and past an edit that is
not one. -/
theorem gated_run_atDetails :
    (Session.mk atDetails {}).Gated none
      [.advance, .advance, .dispatch .null, .advance, .submit, .goTo (.int 2), .undo] := by
  refine gated_run (e := atDetails.editor) rfl none _ ?_
  intro before h
  have hall : ∀ b ∈ List.inits (α := Wizard.Action)
      [.advance, .advance, .dispatch .null, .advance, .submit, .goTo (.int 2), .undo],
      ((Session.mk atDetails {}).run none b).wizard.template.Readable := by
    decide +kernel
  exact hall before (List.mem_inits _ _ |>.mpr h)

end Session

end MessageTemplate
