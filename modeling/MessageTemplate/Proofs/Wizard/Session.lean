import MessageTemplate.Proofs.Editor.Validated
import MessageTemplate.Proofs.Readable
import MessageTemplate.Wizard

/-!
# Sessions of a wizard

* `Session`, `Session.run` — a wizard with its traffic, and what becomes of both when actions are
  performed one after another;
* `Wizard.target?` — the step that an action enters, if it enters one;
* `Wizard.perform_cases` — everything that an action can do to a wizard; the later invariants are
  read off this lemma;
* `Wizard.InStep` — the editor stands on the current step and its report is the report of the
  template in that step;
* `Wizard.inStep_perform` — kept by every action that does not leave a changed wizard behind a
  failure;
* `Wizard.perform_unchanged` — for readable templates no action does that.
-/

set_option autoImplicit false

namespace MessageTemplate

/-! ## Runs -/

/-- A wizard and its traffic with the dashboard. -/
structure Session where
  wizard : Wizard
  traffic : Traffic
  deriving Inhabited

namespace Session

variable (dashboard : Option Dashboard)

/-- What an action of a session leads to. -/
def outcome (s : Session) (a : Wizard.Action) : Wizard.Outcome :=
  s.wizard.perform dashboard s.traffic a

/-- The session after an action. -/
def step (s : Session) (a : Wizard.Action) : Session :=
  ⟨(s.outcome dashboard a).wizard, (s.outcome dashboard a).traffic⟩

/-- The session after actions, one after another. -/
def run (s : Session) (actions : List Wizard.Action) : Session :=
  actions.foldl (step dashboard) s

@[simp] theorem run_nil (s : Session) : s.run dashboard [] = s := rfl

@[simp] theorem run_concat (s : Session) (actions : List Wizard.Action) (a : Wizard.Action) :
    s.run dashboard (actions ++ [a]) = (s.run dashboard actions).step dashboard a := by
  simp [run]

end Session

/-! ## Steps in order -/

namespace Step

theorem number_bounds (s : Step) : 1 ≤ s.number ∧ s.number ≤ 4 := by
  cases s <;> decide

theorem number_next {s r : Step} (h : s.next? = some r) : r.number = s.number + 1 := by
  cases s <;> cases h <;> rfl

theorem number_previous {s r : Step} (h : s.previous? = some r) : r.number + 1 = s.number := by
  cases s <;> cases h <;> rfl

theorem number_inj {s r : Step} (h : s.number = r.number) : s = r := by
  cases s <;> cases r <;> first | rfl | cases h

end Step

namespace Wizard

theorem later_number (a b : Step) : (later a b).number = max a.number b.number := by
  unfold later
  split <;> omega

/-! ## What an action can do -/

/-- The actions that move the wizard. -/
def Action.IsMove : Action → Prop
  | .advance | .back | .goTo _ => True
  | _ => False

theorem Action.IsMove.cases {a : Action} (h : a.IsMove) :
    a = .advance ∨ a = .back ∨ ∃ step, a = .goTo step := by
  cases a <;> simp [IsMove] at h ⊢

/-- The actions that change the template under construction. -/
def Action.edit? : Action → Option Editor.Action
  | .dispatch operation => some (.dispatch operation)
  | .update path value => some (.update path value)
  | .undo => some .undo
  | _ => none

/-- The step that an action enters, if it enters one. -/
def target? (w : Wizard) : Action → Option Step
  | .advance => if w.canAdvance then w.current.next? else none
  | .back => w.current.previous?
  | .goTo step =>
    match w.canGoTo step with
    | .ok true => (Step.integerOf? step).bind Step.ofNumber?
    | _ => none
  | _ => none

/-- The wizard after it has entered a step; the editor follows only if there is a report for it. -/
def entering (w : Wizard) (s : Step) : Wizard :=
  { editor := match w.template.report s with
      | .ok r => { w.editor with step := .ofNat s.number, validation := r }
      | .error _ => w.editor
    current := s
    furthest := later w.furthest s }

/-- The wizard with another editor. -/
def withEditor (w : Wizard) (e : Editor) : Wizard := { w with editor := e }

theorem moveTo_eq (w : Wizard) (t : Traffic) (s : Step) :
    (w.moveTo t s).wizard = w.entering s ∧
      ((∃ i, (w.moveTo t s).result = .error i) ↔ ∃ e, w.template.report s = .error e) := by
  have hset : w.editor.setStep (.ofNat s.number) =
      match w.template.report s with
      | .ok r => .ok { w.editor with step := .ofNat s.number, validation := r }
      | .error e => .error e := by
    unfold Editor.setStep Template.validate
    rw [Step.ofData_number]
    rfl
  unfold moveTo entering
  rw [hset]
  cases w.template.report s <;> simp [answered, failed]

theorem isMove_of_target {w : Wizard} {a : Action} {s : Step} (h : w.target? a = some s) :
    a.IsMove := by
  cases a <;> trivial

theorem perform_of_target {w : Wizard} {a : Action} {s : Step} (h : w.target? a = some s)
    (dashboard : Option Dashboard) (t : Traffic) : w.perform dashboard t a = w.moveTo t s := by
  rcases (isMove_of_target h).cases with rfl | rfl | ⟨step, rfl⟩
  · simp only [target?] at h
    split at h
    · rename_i hadvance
      simp only [perform, advance, h, hadvance, if_true]
    · cases h
  · simp only [target?] at h
    simp only [perform, back, h]
  · simp only [target?] at h
    split at h
    · rename_i hgo
      simp only [perform, goTo, hgo, h]
    · cases h

/-- A move that enters no step changes nothing, and fails only if it goes to a value. -/
theorem perform_of_no_target {w : Wizard} {a : Action} (ha : a.IsMove) (h : w.target? a = none)
    (dashboard : Option Dashboard) (t : Traffic) :
    (w.perform dashboard t a).wizard = w ∧
      ((∃ i, (w.perform dashboard t a).result = .error i) → ∃ step, a = .goTo step) ∧
      ∃ entries, (w.perform dashboard t a).traffic = t.record entries := by
  have hnothing : t = t.record [] := by
    unfold Traffic.record
    rw [List.append_nil]
  rcases ha.cases with rfl | rfl | ⟨step, rfl⟩
  · simp only [target?] at h
    simp only [perform, advance]
    split
    · rename_i s hs
      split
      · rename_i hadvance
        simp [hadvance, hs] at h
      · refine ⟨rfl, ?_, _, rfl⟩
        rintro ⟨i, hi⟩
        cases hi
    · refine ⟨rfl, ?_, _, rfl⟩
      rintro ⟨i, hi⟩
      cases hi
  · simp only [target?] at h
    simp only [perform, back, h]
    refine ⟨rfl, ?_, [], hnothing⟩
    rintro ⟨i, hi⟩
    cases hi
  · simp only [target?] at h
    simp only [perform, goTo]
    split
    · exact ⟨rfl, fun _ => ⟨step, rfl⟩, [], hnothing⟩
    · exact ⟨rfl, fun _ => ⟨step, rfl⟩, [], hnothing⟩
    · rename_i hgo
      rw [hgo] at h
      simp only at h
      rw [h]
      exact ⟨rfl, fun _ => ⟨step, rfl⟩, [], hnothing⟩

theorem edit_eq (w : Wizard) (t : Traffic) (a : Editor.Action) :
    (w.edit t a).wizard = w.withEditor (w.editor.perform a).editor ∧
      ((∃ i, (w.edit t a).result = .error i) ↔ (w.editor.perform a).failure ≠ none) := by
  simp only [edit]
  split <;> rename_i h <;> simp [answered, failed, withEditor, h]

theorem saveDraft_cases (dashboard : Option Dashboard) (w : Wizard) (t : Traffic) :
    (w.saveDraft dashboard t).wizard = w ∨
    ∃ id, (w.saveDraft dashboard t).wizard = w.withEditor (w.editor.perform (.markSaved id)).editor ∧
      ((∃ i, (w.saveDraft dashboard t).result = .error i) ↔
        (w.editor.perform (.markSaved id)).failure ≠ none) := by
  unfold saveDraft
  split
  · exact Or.inl rfl
  · split
    · exact Or.inl rfl
    · rename_i saved t' _
      refine Or.inr ⟨saved.id, ?_⟩
      simp only [Editor.perform]
      cases (w.editor.markSaved saved.id).failure <;> simp [answered, failed, withEditor]

theorem submit_wizard (dashboard : Option Dashboard) (w : Wizard) (t : Traffic) :
    (w.submit dashboard t).wizard = w := by
  unfold submit
  split
  · rfl
  · split
    · rfl
    · split
      · simp only
        split
        · rfl
        · split <;> rfl
      · rfl

/-- What an action asks of the editor beside a step: an edit or an undo, or, once a draft is
stored, to take over its identifier. -/
def Action.Asks (a : Action) (b : Editor.Action) : Prop :=
  a.edit? = some b ∨ (a = .saveDraft ∧ ∃ id, b = .markSaved id)

/-- **Everything that an action can do to a wizard**, and when it fails. -/
theorem perform_cases (dashboard : Option Dashboard) (w : Wizard) (t : Traffic) (a : Action) :
    (w.perform dashboard t a).wizard = w ∨
    (∃ b, a.Asks b ∧
      (w.perform dashboard t a).wizard = w.withEditor (w.editor.perform b).editor ∧
      ((∃ i, (w.perform dashboard t a).result = .error i) ↔ (w.editor.perform b).failure ≠ none)) ∨
    (∃ s, w.target? a = some s ∧ (w.perform dashboard t a).wizard = w.entering s ∧
      ((∃ i, (w.perform dashboard t a).result = .error i) ↔
        ∃ e, w.template.report s = .error e)) := by
  have move (ha : a.IsMove) : (w.perform dashboard t a).wizard = w ∨ ∃ s, w.target? a = some s ∧
      (w.perform dashboard t a).wizard = w.entering s ∧
      ((∃ i, (w.perform dashboard t a).result = .error i) ↔
        ∃ e, w.template.report s = .error e) := by
    cases h : w.target? a with
    | none => exact Or.inl (perform_of_no_target ha h dashboard t).1
    | some s =>
      refine Or.inr ⟨s, rfl, ?_⟩
      rw [perform_of_target h dashboard t]
      exact moveTo_eq w t s
  cases a with
  | dispatch operation => exact Or.inr (Or.inl ⟨_, Or.inl rfl, edit_eq w t _⟩)
  | update path value => exact Or.inr (Or.inl ⟨_, Or.inl rfl, edit_eq w t _⟩)
  | undo => exact Or.inr (Or.inl ⟨_, Or.inl rfl, edit_eq w t _⟩)
  | advance => exact (move trivial).imp_right Or.inr
  | back => exact (move trivial).imp_right Or.inr
  | goTo step => exact (move trivial).imp_right Or.inr
  | saveDraft =>
    rcases saveDraft_cases dashboard w t with h | ⟨id, h⟩
    · exact Or.inl h
    · exact Or.inr (Or.inl ⟨_, Or.inr ⟨rfl, id, rfl⟩, h⟩)
  | submit => exact Or.inl (submit_wizard dashboard w t)

theorem Action.asks_setStep {a : Action} {step : Data} : ¬ a.Asks (.setStep step) := by
  rintro (h | ⟨_, _, h⟩)
  · cases a <;> cases h
  · cases h

/-! ## The editor in the step of the wizard -/

/-- The editor stands on the current step, and its report is the one on the template in it. -/
def InStep (w : Wizard) : Prop :=
  w.editor.step = .ofNat w.current.number ∧ w.template.report w.current = .ok w.validation

theorem validate_eq_report {w : Wizard} (h : w.editor.step = .ofNat w.current.number)
    (t : Template) : t.validate w.editor.step = t.report w.current := by
  unfold Template.validate
  rw [h, Step.ofData_number]

theorem start_of_report {e : Editor} {s : Step} {r : Report} (hs : Step.ofData e.step = .ok s)
    (hr : e.template.report s = .ok r) :
    start e = .ok ⟨{ e with step := .ofNat s.number, validation := r }, s, s⟩ := by
  unfold start Editor.setStep Template.validate
  simp only [hs, Step.ofData_number, hr]

theorem inStep_start {e : Editor} {w : Wizard} (h : start e = .ok w) :
    w.InStep ∧ w.current = w.furthest := by
  unfold start at h
  split at h
  · cases h
  · rename_i s hs
    split at h
    · cases h
    · rename_i after hafter
      cases h
      obtain ⟨r, hr, rfl⟩ := Editor.setStep_eq_ok hafter
      unfold Template.validate at hr
      rw [Step.ofData_number] at hr
      exact ⟨⟨rfl, hr⟩, rfl⟩

/-- **Every action keeps the editor in the step of the wizard** unless it leaves a changed wizard
behind a failure. -/
theorem inStep_perform {w : Wizard} (hw : w.InStep) (dashboard : Option Dashboard) (t : Traffic)
    (a : Action)
    (hclean : (∃ i, (w.perform dashboard t a).result = .error i) →
      (w.perform dashboard t a).wizard = w) :
    (w.perform dashboard t a).wizard.InStep := by
  rcases perform_cases dashboard w t a with h | ⟨b, hb, h, hfail⟩ | ⟨s, hs, h, hfail⟩
  · rw [h]
    exact hw
  · obtain ⟨hstep, hreport⟩ := hw
    have hsame : (w.editor.perform b).editor.step = w.editor.step :=
      Editor.perform_step _ fun step hset => Action.asks_setStep (hset ▸ hb)
    have hvalid : w.editor.Validated := (validate_eq_report hstep _).trans hreport
    have hafter := Editor.perform_validated hvalid b fun hf =>
      congrArg Wizard.editor (h.symm.trans (hclean (hfail.mpr hf)))
    unfold Editor.Validated at hafter
    rw [hsame, validate_eq_report hstep] at hafter
    rw [h]
    exact ⟨hsame.trans hstep, hafter⟩
  · cases hr : w.template.report s with
    | error e =>
      rw [hclean (hfail.mpr ⟨e, hr⟩)]
      exact hw
    | ok r =>
      rw [h]
      unfold entering
      rw [hr]
      exact ⟨rfl, hr⟩

/-- **A failure leaves the wizard as it was** if the template afterwards is readable. -/
theorem perform_unchanged {w : Wizard} (hw : w.InStep) (dashboard : Option Dashboard) (t : Traffic)
    (a : Action) (hr : (w.perform dashboard t a).wizard.template.Readable)
    (hf : ∃ i, (w.perform dashboard t a).result = .error i) :
    (w.perform dashboard t a).wizard = w := by
  rcases perform_cases dashboard w t a with h | ⟨b, hb, h, hfail⟩ | ⟨s, hs, h, hfail⟩
  · exact h
  · rw [h] at hr ⊢
    have hsame : (w.editor.perform b).editor.step = w.editor.step :=
      Editor.perform_step _ fun step hset => Action.asks_setStep (hset ▸ hb)
    have hreport := Template.report_of_readable hr w.current
    have hunchanged := Editor.perform_unchanged (hfail.mp hf) (by
      rw [hsame, validate_eq_report hw.1]
      exact hreport)
    rw [hunchanged]
    rfl
  · obtain ⟨e, he⟩ := hfail.mp hf
    have hreadable : w.template.Readable := by
      rw [h] at hr
      unfold entering at hr
      rw [he] at hr
      exact hr
    obtain ⟨r, hok⟩ := Template.report_of_readable hreadable s
    rw [hok] at he
    cases he

end Wizard

end MessageTemplate
