import MessageTemplate.Proofs.Editor.Validated
import MessageTemplate.Proofs.Readable
import Mathlib.Data.List.Induction

/-!
# Runs of an editor

* `Editor.run` — what becomes of an editor when actions are performed one after another;
* `Editor.snapshots` — the templates that an editor holds, the current one first;
* `Editor.Change` — what an action can do to the snapshots;
* `Editor.perform_change` — and that it does nothing else; what holds of all templates of a run is
  read off this lemma.
-/

set_option autoImplicit false

namespace MessageTemplate.Editor

/-! ## Runs -/

/-- The editor after an action, whether the action has failed or not. -/
def next (e : Editor) (a : Action) : Editor := (e.perform a).editor

/-- The editor after actions, one after another. -/
def run (e : Editor) (actions : List Action) : Editor := actions.foldl next e

@[simp] theorem run_nil (e : Editor) : e.run [] = e := rfl

@[simp] theorem run_concat (e : Editor) (actions : List Action) (a : Action) :
    e.run (actions ++ [a]) = (e.run actions).next a := by
  simp [run]

theorem run_append (e : Editor) (before after : List Action) :
    e.run (before ++ after) = (e.run before).run after :=
  List.foldl_append

/-- The editor arises from a template by actions. -/
def Reachable (e : Editor) : Prop :=
  ∃ t step e₀ actions, start t step = .ok e₀ ∧ e₀.run actions = e

theorem Reachable.run {e : Editor} (h : e.Reachable) (actions : List Action) :
    (e.run actions).Reachable := by
  obtain ⟨t, step, e₀, before, hstart, rfl⟩ := h
  exact ⟨t, step, e₀, before ++ actions, hstart, run_append e₀ before actions⟩

/-- An editor of a template that is valid in every step. -/
def opened : Editor where
  template := .orderUpdate
  step := .int 1
  validation := ⟨true, [], []⟩

theorem start_opened : start .orderUpdate (.int 1) = .ok opened := by
  have hvalidate : Template.orderUpdate.validate (.int 1) = .ok ⟨true, [], []⟩ := by
    decide +kernel
  unfold start
  rw [hvalidate]
  rfl

theorem reachable_opened : opened.Reachable := ⟨_, _, _, [], start_opened, rfl⟩

/-! ## Snapshots -/

/-- The templates that the editor holds: the current one and those before it. -/
def snapshots (e : Editor) : List Template := e.template :: e.past

/-- The command that an action gives, if it gives one. -/
def Action.command? : Action → Option (Except Failure Command)
  | .dispatch operation => some (Command.read operation).result
  | .update path value => some (Command.ofPathData path value)
  | _ => none

theorem perform_of_command {e : Editor} {a : Action} {command : Except Failure Command}
    (h : a.command? = some command) : e.perform a = e.dispatch command := by
  cases a <;> cases h <;> rfl

theorem perform_undo {e : Editor} {t : Template} {past : List Template} (h : e.past = t :: past) :
    e.perform .undo = revalidate { e with template := t, past := past } := by
  simp only [perform, undo, h]

/-- What an action can do to the snapshots. -/
inductive Change (e : Editor) (a : Action) : List Template → Prop
  /-- A command that fails, undoing without a past, or another step keeps them. -/
  | kept (ha : ∀ id, a ≠ .markSaved id) (hpast : a = .undo → e.past = [])
    (h : (e.perform a).failure ≠ none ∨ ∃ step, a = .setStep step) : Change e a e.snapshots
  /-- An edit puts the edited template on top. -/
  | edited {c : Command} {t : Template} (ha : a.command? = some (.ok c))
    (ht : e.template.apply c.edit = .ok t) (hf : (e.perform a).failure = none) :
    Change e a (t :: e.snapshots)
  /-- Undoing takes the current template away. -/
  | undone (ha : a = .undo) (hpast : e.past ≠ []) : Change e a e.past
  /-- An identifier is taken over by all of them. -/
  | saved {id : Option Identifier} (ha : a = .markSaved id) :
    Change e a (e.snapshots.map (identified id))

theorem snapshots_revalidate (e : Editor) : e.revalidate.editor.snapshots = e.snapshots := by
  rcases revalidate_eq e with ⟨_, _, h⟩ | ⟨_, _, h⟩
  · rw [h]
    rfl
  · rw [h]

theorem change_of_command {e : Editor} {a : Action} {command : Except Failure Command}
    (h : a.command? = some command) : e.Change a (e.perform a).editor.snapshots := by
  have hperform := perform_of_command (e := e) h
  have hsaved : ∀ id, a ≠ .markSaved id := by
    rintro id rfl
    cases h
  have hundo : a ≠ .undo := by
    rintro rfl
    cases h
  rcases dispatch_cases e command with ⟨hsame, hfail⟩ | ⟨c, rfl, hedit, hok⟩
  · rw [← hperform] at hfail
    have hkept : e.Change a e.snapshots :=
      .kept hsaved (fun ha => absurd ha hundo) (Or.inl hfail)
    rw [hperform, hsame]
    exact hkept
  · obtain ⟨t, r, ht, _, heq⟩ := edit_eq_ok hedit
    rw [← hperform] at hok
    have hedited : e.Change a (t :: e.snapshots) := .edited h ht hok
    rw [hperform, heq]
    exact hedited

/-- **An action changes the snapshots in no other way.** -/
theorem perform_change (e : Editor) (a : Action) : e.Change a (e.perform a).editor.snapshots := by
  cases a with
  | dispatch operation => exact change_of_command rfl
  | update path value => exact change_of_command rfl
  | undo =>
    cases hp : e.past with
    | nil =>
      have hundo : e.perform .undo = { editor := e, failure := some (.edit .nothingToUndo) } := by
        simp only [perform, undo, hp]
      have hkept : e.Change .undo e.snapshots :=
        .kept (fun _ h => by cases h) (fun _ => hp)
          (Or.inl (by rw [hundo]; exact Option.some_ne_none _))
      rw [hundo]
      exact hkept
    | cons t past =>
      have hundone : e.Change .undo e.past := .undone rfl (by rw [hp]; exact List.cons_ne_nil t past)
      rw [perform_undo hp, snapshots_revalidate]
      rw [hp] at hundone
      exact hundone
  | setStep step =>
    have hkept : e.Change (.setStep step) e.snapshots :=
      .kept (fun _ h => by cases h) (fun h => by cases h) (Or.inr ⟨step, rfl⟩)
    have hsame : (e.perform (.setStep step)).editor.snapshots = e.snapshots := by
      simp only [perform]
      split
      · rename_i after hafter
        obtain ⟨r, _, rfl⟩ := setStep_eq_ok hafter
        rfl
      · rfl
    rw [hsame]
    exact hkept
  | markSaved id =>
    have hsaved : (e.perform (.markSaved id)).editor.snapshots =
        e.snapshots.map (identified id) := by
      simp only [perform, markSaved, snapshots_revalidate]
      rfl
    rw [hsaved]
    exact .saved rfl

end MessageTemplate.Editor
