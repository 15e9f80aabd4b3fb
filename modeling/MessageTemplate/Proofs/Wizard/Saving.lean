import MessageTemplate.Proofs.Wizard.Draft
import MessageTemplate.Proofs.Wizard.Gate

/-!
# What saving a draft leaves alone

* `Editor.under` — an editor whose templates have another identifier, and nothing else;
* `Wizard.saveDraft_onlyIdentifies` — a draft that is stored changes nothing but the identifier,
  and one that is not changes nothing;
* `Session.identified_run` — once the templates of a session have an identifier they always do;
* `Session.saved_run` — both over every run of readable templates.
-/

set_option autoImplicit false

namespace MessageTemplate

/-! ## Another identifier -/

namespace Editor

/-- The editor whose templates, the current one and those before it, have the identifier. -/
def under (e : Editor) (id : Option Identifier) : Editor :=
  { e with template := identified id e.template, past := e.past.map (identified id) }

/-- No rule looks at the identifier. -/
theorem validate_identified (id : Option Identifier) (t : Template) (step : Data) :
    (identified id t).validate step = t.validate step := rfl

theorem identified_self {id : Option Identifier} {t : Template} (h : t.id = id) :
    identified id t = t := by
  rw [← h]
  rfl

theorem under_self {e : Editor} {id : Option Identifier} (h : e.KnownAs id) : e.under id = e := by
  have hpast : e.past.map (identified id) = e.past := by
    have hsame : ∀ t ∈ e.past, identified id t = t := by
      intro t ht
      exact identified_self (h t (List.mem_cons_of_mem _ ht))
    rw [List.map_congr_left hsame, List.map_id']
  unfold under
  rw [hpast, identified_self (h e.template List.mem_cons_self)]

/-- **Taking over an identifier changes nothing else**, and does not fail where the report is up
to date. -/
theorem markSaved_under {e : Editor} (he : e.Validated) (id : Option Identifier) :
    e.markSaved id = { editor := e.under id } := by
  have hreport : (identified id e.template).validate e.step = .ok e.validation := by
    rw [validate_identified]
    exact he
  simp only [markSaved, revalidate, hreport]
  rfl

end Editor

/-! ## One draft -/

namespace Wizard

theorem validated_of_inStep {w : Wizard} (hw : w.InStep) : w.editor.Validated :=
  (validate_eq_report hw.1 _).trans hw.2

/-- The outcome is a failure that changes nothing, or the wizard under the identifier of the draft
that is answered: its steps, its report and what its templates say are as they were. -/
def OnlyIdentifies (w : Wizard) (o : Outcome) : Prop :=
  ((∃ i, o.result = .error i) ∧ o.wizard = w) ∨
    ∃ id, o.result = .ok (.draft (Editor.identified id w.template)) ∧
      o.wizard = w.withEditor (w.editor.under id)

/-- **A draft changes nothing but the identifier.** -/
theorem saveDraft_onlyIdentifies {w : Wizard} (hw : w.InStep) {known : Option Identifier}
    (hknown : w.editor.KnownAs known) (dashboard : Option Dashboard) (t : Traffic) :
    w.OnlyIdentifies (w.saveDraft dashboard t) := by
  unfold OnlyIdentifies
  cases dashboard with
  | none =>
    have hsame : Editor.identified known w.template = w.template :=
      Editor.identified_self (hknown w.editor.template List.mem_cons_self)
    refine Or.inr ⟨known, ?_, ?_⟩
    · rw [hsame]
      rfl
    · rw [Editor.under_self hknown]
      rfl
  | some d =>
    unfold saveDraft
    simp only
    split
    · rename_i i t' _
      exact Or.inl ⟨⟨i, rfl⟩, rfl⟩
    · rename_i saved t' _
      rw [Editor.markSaved_under (validated_of_inStep hw) saved.id]
      exact Or.inr ⟨saved.id, rfl, rfl⟩

/-! ## One action -/

/-- The templates of a wizard share one identifier after every action if they did before. -/
theorem perform_shared {w : Wizard} {id : Option Identifier} (hw : w.editor.KnownAs id)
    (dashboard : Option Dashboard) (t : Traffic) (a : Action) :
    ∃ id', (w.perform dashboard t a).wizard.editor.KnownAs id' := by
  by_cases ha : a = .saveDraft
  · subst ha
    rcases saveDraft_cases dashboard w t with h | ⟨id', h, _⟩
    · exact ⟨id, by rw [perform, h]; exact hw⟩
    · refine ⟨id', ?_⟩
      rw [perform, h]
      exact Editor.markSaved_knownAs w.editor id'
  · exact ⟨id, perform_knownAs hw dashboard t ha⟩

/-- An identifier is replaced by another one at most. -/
theorem perform_identified {w : Wizard} {id : Identifier} (hw : w.editor.KnownAs (some id))
    (dashboard : Option Dashboard) (t : Traffic) (a : Action) :
    ∃ id', (w.perform dashboard t a).wizard.editor.KnownAs (some id') := by
  by_cases ha : a = .saveDraft
  · subst ha
    cases dashboard with
    | none => exact ⟨id, hw⟩
    | some d =>
      have htemplate : w.template.id = some id := hw w.editor.template List.mem_cons_self
      -- Where the answer has no identifier the one before stays.
      have hsome : ∃ id', t.reply.storedId?.or w.template.id = some id' := by
        rw [htemplate]
        cases t.reply.storedId? with
        | none => exact ⟨id, rfl⟩
        | some id' => exact ⟨id', rfl⟩
      obtain ⟨id', hid'⟩ := hsome
      refine ⟨id', saveDraft_knownAs hid' ?_⟩
      intro hnone
      rw [hnone, htemplate] at hid'
      rw [← hid']
      exact hw
  · exact ⟨id, perform_knownAs hw dashboard t ha⟩

theorem knownAs_of_start {e : Editor} {w : Wizard} (h : start e = .ok w) {id : Option Identifier}
    (he : e.KnownAs id) : w.editor.KnownAs id := by
  unfold start at h
  split at h
  · cases h
  · split at h
    · cases h
    · rename_i after hafter
      cases h
      obtain ⟨r, _, rfl⟩ := Editor.setStep_eq_ok hafter
      exact he

end Wizard

/-! ## Runs -/

namespace Session

variable {s : Session}

theorem run_append (dashboard : Option Dashboard) (before later : List Wizard.Action) :
    s.run dashboard (before ++ later) = (s.run dashboard before).run dashboard later :=
  List.foldl_append

/-- The templates of a session share one identifier. -/
theorem shared_run {id : Option Identifier} (hs : s.wizard.editor.KnownAs id)
    (dashboard : Option Dashboard) (actions : List Wizard.Action) :
    ∃ id', (s.run dashboard actions).wizard.editor.KnownAs id' := by
  induction actions using List.reverseRecOn with
  | nil => exact ⟨id, hs⟩
  | append_singleton actions a ih =>
    obtain ⟨id', hid'⟩ := ih
    rw [run_concat]
    exact Wizard.perform_shared hid' dashboard _ a

/-- **Once they have an identifier they always have one.** -/
theorem identified_run {id : Identifier} (hs : s.wizard.editor.KnownAs (some id))
    (dashboard : Option Dashboard) (actions : List Wizard.Action) :
    ∃ id', (s.run dashboard actions).wizard.editor.KnownAs (some id') := by
  induction actions using List.reverseRecOn with
  | nil => exact ⟨id, hs⟩
  | append_singleton actions a ih =>
    obtain ⟨id', hid'⟩ := ih
    rw [run_concat]
    exact Wizard.perform_identified hid' dashboard _ a

/-- **Saving a draft neither loses nor alters an edit**, in every run over readable templates and
whatever the dashboard replies: all templates share one identifier, a draft changes nothing but
this identifier, or nothing at all if it fails, and an identifier never goes away. -/
theorem saved_run {e : Editor} (he : e.Reachable) (hs : Wizard.start e = .ok s.wizard)
    (dashboard : Option Dashboard) {actions : List Wizard.Action}
    (hr : ∀ before, before <+: actions → (s.run dashboard before).wizard.template.Readable) :
    (∃ id, (s.run dashboard actions).wizard.editor.KnownAs id) ∧
    (∀ traffic, (s.run dashboard actions).wizard.OnlyIdentifies
      ((s.run dashboard actions).wizard.perform dashboard traffic .saveDraft)) ∧
    (∀ before, before <+: actions → (s.run dashboard before).wizard.template.id ≠ none →
      ∀ t ∈ (s.run dashboard actions).wizard.editor.snapshots, t.id ≠ none) := by
  obtain ⟨id₀, hid₀⟩ := he.knownAs
  have hfirst : s.wizard.editor.KnownAs id₀ := Wizard.knownAs_of_start hs hid₀
  obtain ⟨id, hid⟩ := shared_run hfirst dashboard actions
  have hstep : s.wizard.InStep := (Wizard.inStep_start hs).1
  refine ⟨⟨id, hid⟩, ?_, ?_⟩
  · intro traffic
    have hafter : (s.run dashboard actions).wizard.InStep :=
      inStep_run hstep (clean_of_readable hstep hr)
    exact Wizard.saveDraft_onlyIdentifies hafter hid dashboard traffic
  · rintro before ⟨later, rfl⟩ hbefore t ht
    obtain ⟨known, hknown⟩ := shared_run hfirst dashboard before
    have hsome : known ≠ none := by
      rw [← hknown _ List.mem_cons_self]
      exact hbefore
    obtain ⟨first, rfl⟩ := Option.ne_none_iff_exists'.mp hsome
    obtain ⟨last, hlast⟩ := identified_run hknown dashboard later
    rw [run_append] at ht
    rw [hlast t ht]
    exact Option.some_ne_none last

/-- A draft, a new body text that is undone, and a draft to which nobody replies. -/
def savedTwice : List Wizard.Action :=
  [.saveDraft, .update (.str "body.text") (.str "Your order is late."), .undo, .saveDraft]

/-- All templates keep the identifier that the first draft was given. -/
theorem saved_run_savedTwice :
    ((inReview.run (some nearby) savedTwice).wizard.editor.snapshots.all fun t =>
      t.id.isSome) = true := by
  have hvalidate : inReview.wizard.template.validate (.int 4) = .ok ⟨true, [], []⟩ := by
    decide +kernel
  have hreachable : inReview.wizard.editor.Reachable := by
    refine ⟨inReview.wizard.template, .int 4, inReview.wizard.editor, [], ?_, rfl⟩
    unfold Editor.start
    rw [hvalidate]
    rfl
  have hstart : Wizard.start inReview.wizard.editor = .ok inReview.wizard :=
    Wizard.start_of_report rfl hvalidate
  have hreadable : ∀ before, before <+: savedTwice →
      (inReview.run (some nearby) before).wizard.template.Readable := by
    have hall : ∀ b ∈ List.inits savedTwice,
        (inReview.run (some nearby) b).wizard.template.Readable := by
      decide +kernel
    exact fun before h => hall before (List.mem_inits _ _ |>.mpr h)
  have hsaved := saved_run hreachable hstart (some nearby) hreadable
  have hkept := hsaved.2.2 [.saveDraft] ⟨savedTwice.tail, rfl⟩ (by decide +kernel)
  exact List.all_eq_true.mpr fun t ht => Option.isSome_iff_ne_none.mpr (hkept t ht)

end Session

end MessageTemplate
