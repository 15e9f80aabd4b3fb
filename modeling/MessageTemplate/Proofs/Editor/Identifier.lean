import MessageTemplate.Proofs.Edit.Details
import MessageTemplate.Proofs.Editor.Run

/-!
# Identifiers in an editor

* `Editor.Unsaved` — no template of the editor has an identifier;
* `Editor.KnownAs` — all of them have the same one;
* `Editor.perform_knownAs`, `Editor.Reachable.knownAs` — only taking over an identifier changes
  which, so this is always so;
* `Editor.markSaved_submission` — and it changes nothing that would be sent.
-/

set_option autoImplicit false

namespace MessageTemplate.Editor

/-- Neither the template nor one before it has an identifier. -/
def Unsaved (e : Editor) : Prop := ∀ t ∈ e.template :: e.past, t.id = none

/-- All templates of the editor have the identifier, or all of them have none. -/
def KnownAs (e : Editor) (id : Option Identifier) : Prop := ∀ t ∈ e.snapshots, t.id = id

theorem knownAs_start {t : Template} {step : Data} {e : Editor} (h : start t step = .ok e) :
    e.KnownAs t.id := by
  unfold start at h
  split at h
  · cases h
    intro u hu
    rw [List.mem_singleton.mp hu]
  · cases h

/-- **Only taking over an identifier changes the identifier.** -/
theorem perform_knownAs {e : Editor} {id : Option Identifier} (he : e.KnownAs id) {a : Action}
    (ha : ∀ id, a ≠ .markSaved id) : (e.perform a).editor.KnownAs id := by
  have hchange := perform_change e a
  unfold KnownAs
  generalize (e.perform a).editor.snapshots = after at hchange
  cases hchange with
  | kept _ _ _ => exact he
  | edited _ ht _ =>
    have hid := (Template.apply_id ht).trans (he _ List.mem_cons_self)
    exact List.forall_mem_cons.mpr ⟨hid, he⟩
  | undone _ _ => exact fun t h => he t (List.mem_cons_of_mem _ h)
  | saved hsaved => exact absurd hsaved (ha _)

/-- Taking over an identifier gives it to all templates. -/
theorem markSaved_knownAs (e : Editor) (id : Option Identifier) :
    (e.perform (.markSaved id)).editor.KnownAs id := by
  have hchange := perform_change e (.markSaved id)
  unfold KnownAs
  generalize (e.perform (.markSaved id)).editor.snapshots = after at hchange
  cases hchange with
  | kept ha _ _ => exact absurd rfl (ha id)
  | edited ha _ _ => cases ha
  | undone ha _ => cases ha
  | saved ha =>
    cases ha
    intro t ht
    obtain ⟨u, _, rfl⟩ := List.mem_map.mp ht
    rfl

/-- **The templates of an editor share one identifier.** -/
theorem Reachable.knownAs {e : Editor} (h : e.Reachable) : ∃ id, e.KnownAs id := by
  obtain ⟨t, step, e₀, actions, hstart, rfl⟩ := h
  induction actions using List.reverseRecOn with
  | nil => exact ⟨t.id, knownAs_start hstart⟩
  | append_singleton actions a ih =>
    obtain ⟨id, hid⟩ := ih
    rw [run_concat]
    by_cases ha : ∃ saved, a = .markSaved saved
    · obtain ⟨saved, rfl⟩ := ha
      exact ⟨saved, markSaved_knownAs _ saved⟩
    · exact ⟨id, perform_knownAs hid fun saved h => ha ⟨saved, h⟩⟩

/-- Taking over an identifier changes nothing that would be sent. -/
theorem markSaved_submission (e : Editor) (id : Option Identifier) :
    (e.perform (.markSaved id)).editor.template.submission = e.template.submission := by
  have hsnapshots := snapshots_revalidate
    { e with template := identified id e.template, past := e.past.map (identified id) }
  have htemplate := (List.cons.inj hsnapshots).1
  simp only [perform, markSaved, htemplate]
  rfl

end MessageTemplate.Editor
