import MessageTemplate.Proofs.Editor.Identifier
import Mathlib.Data.List.Infix

/-!
# The name of a stored template

Once a template has an identifier no edit changes its name, but undoing an edit that was made
before brings back the name of that time, under the identifier.

* `Editor.Stacked` — new snapshots on top of what is left of older ones;
* `Editor.perform_stacked` — what an action does to such a stack;
* `Editor.name_run` — the name changes only when an edit from before the identifier is undone;
* `Editor.name_after_undo` — and then it does.
-/

set_option autoImplicit false

namespace MessageTemplate.Editor

/-- The snapshots of the editor are new ones on top of what is left of old ones, all under one
identifier, and the new ones have the name of the latest old one. -/
structure Stacked (old : List Template) (id : Identifier) (fresh : List Template) (t : Template)
    (rest : List Template) (e : Editor) : Prop where
  left : t :: rest <:+ old
  snapshots_eq : e.snapshots = fresh ++ (t :: rest).map (identified (some id))
  fresh_like : ∀ u ∈ fresh, u.id = some id ∧ u.name = t.name

variable {e : Editor} {old fresh rest : List Template} {id : Identifier} {t : Template}

/-- The current template of a stack has the identifier and the name of the latest old one. -/
theorem Stacked.template_like (h : Stacked old id fresh t rest e) :
    e.template.id = some id ∧ e.template.name = t.name := by
  have hsnapshots := h.snapshots_eq
  cases fresh with
  | nil =>
    rw [(List.cons.inj hsnapshots).1]
    exact ⟨rfl, rfl⟩
  | cons u fresh =>
    rw [(List.cons.inj hsnapshots).1]
    exact h.fresh_like u List.mem_cons_self

/-- Snapshots under an identifier are a stack on their own. -/
theorem stacked_of_knownAs (h : e.KnownAs (some id)) :
    Stacked e.snapshots id [] e.template e.past e := by
  have hsame : ∀ u ∈ e.snapshots, identified (some id) u = u := by
    intro u hu
    unfold identified
    rw [← h u hu]
  have hmap : e.snapshots.map (identified (some id)) = e.snapshots :=
    (List.map_congr_left hsame).trans (List.map_id' _)
  exact ⟨List.suffix_refl _, hmap.symm, List.forall_mem_nil _⟩

/-- **An action keeps what is left of the old snapshots**, under another identifier at most, unless
it undoes the edit that was made on the latest of those before. -/
theorem perform_stacked (h : Stacked old id fresh t rest e) {a : Action}
    (ha : a ≠ .markSaved none) :
    (∃ id fresh, Stacked old id fresh t rest (e.next a)) ∨
    (a = .undo ∧ fresh = [] ∧ ∃ t' rest', rest = t' :: rest' ∧
      Stacked old id [] t' rest' (e.next a)) := by
  obtain ⟨hleft, hsnapshots, hfresh⟩ := h
  have hchange : e.Change a (e.next a).snapshots := perform_change e a
  generalize hafter : (e.next a).snapshots = after at hchange
  cases hchange with
  | kept _ _ _ => exact Or.inl ⟨id, fresh, hleft, hafter.trans hsnapshots, hfresh⟩
  | @edited c u hcommand hu _ =>
    obtain ⟨hid, hname⟩ := Stacked.template_like ⟨hleft, hsnapshots, hfresh⟩
    have hstored : e.template.id ≠ none := by rw [hid]; exact nofun
    refine Or.inl ⟨id, u :: fresh, hleft, ?_, List.forall_mem_cons.mpr ⟨⟨?_, ?_⟩, hfresh⟩⟩
    · rw [List.cons_append, ← hsnapshots]
      exact hafter
    · exact (Template.apply_id hu).trans hid
    · exact (Template.apply_name hstored hu).trans hname
  | undone hundo hpast =>
    cases fresh with
    | nil =>
      -- The stack is down to the old snapshots, and the next one of them comes up.
      have heq : e.past = rest.map (identified (some id)) := (List.cons.inj hsnapshots).2
      cases rest with
      | nil => exact absurd heq hpast
      | cons t' rest' =>
        refine Or.inr ⟨hundo, rfl, t', rest', rfl, ?_, hafter.trans heq, List.forall_mem_nil _⟩
        exact (List.suffix_cons t _).trans hleft
    | cons u fresh =>
      have heq : e.past = fresh ++ (t :: rest).map (identified (some id)) :=
        (List.cons.inj hsnapshots).2
      exact Or.inl ⟨id, fresh, hleft, hafter.trans heq,
        fun v hv => hfresh v (List.mem_cons_of_mem _ hv)⟩
  | @saved saved hsaved =>
    cases saved with
    | none => exact absurd hsaved ha
    | some id' =>
      refine Or.inl ⟨id', fresh.map (identified (some id')), hleft, hafter.trans ?_, ?_⟩
      · rw [hsnapshots, List.map_append, List.map_map]
        rfl
      · intro u hu
        obtain ⟨v, hv, rfl⟩ := List.mem_map.mp hu
        exact ⟨rfl, (hfresh v hv).2⟩

theorem not_mem_concat {actions : List Action} {a b : Action} (h : b ∉ actions ++ [a]) :
    b ∉ actions ∧ a ≠ b := by
  rw [List.mem_append, not_or] at h
  refine ⟨h.1, ?_⟩
  rintro rfl
  exact h.2 (List.mem_singleton_self a)

/-- What is left of the snapshots of a stored template after a run. -/
theorem run_stacked (h : Stacked old id fresh t rest e) {actions : List Action}
    (hsaved : .markSaved none ∉ actions) :
    ∃ id fresh t rest, Stacked old id fresh t rest (e.run actions) := by
  induction actions using List.reverseRecOn with
  | nil => exact ⟨id, fresh, t, rest, h⟩
  | append_singleton actions a ih =>
    obtain ⟨hbefore, ha⟩ := not_mem_concat hsaved
    obtain ⟨id, fresh, t, rest, hstack⟩ := ih hbefore
    rw [run_concat]
    rcases perform_stacked hstack ha with ⟨id, fresh, hstack⟩ | ⟨_, _, t, rest, _, hstack⟩
    · exact ⟨id, fresh, t, rest, hstack⟩
    · exact ⟨id, [], t, rest, hstack⟩

/-- As long as no older edit is undone all of the old snapshots are left. -/
theorem run_stacked_all (h : Stacked e.snapshots id [] e.template e.past e) {actions : List Action}
    (hsaved : .markSaved none ∉ actions)
    (hdepth : ∀ before, before <+: actions → e.past.length ≤ (e.run before).past.length) :
    ∃ id fresh, Stacked e.snapshots id fresh e.template e.past (e.run actions) := by
  induction actions using List.reverseRecOn with
  | nil => exact ⟨id, [], h⟩
  | append_singleton actions a ih =>
    obtain ⟨hbefore, ha⟩ := not_mem_concat hsaved
    obtain ⟨id, fresh, hstack⟩ :=
      ih hbefore fun before hb => hdepth before (hb.trans (List.prefix_append _ _))
    have hlength := hdepth _ (List.prefix_refl _)
    rw [run_concat] at hlength ⊢
    rcases perform_stacked hstack ha with hstack | ⟨_, _, t', rest', hpast, hstack⟩
    · exact hstack
    · -- One old snapshot less would make the history too short.
      have hafter := congrArg List.length hstack.snapshots_eq
      have hbelow := congrArg List.length hpast
      simp only [snapshots, List.length_cons, List.nil_append, List.length_map] at hafter hbelow
      omega

/-- **The name of a stored template is fixed, but for undoing older edits.** Once the template has
an identifier, it keeps one. An action changes its name only by undoing an edit that was made
before: what is left then are snapshots of that time. As long as no such edit is undone, the name
stays. -/
theorem name_run (he : e.Reachable) (hid : e.template.id ≠ none) {actions : List Action}
    {a : Action} (hsaved : .markSaved none ∉ actions ++ [a]) :
    (e.run actions).template.id ≠ none ∧
    (((e.run actions).next a).template.name = (e.run actions).template.name ∨
      (a = .undo ∧ ∃ id, ((e.run actions).next a).snapshots <:+ e.past.map (identified id))) ∧
    ((∀ before, before <+: actions → e.past.length ≤ (e.run before).past.length) →
      (e.run actions).template.name = e.template.name) := by
  obtain ⟨id?, hknown⟩ := he.knownAs
  obtain ⟨first, rfl⟩ : ∃ first, id? = some first :=
    Option.ne_none_iff_exists'.mp fun hnone => hid ((hknown _ List.mem_cons_self).trans hnone)
  have hbefore := stacked_of_knownAs hknown
  obtain ⟨hactions, ha⟩ := not_mem_concat hsaved
  obtain ⟨id, fresh, t, rest, hstack⟩ := run_stacked hbefore hactions
  obtain ⟨hstored, hname⟩ := hstack.template_like
  refine ⟨by rw [hstored]; exact nofun, ?_, ?_⟩
  · rcases perform_stacked hstack ha with ⟨id', fresh', hafter⟩ | ⟨rfl, _, t', rest', rfl, hafter⟩
    · exact Or.inl (hafter.template_like.2.trans hname.symm)
    · refine Or.inr ⟨rfl, some id, ?_⟩
      have hleft : t' :: rest' <:+ e.past := by
        rcases List.suffix_cons_iff.mp hstack.left with heq | hsuffix
        · rw [(List.cons.inj heq).2]
        · exact (List.suffix_cons t _).trans hsuffix
      rw [hafter.snapshots_eq, List.nil_append]
      exact hleft.map _
  · intro hdepth
    obtain ⟨_, _, hall⟩ := run_stacked_all hbefore hactions hdepth
    exact hall.template_like.2

/-! ## A name from before the identifier -/

/-- Another name, and then an identifier. -/
def renamedAndSaved : List Action :=
  [.update (.str "name") (.str "late_order"), .markSaved (some (.text "tpl_1"))]

/-- Later edits that are undone, another step and another identifier. -/
def laterChanges : List Action :=
  [.update (.str "body.text") (.str "Your order is late."), .undo, .setStep (.int 2),
   .markSaved (some (.text "tpl_2")), .update (.str "name") (.str "order_update")]

/-- They leave the name. -/
theorem name_run_laterChanges :
    ((opened.run renamedAndSaved).run laterChanges).template.name =
      (opened.run renamedAndSaved).template.name := by
  have hsaved : Action.markSaved none ∉ laterChanges ++ [.undo] := by simp [laterChanges]
  refine (name_run (reachable_opened.run renamedAndSaved) (by decide +kernel) hsaved).2.2 ?_
  intro before h
  have hall : ∀ b ∈ List.inits laterChanges, (opened.run renamedAndSaved).past.length ≤
      ((opened.run renamedAndSaved).run b).past.length := by
    decide +kernel
  exact hall before (List.mem_inits _ _ |>.mpr h)

/-- **The name of a stored template changes**: undoing the edit that gave it its name brings back
the one before, under the identifier. -/
theorem name_after_undo :
    start .orderUpdate (.int 1) = .ok opened ∧
      (opened.run renamedAndSaved).template.id = some (.text "tpl_1") ∧
      (opened.run renamedAndSaved).template.name = "late_order" ∧
      (opened.run (renamedAndSaved ++ [.undo])).template.id = some (.text "tpl_1") ∧
      (opened.run (renamedAndSaved ++ [.undo])).template.name = "order_update" := by
  refine ⟨start_opened, ?_, ?_, ?_, ?_⟩ <;> decide +kernel

end MessageTemplate.Editor
