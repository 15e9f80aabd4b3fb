import MessageTemplate.Proofs.Edit.Buttons
import MessageTemplate.Proofs.Editor.Run
import MessageTemplate.Proofs.Validation.Buttons
import MessageTemplate.Proofs.Validation.Gap

/-!
# The number of buttons in an editor

* `ButtonSet.overfull` — the error about more than ten buttons;
* `Template.overfull_mem_iff` — exactly the templates that show more than ten have it, in the steps
  that look at the buttons;
* `Editor.forall_snapshots_run` — what edits keep holds of all templates of a run;
* `Editor.buttons_run` — a run that begins with at most ten buttons never comes to more, so the error
  is never reported, and an empty list is shown only if the buttons are switched on.
-/

set_option autoImplicit false

namespace MessageTemplate

open Finding

/-! ## The error about too many buttons -/

/-- The error about more than ten buttons. -/
def ButtonSet.overfull : Issue := ⟨"buttons", "Maximum 10 buttons allowed"⟩

namespace ButtonSet

variable {category : String} {items : List Button}

theorem overfull_mem_sizeFindings_iff :
    ⟨.error, overfull⟩ ∈ sizeFindings category items ↔ 10 < items.length := by
  unfold sizeFindings
  simp only
  split
  · rename_i hmany
    exact iff_of_true (List.mem_singleton_self _) hmany
  · rename_i hfew
    refine iff_of_false (fun hmem => ?_) hfew
    by_cases hcategory : category = "AUTHENTICATION"
    · -- This category has a limit of its own, with a message of its own.
      subst hcategory
      exact absurd (List.mem_singleton.mp (mem_of_mem_onlyIf hmem)) (by decide)
    · have hrules : (CategoryRules.of category).maxButtons = maxButtons := by
        rw [CategoryRules.of_other hcategory]
      simp [onlyIf, hrules, hfew] at hmem

theorem overfull_not_mem_mixFindings : ⟨.error, overfull⟩ ∉ mixFindings items := by
  intro hmem
  unfold mixFindings at hmem
  simp only [List.mem_append] at hmem
  rcases hmem with (hmem | hmem) | hmem
  · exact absurd (List.mem_singleton.mp (mem_of_mem_onlyIf hmem)) (by decide)
  · exact absurd (List.mem_singleton.mp (mem_of_mem_onlyIf hmem)) (by decide)
  · exact absurd (List.mem_singleton.mp (mem_of_mem_onlyIf hmem)) (by decide)

theorem overfull_mem_shownFindings_iff (category : String) :
    ⟨.error, overfull⟩ ∈ shownFindings category items ↔ 10 < items.length := by
  have hsingle : ⟨.error, overfull⟩ ∉ findingsFrom category 0 items := by
    intro hmem
    obtain ⟨i, b, _, hf⟩ := mem_findingsFrom_iff.mp hmem
    obtain ⟨part, hpart, hfield⟩ := Button.onParts_findings _ hf
    have hconcerns := (Button.concerns_fieldAt_iff (j := 0 + i) hpart).mpr rfl
    rw [← hfield] at hconcerns
    exact Button.not_concerns_together hconcerns
  unfold shownFindings
  rw [List.mem_append, List.mem_append, or_iff_right hsingle,
    or_iff_left overfull_not_mem_mixFindings, overfull_mem_sizeFindings_iff]

end ButtonSet

namespace Template

variable {t : Template}

theorem overfull_mem_buttonFindings_iff : ⟨.error, ButtonSet.overfull⟩ ∈ t.buttonFindings ↔
    t.buttonsOrDefault.enabled = true ∧ 10 < t.buttonsOrDefault.items.length := by
  unfold buttonFindings buttonsOrDefault
  cases t.buttons with
  | none => simp
  | some set =>
    simp only [Option.getD_some]
    by_cases hshown : set.enabled = true
    · cases hitems : set.items with
      | nil => simp [onlyIf]
      | cons b rest =>
        rw [← hitems, ← ButtonSet.overfull_mem_shownFindings_iff t.category]
        simp [onlyIf, hshown, hitems]
    · simp [onlyIf, hshown]

/-- **The error is on templates that show more than ten buttons**, in the steps that look at the
buttons. -/
theorem overfull_mem_iff {s : Step} {r : Report} (h : t.report s = .ok r) :
    ButtonSet.overfull ∈ r.errors ↔
      (s = .buttons ∨ s = .review) ∧ t.buttonsOrDefault.enabled = true ∧
        10 < t.buttonsOrDefault.items.length := by
  have helsewhere : ∀ {fields : List String} {fs : List Finding}, Within fields fs →
      "buttons" ∉ fields → ⟨.error, ButtonSet.overfull⟩ ∉ fs :=
    fun hwithin hfields hmem => hfields (hwithin _ hmem)
  have hdetails := helsewhere (within_detailFindings t) (by decide)
  have hcontent : ∀ {fs}, t.contentFindings = .ok fs → ⟨.error, ButtonSet.overfull⟩ ∉ fs :=
    fun hfs => helsewhere (within_contentFindings hfs) (by decide)
  unfold report reportAfter at h
  cases hfs : t.findings s with
  | error e =>
    rw [hfs] at h
    cases h
  | ok fs =>
    rw [hfs] at h
    cases h
    rw [List.map_nil, List.nil_append]
    show ButtonSet.overfull ∈ Report.issues .error fs ↔ _
    rw [Report.mem_issues_iff]
    cases s with
    | details =>
      cases hfs
      simp [hdetails]
    | content => simp [hcontent hfs]
    | buttons =>
      cases hfs
      simp [overfull_mem_buttonFindings_iff]
    | review =>
      cases honContent : t.contentFindings with
      | error e =>
        rw [findings, honContent] at hfs
        cases hfs
      | ok onContent =>
        rw [findings, honContent] at hfs
        cases hfs
        simp [hdetails, hcontent honContent, overfull_mem_buttonFindings_iff]

end Template

/-! ## Runs -/

namespace Editor

variable {e : Editor}

/-- What edits of some kind and a new identifier keep holds of all templates of a run of such
edits. -/
theorem forall_snapshots_run {P : Template → Prop} (allowed : Edit → Prop)
    (hedit : ∀ {t after edit}, allowed edit → t.apply edit = .ok after → P t → P after)
    (hsaved : ∀ {t} id, P t → P (identified id t)) (he : ∀ t ∈ e.snapshots, P t)
    {actions : List Action}
    (hactions : ∀ a ∈ actions, ∀ c, a.command? = some (.ok c) → allowed c.edit) :
    ∀ t ∈ (e.run actions).snapshots, P t := by
  induction actions using List.reverseRecOn with
  | nil => exact he
  | append_singleton actions a ih =>
    rw [List.forall_mem_append, List.forall_mem_singleton] at hactions
    have hbefore := ih hactions.1
    rw [run_concat]
    have hchange : (e.run actions).Change a ((e.run actions).next a).snapshots :=
      perform_change (e.run actions) a
    generalize ((e.run actions).next a).snapshots = after at hchange
    cases hchange with
    | kept _ _ _ => exact hbefore
    | edited ha ht _ =>
      exact List.forall_mem_cons.mpr
        ⟨hedit (hactions.2 _ ha) ht (hbefore _ List.mem_cons_self), hbefore⟩
    | undone _ _ => exact fun t ht => hbefore t (List.mem_cons_of_mem _ ht)
    | saved _ => exact List.forall_mem_map.mpr fun t ht => hsaved _ (hbefore t ht)

/-- After an action the report is the one from before, or the one on the template. -/
theorem perform_validation (e : Editor) (a : Action) :
    (e.perform a).editor.validation = e.validation ∨ (e.perform a).editor.Validated := by
  have hrevalidate : ∀ e' : Editor, e'.validation = e.validation →
      e'.revalidate.editor.validation = e.validation ∨ e'.revalidate.editor.Validated := by
    intro e' hsame
    by_cases hf : e'.revalidate.failure = none
    · exact .inr (validated_revalidate hf)
    · rcases revalidate_eq e' with ⟨_, _, heq⟩ | ⟨_, _, heq⟩
      · rw [heq] at hf
        exact absurd rfl hf
      · rw [heq]
        exact .inl hsame
  have hdispatch : ∀ command, (e.dispatch command).editor.validation = e.validation ∨
      (e.dispatch command).editor.Validated := by
    intro command
    rcases dispatch_cases e command with ⟨hsame, _⟩ | ⟨c, _, hedit, _⟩
    · exact .inl (by rw [hsame])
    · obtain ⟨t, r, _, hr, heq⟩ := edit_eq_ok hedit
      rw [heq]
      exact .inr hr
  cases a with
  | dispatch operation => exact hdispatch _
  | update path value => exact hdispatch _
  | undo =>
    simp only [perform, undo]
    split
    · exact .inl rfl
    · exact hrevalidate _ rfl
  | setStep step =>
    simp only [perform]
    split
    · rename_i after hafter
      obtain ⟨r, hr, rfl⟩ := setStep_eq_ok hafter
      exact .inr hr
    · exact .inl rfl
  | markSaved id => exact hrevalidate _ rfl

/-- Whether an action gives the edit that switches the buttons on. -/
def Action.switchesOn (a : Action) : Bool :=
  match a.command? with
  | some (.ok c) => c.edit = .setButtonsEnabled true
  | _ => false

theorem Action.not_switchesOn {a : Action} (h : a.switchesOn = false) {c : Command}
    (hc : a.command? = some (.ok c)) : c.edit ≠ .setButtonsEnabled true := by
  unfold switchesOn at h
  rw [hc] at h
  exact of_decide_eq_false h

/-- No template with at most ten buttons has the error, in whatever step. -/
theorem overfull_not_mem {t : Template} (ht : t.buttonsOrDefault.items.length ≤ 10) {step : Data}
    {r : Report} (hr : t.validate step = .ok r) : ButtonSet.overfull ∉ r.errors := by
  unfold Template.validate at hr
  cases hs : Step.ofData step with
  | error failure =>
    rw [hs] at hr
    cases hr
  | ok s =>
    rw [hs] at hr
    rw [Template.overfull_mem_iff hr]
    exact fun h => absurd h.2.2 (Nat.not_lt.mpr ht)

/-- **A run never comes to more than ten buttons**, if it begins with at most ten: none of the
templates that the editor holds has more, in no step do they have the error about more, and the
report does not have it either. If the buttons are not switched on in the run, and it does not begin
with an empty list that is shown, then none of these templates shows an empty list. -/
theorem buttons_run {t : Template} {step : Data} {e : Editor} (hstart : start t step = .ok e)
    (hfew : t.buttonsOrDefault.items.length ≤ 10) (actions : List Action) :
    (∀ u ∈ (e.run actions).snapshots, u.buttonsOrDefault.items.length ≤ 10 ∧
      ∀ step r, u.validate step = .ok r → ButtonSet.overfull ∉ r.errors) ∧
    ButtonSet.overfull ∉ (e.run actions).validation.errors ∧
    (t.buttonsOrDefault.ShowsSome → (∀ a ∈ actions, a.switchesOn = false) →
      ∀ u ∈ (e.run actions).snapshots, u.buttonsOrDefault.ShowsSome) := by
  obtain ⟨rfl, hpast⟩ : e.template = t ∧ e.past = [] := by
    unfold start at hstart
    split at hstart
    · cases hstart
      exact ⟨rfl, rfl⟩
    · cases hstart
  have hsnapshots : e.snapshots = [e.template] := by rw [snapshots, hpast]
  have hlimit : ∀ actions : List Action,
      ∀ u ∈ (e.run actions).snapshots, u.buttonsOrDefault.items.length ≤ 10 := by
    intro actions
    refine forall_snapshots_run (fun _ => True)
      (fun _ happly => (Template.apply_buttons happly).length_le) (fun _ h => h) ?_
      (fun _ _ _ _ => trivial)
    rw [hsnapshots]
    exact List.forall_mem_singleton.mpr hfew
  refine ⟨fun u hu => ⟨hlimit actions u hu, fun _ _ => overfull_not_mem (hlimit actions u hu)⟩,
    ?_, fun hshows hon => ?_⟩
  · induction actions using List.reverseRecOn with
    | nil => exact overfull_not_mem hfew (start_validated hstart)
    | append_singleton actions a ih =>
      have hcurrent := hlimit (actions ++ [a]) _ List.mem_cons_self
      rw [run_concat] at hcurrent ⊢
      rcases perform_validation (e.run actions) a with hsame | hvalidated
      · show _ ∉ ((e.run actions).perform a).editor.validation.errors
        rw [hsame]
        exact ih
      · exact overfull_not_mem hcurrent hvalidated
  · refine forall_snapshots_run (· ≠ .setButtonsEnabled true)
      (fun hedit happly hshows => (Template.apply_buttons happly).shows hshows hedit)
      (fun _ h => h) ?_ (fun a ha c hc => Action.not_switchesOn (hon a ha) hc)
    rw [hsnapshots]
    exact List.forall_mem_singleton.mpr hshows

/-- Eleven additions, ten removals, and the last removal is undone. -/
def filledAndEmptied : List Action :=
  List.replicate 11 (.dispatch (.object [("op", .str "add_button")])) ++
    List.replicate 10 (.dispatch (.object [("op", .str "remove_button"), ("index", .int 0)])) ++
    [.undo]

/-- The eleventh addition changes nothing but the history, and undoing brings one button back. -/
theorem buttons_run_filledAndEmptied :
    (opened.run (filledAndEmptied.take 11)).template.buttonsOrDefault.items.length = 10 ∧
    (opened.run filledAndEmptied).template.buttonsOrDefault = ⟨true, [{}]⟩ ∧
    (opened.run filledAndEmptied).past.length = 20 ∧
    ButtonSet.overfull ∉ (opened.run filledAndEmptied).validation.errors ∧
    ∀ u ∈ (opened.run filledAndEmptied).snapshots, u.buttonsOrDefault.ShowsSome := by
  obtain ⟨_, hreport, hshows⟩ := buttons_run start_opened (by decide) filledAndEmptied
  exact ⟨by decide +kernel, by decide +kernel, by decide +kernel, hreport,
    hshows (by decide) (by decide +kernel)⟩

end Editor

end MessageTemplate
