import MessageTemplate.Proofs.Editor.FailedAction

/-!
# The history of an editor

* `Editor.standing` — the templates before the edits of a run that are not undone in it, said
  without the past of any editor;
* `Editor.past_run` — they are what a run puts on top of what it leaves of an older past;
* `Editor.undo_edits` — as many undos as edits lead back to where the edits began;
* `Editor.history_run` — the history is an exact stack over every run.
-/

set_option autoImplicit false

namespace MessageTemplate.Editor

/-! ## What a run leaves standing -/

/-- Whether the action is an edit that goes through. -/
def edits (e : Editor) (a : Action) : Bool :=
  a.command?.isSome && (e.perform a).failure.isNone

/-- How many of the edits that were made before are undone by the actions. Every edit among the
actions takes one undo upon itself. -/
def undoneBy : Editor → List Action → Nat
  | _, [] => 0
  | e, a :: rest =>
    match a with
    | .undo => (e.next a).undoneBy rest + 1
    | _ => if e.edits a then (e.next a).undoneBy rest - 1 else (e.next a).undoneBy rest

/-- The identifier that was given last, if one was given. -/
def lastSaved? : List Action → Option (Option Identifier)
  | [] => none
  | .markSaved id :: rest => (lastSaved? rest).or (some id)
  | _ :: rest => lastSaved? rest

/-- The template under the identifier that the actions give it last. -/
def relabelled (actions : List Action) (t : Template) : Template :=
  match lastSaved? actions with
  | some id => identified id t
  | none => t

/-- The templates that were current just before the edits that are not undone by the actions after
them, the oldest first, each under the identifier that was given last after it. -/
def standing : Editor → List Action → List Template
  | _, [] => []
  | e, a :: rest =>
    if e.edits a && (e.next a).undoneBy rest == 0 then
      relabelled rest e.template :: (e.next a).standing rest
    else (e.next a).standing rest

theorem run_cons (e : Editor) (a : Action) (rest : List Action) :
    e.run (a :: rest) = (e.next a).run rest := rfl

theorem relabelled_nil (t : Template) : relabelled [] t = t := rfl

theorem relabelled_cons {a : Action} (ha : ∀ id, a ≠ .markSaved id) (rest : List Action) :
    relabelled (a :: rest) = relabelled rest := by
  have hlast : lastSaved? (a :: rest) = lastSaved? rest := by
    cases a with
    | markSaved id => exact absurd rfl (ha id)
    | dispatch operation => rfl
    | update path value => rfl
    | undo => rfl
    | setStep step => rfl
  funext t
  unfold relabelled
  rw [hlast]

theorem relabelled_markSaved (id : Option Identifier) (rest : List Action) :
    relabelled (.markSaved id :: rest) = relabelled rest ∘ identified id := by
  funext t
  simp only [relabelled, lastSaved?, Function.comp_apply]
  cases lastSaved? rest <;> rfl

theorem not_edits_of_failure {e : Editor} {a : Action} (h : (e.perform a).failure ≠ none) :
    e.edits a = false := by
  unfold edits
  rw [Option.isNone_eq_false_iff.mpr (Option.isSome_iff_ne_none.mpr h), Bool.and_false]

theorem undoneBy_of_edits {e : Editor} {a : Action} (h : e.edits a = true) (rest : List Action) :
    e.undoneBy (a :: rest) = (e.next a).undoneBy rest - 1 := by
  cases a with
  | undo => simp [edits, Action.command?] at h
  | _ => simp only [undoneBy, h, if_true]

theorem undoneBy_of_not_edits {e : Editor} {a : Action} (h : e.edits a = false) (ha : a ≠ .undo)
    (rest : List Action) : e.undoneBy (a :: rest) = (e.next a).undoneBy rest := by
  cases a with
  | undo => exact absurd rfl ha
  | _ => simp only [undoneBy, h, Bool.false_eq_true, if_false]

theorem standing_of_not_edits {e : Editor} {a : Action} (h : e.edits a = false)
    (rest : List Action) : e.standing (a :: rest) = (e.next a).standing rest := by
  simp only [standing, h, Bool.false_and, Bool.false_eq_true, if_false]

/-- A snapshot that stands is the template of an earlier moment under some identifier. -/
theorem mem_standing {e : Editor} {actions : List Action} {t : Template}
    (h : t ∈ e.standing actions) :
    ∃ before id, before <+: actions ∧ t = identified id (e.run before).template := by
  induction actions generalizing e with
  | nil => cases h
  | cons a rest ih =>
    have htail (ht : t ∈ (e.next a).standing rest) :
        ∃ before id, before <+: a :: rest ∧ t = identified id (e.run before).template := by
      obtain ⟨before, id, hprefix, rfl⟩ := ih ht
      exact ⟨a :: before, id, List.cons_prefix_cons.mpr ⟨rfl, hprefix⟩, rfl⟩
    rw [standing] at h
    split at h
    · rcases List.mem_cons.mp h with rfl | ht
      · unfold relabelled
        cases lastSaved? rest with
        | none => exact ⟨[], e.template.id, List.nil_prefix, rfl⟩
        | some id => exact ⟨[], id, List.nil_prefix, rfl⟩
      · exact htail ht
    · exact htail h

/-! ## The past after a run -/

/-- An edit puts the template before it on top of the past. -/
theorem next_of_edits {e : Editor} {a : Action} (h : e.edits a = true) :
    ∃ t r, t.validate e.step = .ok r ∧
      e.next a = { e with template := t, past := e.template :: e.past, validation := r } := by
  rw [edits, Bool.and_eq_true] at h
  obtain ⟨hcommand, hnone⟩ := h
  obtain ⟨command, hcommand⟩ := Option.isSome_iff_exists.mp hcommand
  rw [Option.isNone_iff_eq_none, perform_of_command hcommand] at hnone
  rcases dispatch_cases e command with ⟨_, hfail⟩ | ⟨c, _, hedit, _⟩
  · exact absurd hnone hfail
  · obtain ⟨t, r, _, hr, heq⟩ := edit_eq_ok hedit
    refine ⟨t, r, hr, ?_⟩
    unfold next
    rw [perform_of_command hcommand, heq]

/-- **A run puts the standing templates on top of what is left of the past.** -/
theorem past_run (e : Editor) (actions : List Action) :
    (e.run actions).past =
      (e.standing actions).reverse ++
        (e.past.drop (e.undoneBy actions)).map (relabelled actions) := by
  induction actions generalizing e with
  | nil => simp [standing, undoneBy, funext relabelled_nil]
  | cons a rest ih =>
    rw [run_cons, ih (e.next a)]
    have hchange : e.Change a (e.next a).snapshots := perform_change e a
    generalize hafter : (e.next a).snapshots = after at hchange
    cases hchange with
    | kept hsaved hpast hkept =>
      have hsame : (e.next a).past = e.past := (List.cons.inj hafter).2
      have hedits : e.edits a = false := by
        rcases hkept with hfail | ⟨step, rfl⟩
        · exact not_edits_of_failure hfail
        · rfl
      rw [hsame, standing_of_not_edits hedits, relabelled_cons hsaved]
      by_cases hundo : a = .undo
      · rw [hpast hundo, List.drop_nil, List.drop_nil]
      · rw [undoneBy_of_not_edits hedits hundo]
    | edited hcommand _ hf =>
      have hpast : (e.next a).past = e.template :: e.past := (List.cons.inj hafter).2
      have hedits : e.edits a = true := by
        unfold edits
        rw [hcommand, hf]
        rfl
      have hsaved : ∀ id, a ≠ .markSaved id := by
        rintro id rfl
        cases hcommand
      rw [hpast, undoneBy_of_edits hedits, relabelled_cons hsaved, standing, hedits]
      -- The template before the edit stands if the rest undoes nothing older than itself.
      cases (e.next a).undoneBy rest with
      | zero => simp
      | succ k => simp
    | undone hundo hpast =>
      subst hundo
      obtain ⟨t, past, htop⟩ := List.exists_cons_of_ne_nil hpast
      have hbelow : (e.next .undo).past = past := by
        rw [htop] at hafter
        exact (List.cons.inj hafter).2
      have hsaved : ∀ id, Action.undo ≠ .markSaved id := fun _ h => by cases h
      rw [hbelow, htop, standing_of_not_edits (a := .undo) rfl, relabelled_cons hsaved]
      rfl
    | @saved id hsaved =>
      subst hsaved
      have hpast : (e.next (.markSaved id)).past = e.past.map (identified id) :=
        (List.cons.inj hafter).2
      rw [hpast, standing_of_not_edits (a := .markSaved id) rfl, relabelled_markSaved,
        undoneBy_of_not_edits (a := .markSaved id) rfl nofun, ← List.map_drop, List.map_map]

/-! ## Undoing -/

/-- Undoing brings the latest snapshot back, with the report on it. -/
theorem undo_of_report {e : Editor} {t : Template} {past : List Template} {r : Report}
    (hpast : e.past = t :: past) (hr : t.validate e.step = .ok r) :
    e.perform .undo = { editor := { e with template := t, past := past, validation := r } } := by
  rw [perform_undo hpast]
  simp only [revalidate, hr]

theorem undo_edit {e : Editor} (he : e.Validated) {a : Action} (ha : e.edits a = true) :
    (e.next a).next .undo = e := by
  obtain ⟨t, r, _, heq⟩ := next_of_edits ha
  have hundo := undo_of_report (e := e.next a) (by rw [heq]) (by rw [heq]; exact he)
  show ((e.next a).perform .undo).editor = e
  rw [hundo, heq]

/-- All of the actions are edits that go through, one after another. -/
def AllEdit : Editor → List Action → Prop
  | _, [] => True
  | e, a :: rest => e.edits a = true ∧ (e.next a).AllEdit rest

/-- **As many undos as edits lead back to where the edits began.** -/
theorem undo_edits {e : Editor} (he : e.Validated) {actions : List Action}
    (h : e.AllEdit actions) :
    e.run (actions ++ List.replicate actions.length .undo) = e := by
  induction actions generalizing e with
  | nil => rfl
  | cons a rest ih =>
    obtain ⟨ha, hrest⟩ := h
    have hafter : (e.next a).Validated := by
      obtain ⟨t, r, hr, heq⟩ := next_of_edits ha
      rw [heq]
      exact hr
    have hundos : a :: rest ++ List.replicate (a :: rest).length .undo =
        (a :: (rest ++ List.replicate rest.length .undo)) ++ [.undo] := by
      rw [List.length_cons, List.replicate_succ', List.cons_append, List.cons_append,
        List.append_assoc]
    rw [hundos, run_concat, run_cons, ih hafter hrest]
    exact undo_edit he ha

/-- A report that is up to date stays so over readable templates. -/
theorem run_validated {e : Editor} (he : e.Validated) {actions : List Action}
    (hr : ∀ before, before <+: actions → (e.run before).template.Readable) :
    (e.run actions).Validated := by
  induction actions generalizing e with
  | nil => exact he
  | cons a rest ih =>
    have hafter : (e.next a).template.Readable :=
      hr [a] (List.cons_prefix_cons.mpr ⟨rfl, List.nil_prefix⟩)
    refine ih (perform_validated he a (unchanged_of_readable he hafter)) ?_
    intro before h
    exact hr (a :: before) (List.cons_prefix_cons.mpr ⟨rfl, h⟩)

/-! ## The history as a stack -/

/-- The history after the actions is an exact stack of the templates before the edits. -/
structure HistoryExact (e : Editor) (actions : List Action) : Prop where
  /-- It holds the templates before the edits that are not undone, and nothing else. -/
  history_eq : (e.run actions).history = e.standing actions
  /-- Undoing makes the last of them current and takes only it away. -/
  undo_last : ∀ earlier last, (e.run actions).history = earlier ++ [last] →
    ((e.run actions).perform .undo).failure = none ∧
      ((e.run actions).next .undo).template = last ∧
      ((e.run actions).next .undo).history = earlier ∧
      ((e.run actions).next .undo).step = (e.run actions).step
  /-- Without one of them it fails and changes nothing. -/
  undo_nothing : (e.run actions).history = [] →
    ((e.run actions).perform .undo).failure = some (.edit .nothingToUndo) ∧
      (e.run actions).next .undo = e.run actions
  /-- After edits and as many undos everything is as it was. -/
  restored : ∀ more, (e.run actions).AllEdit more →
    (e.run actions).run (more ++ List.replicate more.length .undo) = e.run actions
  /-- An edit that fails adds nothing. -/
  failed_edit : ∀ a command, a.command? = some command →
    ((e.run actions).perform a).failure ≠ none → (e.run actions).next a = e.run actions
  /-- One that goes through adds the template before it. -/
  added : ∀ a command, a.command? = some command →
    ((e.run actions).perform a).failure = none →
    ((e.run actions).next a).history = (e.run actions).history ++ [(e.run actions).template]
  /-- It does so even if it leaves the template as it is, like one more button for a full set. -/
  added_unchanged : ∀ a c kind, a.command? = some (.ok c) → c.edit = .addButton kind →
    Template.addButton.maxButtonCount ≤ (e.run actions).template.buttonsOrDefault.items.length →
    ((e.run actions).perform a).failure = none ∧
      ((e.run actions).next a).template = (e.run actions).template ∧
      ((e.run actions).next a).history = (e.run actions).history ++ [(e.run actions).template]

theorem history_of_edits {e : Editor} {a : Action} (h : e.edits a = true) :
    (e.next a).history = e.history ++ [e.template] := by
  obtain ⟨t, r, _, heq⟩ := next_of_edits h
  rw [heq]
  exact List.reverse_cons

/-- One more button for a full set is an edit, and leaves the template as it is. -/
theorem edits_addButton {e : Editor} (he : e.Validated) {a : Action} {c : Command} {kind : String}
    (hcommand : a.command? = some (.ok c)) (hc : c.edit = .addButton kind)
    (hfull : Template.addButton.maxButtonCount ≤ e.template.buttonsOrDefault.items.length) :
    e.edits a = true ∧ (e.next a).template = e.template := by
  have happly : e.template.apply c.edit = .ok e.template := by
    rw [hc]
    simp only [Template.apply, Template.addButton, if_pos hfull]
  have hedit : e.edit c.edit = .ok { e with past := e.template :: e.past } := by
    have hvalid : e.template.validate e.step = .ok e.validation := he
    simp only [Editor.edit, happly, hvalid]
  have hperform : e.perform a =
      { editor := { e with past := e.template :: e.past }
        log := [editEntry c.edit { e with past := e.template :: e.past }] } := by
    rw [perform_of_command hcommand]
    simp only [dispatch, hedit]
  constructor
  · unfold edits
    rw [hcommand, hperform]
    rfl
  · unfold next
    rw [hperform]

/-- **The history is an exact stack** over every run of readable templates. -/
theorem history_run {t : Template} {step : Data} {e : Editor} (hstart : start t step = .ok e)
    {actions : List Action}
    (hr : ∀ before, before <+: actions → (e.run before).template.Readable) :
    e.HistoryExact actions := by
  have hvalid : (e.run actions).Validated := run_validated (start_validated hstart) hr
  have hempty : e.past = [] := by
    unfold start at hstart
    split at hstart
    · cases hstart
      rfl
    · cases hstart
  have hpast : (e.run actions).past = (e.standing actions).reverse := by
    rw [past_run, hempty, List.drop_nil, List.map_nil, List.append_nil]
  have hhistory : (e.run actions).history = e.standing actions := by
    unfold history
    rw [hpast, List.reverse_reverse]
  have hedits {a : Action} {command : Except Failure Command} (ha : a.command? = some command)
      (hf : ((e.run actions).perform a).failure = none) : (e.run actions).edits a = true := by
    unfold edits
    rw [ha, hf]
    rfl
  exact {
    history_eq := hhistory
    undo_last := by
      intro earlier last heq
      have htop : (e.run actions).past = last :: earlier.reverse := by
        rw [hpast, ← hhistory, heq, List.reverse_append]
        rfl
      -- The snapshot has the texts of an earlier moment, so there is a report on it.
      have hlast : last ∈ e.standing actions := by
        rw [← hhistory, heq]
        exact List.mem_append_right _ (List.mem_singleton_self _)
      obtain ⟨before, id, hprefix, rfl⟩ := mem_standing hlast
      have hreadable : (identified id (e.run before).template).Readable := hr before hprefix
      obtain ⟨r, hreport⟩ := validate_of_readable hvalid hreadable
      have hundo := undo_of_report htop hreport
      unfold next
      rw [hundo]
      exact ⟨rfl, rfl, List.reverse_reverse _, rfl⟩
    undo_nothing := by
      intro heq
      have hnone : (e.run actions).past = [] := List.reverse_eq_nil_iff.mp heq
      have hundo : (e.run actions).perform .undo =
          { editor := e.run actions, failure := some (.edit .nothingToUndo) } := by
        simp only [perform, undo, hnone]
      unfold next
      rw [hundo]
      exact ⟨rfl, rfl⟩
    restored := fun more h => undo_edits hvalid h
    failed_edit := by
      intro a command ha hf
      unfold next
      rw [perform_of_command ha] at hf ⊢
      exact dispatch_unchanged hf
    added := fun a command ha hf => history_of_edits (hedits ha hf)
    added_unchanged := by
      intro a c kind ha hc hfull
      obtain ⟨hedit, hsame⟩ := edits_addButton hvalid ha hc hfull
      have hnone : ((e.run actions).perform a).failure = none := by
        rw [edits, Bool.and_eq_true, Option.isNone_iff_eq_none] at hedit
        exact hedit.2
      exact ⟨hnone, hsame, history_of_edits hedit⟩ }

/-- Two edits, an identifier, a third one, and an edit and an undo more. -/
def savedBetween : List Action :=
  [.update (.str "name") (.str "late_order"), .update (.str "body.text") (.str "Your order is late."),
   .markSaved (some (.text "tpl_1")), .update (.str "footer.text") (.str "Sorry"), .undo,
   .update (.str "header.colour") (.str "red"), .setStep (.int 2)]

/-- The history holds the templates before the first two, under the identifier. -/
theorem history_run_savedBetween :
    (opened.run savedBetween).history =
      [identified (some (.text "tpl_1")) .orderUpdate,
       { Template.orderUpdate with id := some (.text "tpl_1"), name := "late_order" }] := by
  have hexact : opened.HistoryExact savedBetween := by
    refine history_run start_opened ?_
    intro before h
    have hall : ∀ b ∈ List.inits savedBetween, (opened.run b).template.Readable := by
      decide +kernel
    exact hall before (List.mem_inits _ _ |>.mpr h)
  rw [hexact.history_eq]
  decide +kernel

end MessageTemplate.Editor
