import MessageTemplate.Proofs.Dashboard.Answers
import MessageTemplate.Proofs.Wizard.Submission

/-!
# The draft of a session on the dashboard

* `Wizard.saveDraft_eq` — a wizard takes over the identifier in the answer to a draft;
* `Session.filed_step` — the identifier that the dashboard gave last is that of the template;
* `Session.stored_once` — after that the template is stored and handed in under it, and is not
  added again;
* `Session.added_twice` — but a submission that stores the template forgets the identifier.
-/

set_option autoImplicit false

namespace MessageTemplate

namespace Wizard

variable {d : Dashboard} {w : Wizard} {t : Traffic}

/-- **A draft that was stored gives its identifier to all templates of the editor**; where the
answer has none the template keeps its own. -/
theorem saveDraft_eq (d : Dashboard) (w : Wizard) (t : Traffic) :
    ((w.saveDraft (some d) t).wizard = w ∧ t.reply.stored? = none) ∨
    (∃ stored, t.reply.stored? = some stored ∧ (w.saveDraft (some d) t).wizard =
      w.withEditor (w.editor.next (.markSaved (stored.id.or w.template.id)))) := by
  have hresult := d.saveDraft_result w.template t
  unfold saveDraft
  simp only
  split
  · rename_i i t' h
    rw [h] at hresult
    exact Or.inl ⟨rfl, Option.map_eq_none_iff.mp hresult.symm⟩
  · rename_i saved t' h
    rw [h] at hresult
    obtain ⟨stored, hstored, hsaved⟩ := Option.map_eq_some_iff.mp hresult.symm
    refine Or.inr ⟨stored, hstored, ?_⟩
    rw [← hsaved]
    split
    · rfl
    · rfl

/-- After a draft the templates have the identifier in the answer, or else the one before. -/
theorem saveDraft_knownAs {id : Option Identifier} (hid : t.reply.storedId?.or w.template.id = id)
    (hw : t.reply.storedId? = none → w.editor.KnownAs id) :
    (w.saveDraft (some d) t).wizard.editor.KnownAs id := by
  unfold Reply.storedId? at hid hw
  rcases saveDraft_eq d w t with ⟨h, hnone⟩ | ⟨stored, hstored, h⟩
  · rw [hnone] at hw
    rw [h]
    exact hw rfl
  · rw [hstored, Option.bind_some] at hid
    rw [h, hid]
    exact Editor.markSaved_knownAs w.editor id

/-- A template with an identifier is only stored in its place, by a draft, or handed in. -/
theorem Sends.identified {id : Identifier} (hid : w.template.id = some id) {a : Action}
    {requests : List Request} (h : w.Sends d t a requests) :
    requests = [] ∨ (a = .saveDraft ∧ requests = [d.storing w.template]) ∨
      (a = .submit ∧ requests = [d.submitting (some id)]) := by
  cases h with
  | quiet a => exact Or.inl rfl
  | saveDraft => exact Or.inr (Or.inl ⟨rfl, rfl⟩)
  | submit _ hhands =>
    cases hhands with
    | stored _ =>
      rw [hid]
      exact Or.inr (Or.inr ⟨rfl, rfl⟩)
    | notStored hnone =>
      rw [hid] at hnone
      cases hnone
    | storedFirst hnone _ _ =>
      rw [hid] at hnone
      cases hnone

end Wizard

namespace Session

variable {d : Dashboard} {s : Session} {replies : List Reply}

/-! ## Runs -/

/-- After the actions the templates have an identifier, and it is the last one that the dashboard
gave. -/
def Filed (d : Dashboard) (s : Session) (replies : List Reply) (actions : List Wizard.Action)
    (id : Identifier) : Prop :=
  (s.run (some d) actions).wizard.editor.KnownAs (some id) ∧
    d.LastId (Traffic.turns replies (s.run (some d) actions).traffic.sent) id

/-- The turn of a draft. -/
theorem turns_saveDraft (ht : s.traffic = { pending := replies }) (actions : List Wizard.Action) :
    Traffic.turns replies (s.run (some d) (actions ++ [.saveDraft])).traffic.sent =
      Traffic.turns replies (s.run (some d) actions).traffic.sent ++
        [(d.storing (s.run (some d) actions).wizard.template,
          (s.run (some d) actions).traffic.reply)] := by
  obtain ⟨hsent, _⟩ := Wizard.saveDraft_sent d (s.run (some d) actions).wizard
    (s.run (some d) actions).traffic
  rw [run_concat]
  unfold step outcome
  simp only [Wizard.perform]
  rw [hsent, turns_run ht, Traffic.turns_reply]

/-- A draft whose answer has an identifier files the template under it. -/
theorem filed_saveDraft (ht : s.traffic = { pending := replies }) {actions : List Wizard.Action}
    {id : Identifier} (hid : (s.run (some d) actions).traffic.reply.storedId? = some id) :
    Filed d s replies (actions ++ [.saveDraft]) id := by
  constructor
  · rw [run_concat]
    refine Wizard.saveDraft_knownAs ?_ ?_
    · rw [hid]
      rfl
    · rw [hid]
      exact nofun
  · rw [turns_saveDraft ht]
    exact Dashboard.lastId_concat (d.stores_storing _) hid _

/-- **Every action leaves the template filed**, under another identifier only if the dashboard
gives it one. -/
theorem filed_step (ht : s.traffic = { pending := replies }) {actions : List Wizard.Action}
    {id : Identifier} (h : Filed d s replies actions id) (a : Wizard.Action) :
    ∃ id, Filed d s replies (actions ++ [a]) id := by
  obtain ⟨hknown, hlast⟩ := h
  have hid : (s.run (some d) actions).wizard.template.id = some id :=
    hknown _ List.mem_cons_self
  by_cases ha : a = .saveDraft
  · subst ha
    cases hreply : (s.run (some d) actions).traffic.reply.storedId? with
    | some id' => exact ⟨id', filed_saveDraft ht hreply⟩
    | none =>
      refine ⟨id, ?_, ?_⟩
      · rw [run_concat]
        refine Wizard.saveDraft_knownAs ?_ fun _ => hknown
        rw [hreply, hid]
        rfl
      · rw [turns_saveDraft ht]
        apply hlast.append
        intro turn hturn _
        rw [List.mem_singleton.mp hturn]
        exact hreply
  · obtain ⟨requests, hsends, hsent, _⟩ := Wizard.perform_sent d
      (s.run (some d) actions).wizard (s.run (some d) actions).traffic a
    refine ⟨id, ?_, ?_⟩
    · rw [run_concat]
      exact Wizard.perform_knownAs hknown (some d) _ ha
    · rw [run_concat]
      unfold step outcome
      rw [hsent, turns_run ht]
      apply hlast.append
      -- Nothing is stored by an action that is no draft.
      intro turn hturn hstores
      have hmem : turn.1 ∈ requests := by
        have := List.mem_map_of_mem (f := Prod.fst) hturn
        rwa [Traffic.map_fst_turns] at this
      rcases hsends.identified hid with rfl | ⟨rfl, _⟩ | ⟨_, rfl⟩
      · cases hmem
      · exact absurd rfl ha
      · rw [List.mem_singleton.mp hmem] at hstores
        exact absurd hstores (Dashboard.not_stores_of_submits (d.submits_submitting _))

/-- After a draft whose answer has an identifier the template stays filed. -/
theorem filed_run (ht : s.traffic = { pending := replies }) {first : List Wizard.Action}
    {id : Identifier} (hid : (s.run (some d) first).traffic.reply.storedId? = some id)
    (later : List Wizard.Action) :
    ∃ id, Filed d s replies (first ++ .saveDraft :: later) id := by
  induction later using List.reverseRecOn with
  | nil => exact ⟨id, filed_saveDraft ht hid⟩
  | append_singleton later a ih =>
    obtain ⟨id, hfiled⟩ := ih
    have hafter := filed_step ht hfiled a
    rwa [List.append_assoc, List.cons_append] at hafter

/-- **A draft is added once.** After a draft whose answer has an identifier no action adds a
template to the dashboard: every draft is stored in the place, and every submission handed in at
the place, of the identifier that the dashboard gave last. -/
theorem stored_once (ht : s.traffic = { pending := replies }) {first later : List Wizard.Action}
    {id : Identifier} (hid : (s.run (some d) first).traffic.reply.storedId? = some id)
    {a : Wizard.Action} {sent : List Request} {r : Request}
    (h : s.Sends (some d) (first ++ .saveDraft :: later) a sent r) :
    ¬ d.Adds r ∧ ∃ id, d.LastId (Traffic.turns replies sent) id ∧
      ((a = .saveDraft ∧ r.method = .put ∧ r.address = d.addressOf id) ∨
        (a = .submit ∧ r.method = .post ∧ r.address = d.addressOf id ++ "/submit")) := by
  obtain ⟨id, hknown, hlast⟩ := filed_run ht hid later
  have htemplate : (s.run (some d) (first ++ .saveDraft :: later)).wizard.template.id = some id :=
    hknown _ List.mem_cons_self
  obtain ⟨sentBefore, sentAfter, rfl, hrequests⟩ := h.requests
  -- The action sends one request only, so all before it were sent by the actions before.
  rcases hrequests.identified htemplate with hnone | ⟨rfl, hone⟩ | ⟨rfl, hone⟩
  · simp at hnone
  · obtain ⟨rfl, rfl⟩ := Wizard.only_request hone
    obtain ⟨hmethod, haddress⟩ := Dashboard.storing_identified (d := d) htemplate
    rw [List.append_nil]
    exact ⟨Dashboard.not_adds_of_put hmethod, id, hlast, Or.inl ⟨rfl, hmethod, haddress⟩⟩
  · obtain ⟨rfl, rfl⟩ := Wizard.only_request hone
    obtain ⟨hmethod, haddress⟩ := d.submitting_identified id
    rw [List.append_nil]
    exact ⟨Dashboard.not_adds_of_submits (d.submits_submitting _), id, hlast,
      Or.inr ⟨rfl, hmethod, haddress⟩⟩

/-! ## A submission that stores the template -/

/-- A submission after a draft is handed in under the identifier of the draft. -/
theorem stored_once_inReview :
    ∃ id, nearby.LastId (Traffic.turns inReview.traffic.pending
        [nearby.storing inReview.wizard.template]) id ∧
      (nearby.submitting (some (.text "tpl_1"))).address = nearby.addressOf id ++ "/submit" := by
  have hsent : (inReview.run (some nearby) [.saveDraft, .submit]).traffic.sent =
      [nearby.storing inReview.wizard.template, nearby.submitting (some (.text "tpl_1"))] := by
    decide +kernel
  have hsends : inReview.Sends (some nearby) [.saveDraft] .submit
      [nearby.storing inReview.wizard.template] (nearby.submitting (some (.text "tpl_1"))) :=
    ⟨⟨[], hsent.symm⟩, by decide +kernel⟩
  have hid : (inReview.run (some nearby) []).traffic.reply.storedId? = some (.text "tpl_1") := by
    decide +kernel
  obtain ⟨_, id, hlast, hrequest⟩ := stored_once rfl hid hsends
  refine ⟨id, hlast, ?_⟩
  rcases hrequest with ⟨hsave, _⟩ | ⟨_, _, haddress⟩
  · cases hsave
  · exact haddress

/-- **A template is added to the dashboard twice**: by a submission, whose answer gives it an
identifier, and by a draft after it. -/
theorem added_twice :
    Wizard.start inReview.wizard.editor = .ok inReview.wizard ∧
      inReview.Sends (some nearby) [] .submit [] (nearby.storing inReview.wizard.template) ∧
      inReview.traffic.reply.storedId? = some (.text "tpl_1") ∧
      inReview.Sends (some nearby) [.submit] .saveDraft
        [nearby.storing inReview.wizard.template, nearby.submitting (some (.text "tpl_1"))]
        (nearby.storing inReview.wizard.template) ∧
      nearby.Adds (nearby.storing inReview.wizard.template) := by
  have hreport : inReview.wizard.template.report .review = .ok ⟨true, [], []⟩ := by
    decide +kernel
  have hfirst : (inReview.run (some nearby) [.submit]).traffic.sent =
      [nearby.storing inReview.wizard.template, nearby.submitting (some (.text "tpl_1"))] := by
    decide +kernel
  have hsecond : (inReview.run (some nearby) [.submit, .saveDraft]).traffic.sent =
      [nearby.storing inReview.wizard.template, nearby.submitting (some (.text "tpl_1")),
       nearby.storing inReview.wizard.template] := by
    decide +kernel
  refine ⟨Wizard.start_of_report rfl hreport, ⟨⟨_, hfirst.symm⟩, by decide +kernel⟩,
    by decide +kernel, ⟨⟨[], hsecond.symm⟩, by decide +kernel⟩, ?_⟩
  exact ⟨rfl, by decide +kernel⟩

end Session

end MessageTemplate
