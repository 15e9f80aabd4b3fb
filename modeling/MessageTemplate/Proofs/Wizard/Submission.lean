import MessageTemplate.Proofs.Dashboard.Turns
import MessageTemplate.Proofs.Editor.Identifier
import MessageTemplate.Proofs.Wizard.Session
import Mathlib.Data.List.Induction

/-!
# What a wizard submits

* `Wizard.perform_sent` — the requests of an action;
* `Session.Sends` — in a run an action sends a request after others;
* `Session.content_of_identified` — an identifier comes from content that the dashboard accepted;
* `Session.submitted_content` — what the dashboard has last accepted when a template is handed in;
* `Session.submitted_before_storing` — which need not be the template that was validated.
-/

set_option autoImplicit false

namespace MessageTemplate

namespace Wizard

variable {d : Dashboard} {w : Wizard} {t : Traffic}

/-! ## Requests of an action -/

theorem move_sent {a : Action} (ha : a.IsMove) (dashboard : Option Dashboard) (w : Wizard)
    (t : Traffic) : t.After [] (w.perform dashboard t a).traffic := by
  cases h : w.target? a with
  | some s =>
    rw [perform_of_target h]
    unfold moveTo
    simp only
    split
    · exact (Traffic.After.refl t).record _
    · exact Traffic.After.refl t
  | none =>
    obtain ⟨_, _, entries, htraffic⟩ := perform_of_no_target ha h dashboard t
    rw [htraffic]
    exact (Traffic.After.refl t).record entries

theorem edit_sent (w : Wizard) (t : Traffic) (a : Editor.Action) :
    t.After [] (w.edit t a).traffic := by
  unfold edit
  simp only
  split
  · exact (Traffic.After.refl t).record _
  · exact (Traffic.After.refl t).record _

theorem saveDraft_sent (d : Dashboard) (w : Wizard) (t : Traffic) :
    t.After [d.storing w.template] (w.saveDraft (some d) t).traffic := by
  have hsent := d.saveDraft_sent w.template t
  unfold saveDraft
  simp only
  split
  · rename_i h
    rw [h] at hsent
    exact hsent
  · rename_i h
    rw [h] at hsent
    split
    · exact hsent
    · exact hsent

/-- The requests that an action may send: one for a draft, those of a hand-in for a submission. -/
inductive Sends (d : Dashboard) (w : Wizard) (t : Traffic) : Action → List Request → Prop
  | quiet (a : Action) : Sends d w t a []
  | saveDraft : Sends d w t .saveDraft [d.storing w.template]
  | submit {requests : List Request}
      (hvalid : ∃ r, w.template.report .review = .ok r ∧ r.valid = true)
      (h : d.HandsIn w.template t requests) : Sends d w t .submit requests

theorem submit_sent (d : Dashboard) (w : Wizard) (t : Traffic) :
    ∃ requests, w.Sends d t .submit requests ∧ t.After requests (w.submit (some d) t).traffic := by
  unfold submit
  split
  · exact ⟨[], .quiet _, Traffic.After.refl t⟩
  · split
    · exact ⟨[], .quiet _, Traffic.After.refl t⟩
    · split
      · rename_i report hreport hvalid
        obtain ⟨requests, hafter, h⟩ := d.submit_sent w.template (t.record [w.submitEntry report])
        refine ⟨requests, ?_, ?_⟩
        · rcases h with rfl | ⟨hvalid, hhands⟩
          · exact .quiet _
          · refine .submit hvalid ?_
            cases hhands with
            | stored hid => exact .stored hid
            | notStored hid => exact .notStored hid
            | storedFirst hid haccepts id => exact .storedFirst (t := t) hid haccepts id
        · simp only
          split
          · rename_i h
            rw [h] at hafter
            exact hafter
          · rename_i h
            rw [h] at hafter
            exact hafter
      · exact ⟨[], .quiet _, Traffic.After.refl t⟩

/-- **The requests of an action**: only drafts and submissions of valid templates send any. -/
theorem perform_sent (d : Dashboard) (w : Wizard) (t : Traffic) (a : Action) :
    ∃ requests, w.Sends d t a requests ∧ t.After requests (w.perform (some d) t a).traffic := by
  cases a with
  | dispatch operation => exact ⟨[], .quiet _, edit_sent w t _⟩
  | update path value => exact ⟨[], .quiet _, edit_sent w t _⟩
  | undo => exact ⟨[], .quiet _, edit_sent w t _⟩
  | advance => exact ⟨[], .quiet _, move_sent (a := .advance) trivial (some d) w t⟩
  | back => exact ⟨[], .quiet _, move_sent (a := .back) trivial (some d) w t⟩
  | goTo step => exact ⟨[], .quiet _, move_sent (a := .goTo step) trivial (some d) w t⟩
  | saveDraft => exact ⟨_, .saveDraft, saveDraft_sent d w t⟩
  | submit => exact submit_sent d w t

/-! ## Identifiers and content -/

/-- Only a draft changes the identifier. -/
theorem perform_knownAs {id : Option Identifier} (hw : w.editor.KnownAs id)
    (dashboard : Option Dashboard) (t : Traffic) {a : Action} (ha : a ≠ .saveDraft) :
    (w.perform dashboard t a).wizard.editor.KnownAs id := by
  rcases perform_cases dashboard w t a with h | ⟨b, hb, h, _⟩ | ⟨s, _, h, _⟩
  · rw [h]
    exact hw
  · rw [h]
    apply Editor.perform_knownAs hw
    intro id hid
    rcases hb with hedit | ⟨hsave, _⟩
    · rw [hid] at hedit
      cases a <;> cases hedit
    · exact ha hsave
  · rw [h]
    unfold entering
    simp only
    split
    · exact hw
    · exact hw

/-- Only a draft that the dashboard accepts brings an identifier. -/
theorem perform_unsaved (hw : w.editor.Unsaved) (d : Dashboard) (t : Traffic) (a : Action) :
    (w.perform (some d) t a).wizard.editor.Unsaved ∨ (a = .saveDraft ∧ t.Accepts) := by
  by_cases ha : a = .saveDraft
  · subst ha
    simp only [perform, saveDraft]
    split
    · exact Or.inl hw
    · rename_i saved t' h
      exact Or.inr ⟨trivial, Dashboard.accepts_of_saveDraft (congrArg Prod.fst h)⟩
  · have hnone : w.editor.KnownAs none := hw
    exact Or.inl (perform_knownAs hnone (some d) t ha)

/-- Only edits change what would be sent. -/
theorem perform_submission {a : Action} (ha : a.edit? = none) (dashboard : Option Dashboard)
    (w : Wizard) (t : Traffic) :
    (w.perform dashboard t a).wizard.template.submission = w.template.submission := by
  rcases perform_cases dashboard w t a with h | ⟨b, hb, h, _⟩ | ⟨s, _, h, _⟩
  · rw [h]
  · rw [h]
    rcases hb with hedit | ⟨_, id, rfl⟩
    · rw [ha] at hedit
      cases hedit
    · exact Editor.markSaved_submission w.editor id
  · rw [h]
    unfold entering template
    simp only
    split
    · rfl
    · rfl

/-- The content that an action stores is that of the template. -/
theorem Sends.payload {a : Action} {requests : List Request} (h : w.Sends d t a requests)
    {r : Request} (hr : r ∈ requests) (hstores : d.Stores r) :
    r.payload = some w.template.submission.toData ∧ a.edit? = none := by
  have hsubmitting (id : Option Identifier) : ¬ d.Stores (d.submitting id) :=
    Dashboard.not_stores_of_submits (d.submits_submitting id)
  cases h with
  | quiet a => cases hr
  | saveDraft =>
    rw [List.mem_singleton.mp hr]
    exact ⟨rfl, rfl⟩
  | submit _ hhands =>
    cases hhands with
    | stored _ =>
      rw [List.mem_singleton.mp hr] at hstores
      exact absurd hstores (hsubmitting _)
    | notStored _ =>
      rw [List.mem_singleton.mp hr]
      exact ⟨rfl, rfl⟩
    | storedFirst _ _ id =>
      rcases List.mem_cons.mp hr with rfl | hr
      · exact ⟨rfl, rfl⟩
      · rw [List.mem_singleton.mp hr] at hstores
        exact absurd hstores (hsubmitting _)

/-- The only request of an action has none before it. -/
theorem only_request {before after : List Request} {r x : Request}
    (h : before ++ r :: after = [x]) : before = [] ∧ r = x := by
  rcases List.append_eq_singleton_iff.mp h with ⟨hbefore, hafter⟩ | ⟨_, hafter⟩
  · exact ⟨hbefore, (List.cons.inj hafter).1⟩
  · cases hafter

/-- A hand-in comes from a submission of a valid template, either as its only request, or after
the dashboard has accepted the content of a template without identifier. -/
theorem Sends.handsIn {a : Action} {before after : List Request} {r : Request}
    (h : w.Sends d t a (before ++ r :: after)) (hr : d.Submits r) :
    a = .submit ∧ (∃ r, w.template.report .review = .ok r ∧ r.valid = true) ∧
      ((before = [] ∧ w.template.id ≠ none) ∨
        (before = [d.storing w.template] ∧ w.template.id = none ∧ t.Accepts)) := by
  have hstoring : r ≠ d.storing w.template := by
    rintro rfl
    exact Dashboard.not_stores_of_submits hr (d.stores_storing _)
  have hmem : r ∈ before ++ r :: after := List.mem_append_right _ List.mem_cons_self
  generalize hrequests : before ++ r :: after = requests at h hmem
  cases h with
  | quiet a => cases hmem
  | saveDraft => exact absurd (List.mem_singleton.mp hmem) hstoring
  | submit hvalid hhands =>
    refine ⟨rfl, hvalid, ?_⟩
    cases hhands with
    | stored hid => exact Or.inl ⟨(only_request hrequests).1, hid⟩
    | notStored _ => exact absurd (List.mem_singleton.mp hmem) hstoring
    | storedFirst hid haccepts id =>
      cases before with
      | nil => exact absurd (List.cons.inj hrequests).1 hstoring
      | cons x before =>
        obtain ⟨rfl, hrest⟩ := List.cons.inj hrequests
        rw [(only_request hrest).1]
        exact Or.inr ⟨rfl, hid, haccepts⟩

end Wizard

namespace Session

/-! ## Runs -/

/-- After the actions, the action sends the request, and the requests before it are those of the
whole run. -/
def Sends (dashboard : Option Dashboard) (s : Session) (actions : List Wizard.Action)
    (a : Wizard.Action) (before : List Request) (r : Request) : Prop :=
  before ++ [r] <+: (s.run dashboard (actions ++ [a])).traffic.sent ∧
    (s.run dashboard actions).traffic.sent.length ≤ before.length

variable {d : Dashboard} {s : Session} {replies : List Reply}

theorem run_pending (ht : s.traffic = { pending := replies }) (actions : List Wizard.Action) :
    (s.run (some d) actions).traffic.pending =
      replies.drop (s.run (some d) actions).traffic.sent.length := by
  induction actions using List.reverseRecOn with
  | nil =>
    rw [run_nil, ht]
    rfl
  | append_singleton actions a ih =>
    obtain ⟨requests, _, hsent, hpending⟩ := Wizard.perform_sent d
      (s.run (some d) actions).wizard (s.run (some d) actions).traffic a
    rw [run_concat]
    unfold step outcome
    rw [hpending, hsent, ih, List.drop_drop, List.length_append]

/-- What an action sends in a run, as one of its requests. -/
theorem Sends.requests {actions : List Wizard.Action} {a : Wizard.Action}
    {before : List Request} {r : Request} (h : s.Sends (some d) actions a before r) :
    ∃ sentBefore after, before = (s.run (some d) actions).traffic.sent ++ sentBefore ∧
      (s.run (some d) actions).wizard.Sends d (s.run (some d) actions).traffic a
        (sentBefore ++ r :: after) := by
  obtain ⟨requests, hsends, hsent, _⟩ := Wizard.perform_sent d
    (s.run (some d) actions).wizard (s.run (some d) actions).traffic a
  obtain ⟨⟨after, hprefix⟩, hlength⟩ := h
  rw [run_concat, List.append_assoc, List.singleton_append] at hprefix
  have heq := hprefix.trans hsent
  obtain ⟨sentBefore, hbefore⟩ : (s.run (some d) actions).traffic.sent <+: before :=
    List.prefix_of_prefix_length_le ⟨requests, heq.symm⟩ ⟨_, rfl⟩ hlength
  refine ⟨sentBefore, after, hbefore.symm, ?_⟩
  rw [← hbefore, List.append_assoc] at heq
  rw [List.append_cancel_left heq]
  exact hsends

/-- Every request of a run was sent by one of its actions. -/
theorem sender (hs : s.traffic.sent = []) {actions : List Wizard.Action} {before : List Request}
    {r : Request} (h : before ++ [r] <+: (s.run (some d) actions).traffic.sent) :
    ∃ moment b later, actions = moment ++ b :: later ∧ s.Sends (some d) moment b before r := by
  induction actions using List.reverseRecOn with
  | nil =>
    rw [run_nil, hs, List.prefix_nil] at h
    simp at h
  | append_singleton actions a ih =>
    by_cases hlength : (s.run (some d) actions).traffic.sent.length ≤ before.length
    · exact ⟨actions, a, [], rfl, h, hlength⟩
    · obtain ⟨requests, _, hsent, _⟩ := Wizard.perform_sent d
        (s.run (some d) actions).wizard (s.run (some d) actions).traffic a
      have hgrows : (s.run (some d) actions).traffic.sent <+:
          (s.run (some d) (actions ++ [a])).traffic.sent := by
        rw [run_concat]
        exact ⟨requests, hsent.symm⟩
      have hbefore := List.prefix_of_prefix_length_le h hgrows (by simp; omega)
      obtain ⟨moment, b, later, hsplit, hsends⟩ := ih hbefore
      exact ⟨moment, b, later ++ [a], by simp [hsplit], hsends⟩

/-- The turns of a run, up to the requests of its last action. -/
theorem turns_run (ht : s.traffic = { pending := replies }) (actions : List Wizard.Action)
    (requests : List Request) :
    Traffic.turns replies ((s.run (some d) actions).traffic.sent ++ requests) =
      Traffic.turns replies (s.run (some d) actions).traffic.sent ++
        Traffic.turns (s.run (some d) actions).traffic.pending requests := by
  rw [Traffic.turns_append, run_pending ht]

/-- **An identifier comes from content that the dashboard accepted.** -/
theorem content_of_identified (he : s.wizard.editor.Unsaved)
    (ht : s.traffic = { pending := replies }) {actions : List Wizard.Action}
    (h : ¬ (s.run (some d) actions).wizard.editor.Unsaved) :
    ∃ turn ∈ Traffic.turns replies (s.run (some d) actions).traffic.sent,
      d.Stores turn.1 ∧ turn.2.isAccepted = true := by
  induction actions using List.reverseRecOn with
  | nil => exact absurd he h
  | append_singleton actions a ih =>
    obtain ⟨requests, _, hsent, _⟩ := Wizard.perform_sent d
      (s.run (some d) actions).wizard (s.run (some d) actions).traffic a
    rw [run_concat] at h ⊢
    unfold step outcome at h ⊢
    by_cases hbefore : (s.run (some d) actions).wizard.editor.Unsaved
    · obtain ⟨rfl, reply, hreply, haccepted⟩ :=
        (Wizard.perform_unsaved hbefore d _ a).resolve_left h
      obtain ⟨hsent, _⟩ := Wizard.saveDraft_sent d (s.run (some d) actions).wizard
        (s.run (some d) actions).traffic
      simp only [Wizard.perform]
      rw [hsent, turns_run ht, Traffic.turns_singleton hreply]
      refine ⟨_, List.mem_append_right _ (List.mem_singleton_self _), ?_, haccepted⟩
      exact d.stores_storing _
    · obtain ⟨turn, hturn, hstored⟩ := ih hbefore
      rw [hsent, turns_run ht]
      exact ⟨turn, List.mem_append_left _ hturn, hstored⟩

/-- Without edits a run changes nothing that would be sent. -/
theorem run_submission {dashboard : Option Dashboard} {moment later : List Wizard.Action}
    (h : ∀ a ∈ later, a.edit? = none) :
    (s.run dashboard (moment ++ later)).wizard.template.submission =
      (s.run dashboard moment).wizard.template.submission := by
  induction later using List.reverseRecOn with
  | nil => rw [List.append_nil]
  | append_singleton later a ih =>
    rw [← List.append_assoc, run_concat]
    unfold step outcome
    rw [Wizard.perform_submission (h a (by simp))]
    apply ih
    intro b hb
    exact h b (List.mem_append_left _ hb)

/-- The last accepted content of a run was sent at one of its moments, with the template of that
moment. -/
theorem content_sender (hs : s.traffic.sent = []) {actions : List Wizard.Action}
    {earlier : List Turn} {content : Request}
    (h : d.LastContent (Traffic.turns replies (s.run (some d) actions).traffic.sent) earlier
      content) :
    ∃ moment b later, actions = moment ++ b :: later ∧ b.edit? = none ∧
      s.Sends (some d) moment b (earlier.map Prod.fst) content ∧
      content.payload = some (s.run (some d) moment).wizard.template.submission.toData := by
  obtain ⟨reply, after, hturns, hstores, _⟩ := h
  have hsent := congrArg (List.map Prod.fst) hturns
  rw [Traffic.map_fst_turns, List.map_append, List.map_cons] at hsent
  have hprefix : earlier.map Prod.fst ++ [content] <+: (s.run (some d) actions).traffic.sent :=
    ⟨after.map Prod.fst, by simp [hsent]⟩
  obtain ⟨moment, b, later, hsplit, hsends⟩ := sender hs hprefix
  obtain ⟨sentBefore, sentAfter, _, hrequests⟩ := hsends.requests
  obtain ⟨hpayload, hb⟩ := hrequests.payload (by simp) hstores
  exact ⟨moment, b, later, hsplit, hb, hsends, hpayload⟩

/-! ## Submissions -/

/-- **What the dashboard has accepted when a template is handed in.** The hand-in comes from a
submission, and the template is valid then. The last content that the dashboard accepted before it
was sent in the same run by a draft or by the submission itself, and is that of the template of
that moment: of the submitted template if it had no identifier, or if nothing was edited or undone
since. -/
theorem submitted_content (he : s.wizard.editor.Unsaved) (ht : s.traffic = { pending := replies })
    {actions : List Wizard.Action} {a : Wizard.Action} {before : List Request} {r : Request}
    (h : s.Sends (some d) actions a before r) (hr : d.Submits r) :
    a = .submit ∧
    (∃ report, (s.run (some d) actions).wizard.template.report .review = .ok report ∧
      report.valid = true) ∧
    ∃ earlier content moment b later,
      d.LastContent (Traffic.turns replies before) earlier content ∧
      actions ++ [a] = moment ++ b :: later ∧
      s.Sends (some d) moment b (earlier.map Prod.fst) content ∧
      content.payload = some (s.run (some d) moment).wizard.template.submission.toData ∧
      ((s.run (some d) actions).wizard.template.id = none → later = []) ∧
      ((∀ c ∈ later, c.edit? = none) →
        content.payload = some (s.run (some d) actions).wizard.template.submission.toData) := by
  have hsent : s.traffic.sent = [] := by rw [ht]
  obtain ⟨sentBefore, sentAfter, hbefore, hrequests⟩ := h.requests
  obtain ⟨rfl, hvalid, hcase⟩ := hrequests.handsIn hr
  refine ⟨rfl, hvalid, ?_⟩
  rcases hcase with ⟨rfl, hid⟩ | ⟨rfl, hid, reply, hreply, haccepted⟩
  · -- The template is stored: its identifier came from content that was accepted.
    rw [List.append_nil] at hbefore
    have hsaved : ¬ (s.run (some d) actions).wizard.editor.Unsaved := by
      intro hunsaved
      exact hid (hunsaved _ List.mem_cons_self)
    obtain ⟨earlier, content, hlast⟩ :=
      Dashboard.exists_lastContent (content_of_identified he ht hsaved)
    obtain ⟨moment, b, later, hsplit, hb, hsends, hpayload⟩ := content_sender hsent hlast
    refine ⟨earlier, content, moment, b, later ++ [.submit], ?_, ?_, hsends, hpayload, ?_, ?_⟩
    · rw [hbefore]
      exact hlast
    · simp [hsplit]
    · intro hnone
      exact absurd hnone hid
    · intro hedits
      have hlater : ∀ c ∈ b :: later, c.edit? = none := by
        intro c hc
        rcases List.mem_cons.mp hc with rfl | hc
        · exact hb
        · exact hedits c (List.mem_append_left _ hc)
      rw [hpayload, hsplit, run_submission hlater]
  · -- The template has no identifier: the submission itself has stored it.
    refine ⟨Traffic.turns replies (s.run (some d) actions).traffic.sent,
      d.storing (s.run (some d) actions).wizard.template, actions, .submit, [], ?_, rfl, ?_, rfl,
      fun _ => rfl, fun _ => rfl⟩
    · refine ⟨reply, [], ?_, d.stores_storing _, haccepted, fun turn hturn => nomatch hturn⟩
      rw [hbefore, turns_run ht, Traffic.turns_singleton hreply]
    · rw [Traffic.map_fst_turns]
      refine ⟨?_, le_rfl⟩
      rw [← hbefore]
      exact (List.prefix_append _ _).trans h.1

/-! ## An edit after a draft -/

/-- The dashboard of the examples. -/
def nearby : Dashboard := { address := Dashboard.defaultAddress }

/-- A session in the review of a valid template, with a dashboard that accepts two requests. -/
def inReview : Session where
  wizard :=
    { editor :=
        { template :=
            { name := "order_update", category := "UTILITY", language := "en",
              body := { text := "Your order has left our store." } }
          step := .int 4
          validation := ⟨true, [], []⟩ }
      current := .review
      furthest := .review }
  traffic :=
    { pending :=
        [.response 200 (some (.value (.object [("_id", .str "tpl_1"), ("components", .list [])]))),
         .response 200 none] }

theorem inReview_unsaved : inReview.wizard.editor.Unsaved := by
  intro t ht
  rw [List.mem_singleton.mp ht]
  rfl

/-- A draft and a submission of the template that it stored. -/
theorem submitted_content_inReview :
    ∃ earlier content,
      nearby.LastContent (Traffic.turns inReview.traffic.pending
        [nearby.storing inReview.wizard.template]) earlier content ∧
      content.payload =
        some (inReview.run (some nearby) [.saveDraft]).wizard.template.submission.toData := by
  have hsent : (inReview.run (some nearby) [.saveDraft, .submit]).traffic.sent =
      [nearby.storing inReview.wizard.template, nearby.submitting (some (.text "tpl_1"))] := by
    decide +kernel
  have hsends : inReview.Sends (some nearby) [.saveDraft] .submit
      [nearby.storing inReview.wizard.template] (nearby.submitting (some (.text "tpl_1"))) :=
    ⟨⟨[], hsent.symm⟩, by decide +kernel⟩
  obtain ⟨_, _, earlier, content, moment, b, later, hlast, hsplit, _, _, _, hunedited⟩ :=
    submitted_content inReview_unsaved rfl hsends (nearby.submits_submitting _)
  refine ⟨earlier, content, hlast, hunedited ?_⟩
  intro c hc
  have hmem : c ∈ [Wizard.Action.saveDraft] ++ [.submit] := by
    rw [hsplit]
    exact List.mem_append_right _ (List.mem_cons_of_mem _ hc)
  rcases List.mem_cons.mp hmem with rfl | hmem
  · rfl
  · rw [List.mem_singleton.mp hmem]
    rfl

/-- A draft, and another body text. -/
def reworded : List Wizard.Action :=
  [.saveDraft, .update (.str "body.text") (.str "Your order is late.")]

/-- **A template is handed in with other content than the one that was validated**, if it was
edited after it was stored. -/
theorem submitted_before_storing :
    Wizard.start inReview.wizard.editor = .ok inReview.wizard ∧
      inReview.wizard.editor.Unsaved ∧
      inReview.Sends (some nearby) reworded .submit [nearby.storing inReview.wizard.template]
        (nearby.submitting (some (.text "tpl_1"))) ∧
      nearby.Submits (nearby.submitting (some (.text "tpl_1"))) ∧
      nearby.LastContent
        (Traffic.turns inReview.traffic.pending [nearby.storing inReview.wizard.template]) []
        (nearby.storing inReview.wizard.template) ∧
      (nearby.storing inReview.wizard.template).payload ≠
        some (inReview.run (some nearby) reworded).wizard.template.submission.toData := by
  have hsent : (inReview.run (some nearby) (reworded ++ [.submit])).traffic.sent =
      [nearby.storing inReview.wizard.template, nearby.submitting (some (.text "tpl_1"))] := by
    decide +kernel
  have hreport : inReview.wizard.template.report .review = .ok ⟨true, [], []⟩ := by
    decide +kernel
  refine ⟨Wizard.start_of_report rfl hreport, inReview_unsaved, ⟨⟨[], hsent.symm⟩, by decide +kernel⟩,
    nearby.submits_submitting _, ⟨_, [], rfl, nearby.stores_storing _, rfl, nofun⟩, ?_⟩
  decide +kernel

end Session

end MessageTemplate
