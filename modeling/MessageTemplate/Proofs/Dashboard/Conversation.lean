import MessageTemplate.Proofs.Dashboard.HandIn
import MessageTemplate.Proofs.Dashboard.Reading
import MessageTemplate.Proofs.Dashboard.Transport

/-!
# The conversation of a submission

* `Reply.Holds` — an accepted answer with a document that describes a template;
* `Reply.Legible` — a reply that is read or refused, whatever was asked;
* `Dashboard.Conversation` — which requests a submission sends, in which order and with which
  payloads, and what it comes to;
* `Dashboard.submit_conversation` — every submission is such a conversation, and where all replies
  are legible, it comes to the content of an answer or is refused.

All of it is read off `Dashboard.HandedIn`, which tells the turns by the operations that take them.
-/

set_option autoImplicit false

namespace MessageTemplate

/-! ## Replies -/

/-- What is refused is no failure, whatever was asked for. -/
theorem isAnswer_error {α β : Type} {i : Interruption}
    (h : IsAnswer (.error i : Except Interruption α)) :
    IsAnswer (.error i : Except Interruption β) := by
  intro e he
  exact h e (congrArg Except.error (Except.error.inj he))

namespace Reply

/-- What comes of a request to add a template: the template in the answer. -/
def added (r : Reply) : Except Interruption Template := r.result.bind Dashboard.templateIn

/-- An accepted answer with a document that describes the template. -/
inductive Holds (stored : Template) : Reply → Prop
  | document {status : Int} {content : Data} (hstatus : status < 400)
    (hstored : Template.ofStored content = .ok stored) :
    Holds stored (.response status (some (.value content)))

/-- A reply that is read or refused: an answer whose body is no document, or is one that does not
break the reading off if it is accepted, or no answer. -/
inductive Legible : Reply → Prop
  | noBody (status : Int) : Legible (.response status none)
  | noDocument (status : Int) {document : Document} (h : ¬ document.IsValue)
    (hshallow : document ≠ .tooDeep) : Legible (.response status (some document))
  | document {status : Int} {content : Data} (h : status < 400 → ¬ content.BreaksOff) :
    Legible (.response status (some (.value content)))
  | timeout : Legible .timeout
  | unreachable (reason : String) : Legible (.unreachable reason)

variable {r : Reply} {stored : Template}

/-- Accepted content stands in an answer, or is null in place of a body. -/
theorem content?_eq_some {content : Data} (h : r.content? = some content) :
    ∃ status body, r = .response status body ∧ status < 400 ∧
      (body = none ∧ content = .null ∨ body = some (.value content)) := by
  unfold content? at h
  split at h
  · split at h
    · rename_i hstatus
      exact ⟨_, none, rfl, hstatus, .inl ⟨rfl, (Option.some.inj h).symm⟩⟩
    · cases h
  · split at h
    · rename_i hstatus
      exact ⟨_, _, rfl, hstatus, .inr (by rw [Option.some.inj h])⟩
    · cases h
  · cases h

/-- A template comes in an answer exactly if it is accepted and holds the template. -/
theorem holds_iff : r.Holds stored ↔ r.stored? = some stored := by
  constructor
  · rintro ⟨hstatus, hstored⟩
    unfold stored?
    exact Option.bind_eq_some_iff.mpr ⟨_, if_pos hstatus, by rw [hstored]; rfl⟩
  · intro h
    obtain ⟨content, _, hcontent, hdescribes, hstored⟩ := exists_describes h
    obtain ⟨status, body, rfl, hstatus, ⟨_, rfl⟩ | rfl⟩ := content?_eq_some hcontent
    · cases hdescribes
    · exact .document hstatus hstored

theorem Legible.isAnswer_result (h : r.Legible) : IsAnswer r.result := by
  cases h with
  | noBody status => exact isAnswer_answered status .null
  | noDocument status hnone hshallow =>
    rw [Dashboard.result_no_document hnone hshallow]
    exact isAnswer_refused _
  | document => exact isAnswer_answered _ _
  | timeout => exact isAnswer_refused _
  | unreachable reason => exact isAnswer_refused _

theorem Legible.not_breaksOff (h : r.Legible) {content : Data} (hcontent : r.content? = some content) :
    ¬ content.BreaksOff := by
  obtain ⟨status, body, rfl, hstatus, ⟨_, rfl⟩ | rfl⟩ := content?_eq_some hcontent
  · exact Data.not_breaksOff_null
  · cases h with
    | noDocument _ hnone => exact absurd ⟨content, rfl⟩ hnone
    | document hbreaks => exact hbreaks hstatus

theorem Legible.isAnswer_added (h : r.Legible) : IsAnswer r.added := by
  have hanswer := h.isAnswer_result
  unfold added
  cases hresult : r.result with
  | error i =>
    rw [hresult] at hanswer
    exact isAnswer_error hanswer
  | ok content =>
    have hcontent : r.content? = some content := by
      rw [← toOption_result, hresult]
      rfl
    exact Dashboard.isAnswer_templateIn.mpr (h.not_breaksOff hcontent)

end Reply

/-! ## Requests -/

namespace Dashboard

open Exchange

variable (d : Dashboard) (template : Template)

/-- The request that adds a template: its submission goes to the address of all templates. -/
def adding : Request where
  method := .post
  address := d.templatesAddress
  headers := d.headers
  payload := some template.submission.toData

/-- The request that hands in the template under an identifier. It has no payload. -/
def handingIn (id : Option Identifier) : Request where
  method := .post
  address := d.templatesAddress ++ "/" ++ (Data.ofIdentifier? id).text ++ "/submit"
  headers := d.headers
  payload := none

variable {template}

theorem storing_unsaved (hid : template.id = none) : d.storing template = d.adding template := by
  have haddress := address_templates d .post "" (some template.submission.toData)
  rw [String.append_empty, String.append_empty] at haddress
  unfold storing savingRoute adding
  rw [hid, ← haddress]
  rfl

theorem submitting_eq (id : Option Identifier) : d.submitting id = d.handingIn id := by
  unfold submitting handingIn templateEndpoint
  simp only [String.append_assoc]
  rw [← address_templates d .post _ none]
  rfl

/-! ## Conversations -/

/-- How a submission goes. A template that is not valid is refused for its errors, without a
request. One with an identifier is handed in under it. One without is added first, and handed in
exactly if the answer holds a template; otherwise the submission ends as the request to add it. -/
structure Conversation (d : Dashboard) (template : Template) (report : Report) (turns : List Turn)
    (result : Except Interruption Data) : Prop where
  invalid : report.valid = false → turns = [] ∧ ∃ refusal, result = .error (.refused refusal) ∧
    refusal.status = 422 ∧ refusal.details = .list (report.errors.map Issue.toData)
  identified : report.valid = true → ∀ id, template.id = some id → ∃ reply,
    turns = [(d.handingIn (some id), reply)] ∧ result = reply.result
  unsaved : report.valid = true → template.id = none → ∃ reply later,
    turns = (d.adding template, reply) :: later ∧
    (∀ stored, reply.Holds stored → ∃ reply',
      later = [(d.handingIn stored.id, reply')] ∧ result = reply'.result) ∧
    ((∀ stored, ¬ reply.Holds stored) → later = [] ∧ ∃ i,
      reply.added = .error i ∧ result = .error i)

variable {d} {report : Report} {t : Traffic} {turns : List Turn} {result : Except Interruption Data}

theorem conversation_invalid (hinvalid : report.valid = false) :
    d.Conversation template report [] (.error (.refused (invalid report.errors))) where
  invalid _ := ⟨rfl, _, rfl, rfl, rfl⟩
  identified hvalid := nomatch hinvalid.symm.trans hvalid
  unsaved hvalid := nomatch hinvalid.symm.trans hvalid

theorem conversation_identified (hvalid : report.valid = true) {id : Identifier}
    (hid : template.id = some id) (reply : Reply) :
    d.Conversation template report [(d.handingIn (some id), reply)] reply.result where
  invalid hinvalid := nomatch hinvalid.symm.trans hvalid
  identified _ id' hid' := by
    cases hid.symm.trans hid'
    exact ⟨reply, rfl, rfl⟩
  unsaved _ hnone := nomatch hid.symm.trans hnone

/-- A template of which the dashboard makes none is not handed in. -/
theorem conversation_notStored (hvalid : report.valid = true) (hid : template.id = none)
    {reply : Reply} (hnone : reply.stored? = none) {i : Interruption}
    (hadded : reply.added = .error i) :
    d.Conversation template report [(d.adding template, reply)] (.error i) where
  invalid hinvalid := nomatch hinvalid.symm.trans hvalid
  identified _ id hid' := nomatch hid.symm.trans hid'
  unsaved _ _ := by
    refine ⟨reply, [], rfl, fun stored hholds => ?_, fun _ => ⟨rfl, i, hadded, rfl⟩⟩
    exact nomatch hnone.symm.trans (Reply.holds_iff.mp hholds)

theorem conversation_stored (hvalid : report.valid = true) (hid : template.id = none)
    {reply : Reply} {stored : Template} (hstored : reply.stored? = some stored) (reply' : Reply) :
    d.Conversation template report
      [(d.adding template, reply), (d.handingIn stored.id, reply')] reply'.result where
  invalid hinvalid := nomatch hinvalid.symm.trans hvalid
  identified _ id hid' := nomatch hid.symm.trans hid'
  unsaved _ _ := by
    refine ⟨reply, _, rfl, fun stored' hholds => ⟨reply', ?_, rfl⟩, fun hnone => ?_⟩
    · cases hstored.symm.trans (Reply.holds_iff.mp hholds)
      rfl
    · exact absurd (Reply.holds_iff.mpr hstored) (hnone stored)

theorem added_of_saveDraft {i : Interruption}
    (h : ((d.saveDraft template).outcome t).1 = .error i) : t.reply.added = .error i := by
  rw [saveDraft_outcome] at h
  unfold Reply.added
  cases hread : t.reply.result.bind templateIn with
  | error e =>
    rw [hread] at h
    exact congrArg Except.error (Except.error.inj h)
  | ok stored =>
    rw [hread] at h
    cases h

/-- What a submission does is a conversation over the report on the template. -/
theorem HandedIn.conversation (h : d.HandedIn template t turns result)
    (hreport : template.report .review = .ok report) :
    d.Conversation template report turns result := by
  have hvalid : template.Valid → report.valid = true := by
    rintro ⟨report', hreport', hvalid⟩
    cases hreport.symm.trans hreport'
    exact hvalid
  cases h with
  | unchecked hfails => cases hreport.symm.trans hfails
  | invalid hreport' herrors =>
    cases hreport.symm.trans hreport'
    exact conversation_invalid herrors
  | persisted htemplate hid =>
    rw [submitting_eq]
    exact conversation_identified (hvalid htemplate) hid t.reply
  | notStored htemplate hid hdraft =>
    have hnone := d.saveDraft_result template t
    rw [hdraft] at hnone
    rw [storing_unsaved d hid]
    exact conversation_notStored (hvalid htemplate) hid (Option.map_eq_none_iff.mp hnone.symm)
      (added_of_saveDraft hdraft)
  | stored htemplate hid hstored reply =>
    rw [storing_unsaved d hid, submitting_eq]
    exact conversation_stored (hvalid htemplate) hid hstored reply

/-- A submission of a template that can be checked fails only over a reply. -/
theorem HandedIn.isAnswer (h : d.HandedIn template t turns result)
    (hreport : template.report .review = .ok report) (hlegible : ∀ turn ∈ turns, turn.2.Legible) :
    IsAnswer result := by
  cases h with
  | unchecked hfails => cases hreport.symm.trans hfails
  | invalid => exact isAnswer_refused _
  | persisted => exact (hlegible _ (List.mem_singleton_self _)).isAnswer_result
  | notStored _ _ hdraft =>
    have hadded := (hlegible _ (List.mem_singleton_self _)).isAnswer_added
    rw [added_of_saveDraft hdraft] at hadded
    exact isAnswer_error hadded
  | stored => exact (hlegible _ (List.mem_cons_of_mem _ (List.mem_singleton_self _))).isAnswer_result

theorem legible_of_turns (h : ∀ reply ∈ t.pending, reply.Legible) (requests : List Request) :
    ∀ turn ∈ Traffic.turns t.pending requests, turn.2.Legible := by
  intro turn hturn
  rcases Traffic.snd_mem_turns hturn with hreply | hreply
  · exact h _ hreply
  · rw [hreply]
    exact .unreachable _

/-- **Every submission of a template that can be checked is such a conversation**, whatever the
replies to its requests are: it sends no others. Where all replies are legible, it comes to the
content of an answer or is refused. -/
theorem submit_conversation (d : Dashboard) (hcheckable : template.Checkable) (t : Traffic) :
    ∃ report requests, template.report .review = .ok report ∧
      t.After requests ((d.submit template).outcome t).2 ∧
      d.Conversation template report (Traffic.turns t.pending requests)
        ((d.submit template).outcome t).1 ∧
      ((∀ reply ∈ t.pending, reply.Legible) → (d.submit template).Answers t) := by
  obtain ⟨report, hreport⟩ := review_ok_iff.mpr hcheckable
  obtain ⟨requests, hafter, hhanded⟩ := submit_handedIn d template t
  refine ⟨report, requests, hreport, hafter, hhanded.conversation hreport, fun hlegible => ?_⟩
  rw [answers_iff]
  exact hhanded.isAnswer hreport (legible_of_turns hlegible requests)

/-- A template is added, and handed in under the identifier in the answer. -/
theorem submit_conversation_orderUpdate :
    let d : Dashboard := ⟨defaultAddress, none⟩
    let t : Traffic := { pending := [storedUnder "tpl_1", .response 200 (some (.value submitted))] }
    Template.orderUpdate.Checkable ∧ (∀ reply ∈ t.pending, reply.Legible) ∧
      (d.submit .orderUpdate).Answers t ∧
      ((d.submit .orderUpdate).outcome t).2.sent =
        [d.adding .orderUpdate, d.handingIn (some (.text "tpl_1"))] := by
  intro d t
  have hcheckable : Template.orderUpdate.Checkable := by decide +kernel
  obtain ⟨content, hreply, hread⟩ := ofStored_storedUnder "tpl_1"
  have hlegible : ∀ reply ∈ t.pending, reply.Legible := by
    have hcontent : ¬ content.BreaksOff := by
      rw [Data.breaksOff_iff, hread]
      rintro ⟨e, he, _⟩
      cases he
    have hsubmitted : ¬ submitted.BreaksOff := by
      rw [Data.breaksOff_iff]
      rintro ⟨e, he, _⟩
      cases he
    simp only [t, hreply, List.forall_mem_cons]
    exact ⟨.document fun _ => hcontent, .document fun _ => hsubmitted, nofun⟩
  obtain ⟨report, requests, hreport, hafter, hconversation, hanswers⟩ :=
    submit_conversation d hcheckable t
  refine ⟨hcheckable, hlegible, hanswers hlegible, ?_⟩
  have hvalid : report.valid = true := by
    have hchecked : Template.orderUpdate.report .review = .ok ⟨true, [], []⟩ := by decide +kernel
    cases hreport.symm.trans hchecked
    rfl
  obtain ⟨reply, later, hturns, hstored, -⟩ := hconversation.unsaved hvalid rfl
  have hfirst : reply = storedUnder "tpl_1" := by
    cases requests with
    | nil => cases hturns
    | cons r rest => exact (Prod.mk.inj (List.cons.inj hturns).1).2.symm
  have hholds : reply.Holds (draftUnder "tpl_1") := by
    rw [hfirst, hreply]
    exact .document (by decide) hread
  obtain ⟨reply', rfl, -⟩ := hstored _ hholds
  rw [hafter.1, ← Traffic.map_fst_turns t.pending requests, hturns]
  rfl

end Dashboard

end MessageTemplate
