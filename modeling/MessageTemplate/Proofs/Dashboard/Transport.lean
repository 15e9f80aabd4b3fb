import MessageTemplate.Proofs.Dashboard.ErrorStatus
import MessageTemplate.Proofs.Readable

/-!
# What becomes of failing requests

* `Exchange.turns` — the requests of an exchange with the replies to them;
* `Exchange.Reports` — an exchange that tells what became of its requests, and fails only if the
  address of one could not be read;
* `Dashboard.operations_report` — the operations on one template are such exchanges, whatever
  becomes of their requests, apart from the submission of a template that cannot be checked;
* `Dashboard.resaving_fails` — a draft with an identifier from an answer that is no part of an
  address.
-/

set_option autoImplicit false

namespace MessageTemplate

/-! ## Replies -/

namespace Reply

/-- The address of the request could not be read. -/
def Unaddressed (r : Reply) : Prop := ∃ reason, r = .invalidAddress reason

/-- What becomes of a request: an answer without a body, with a body that is no document, with a
document that describes a template or reports an error, or no answer. -/
inductive Usual : Reply → Prop
  | noBody (status : Int) : Usual (.response status none)
  | noDocument (status : Int) {document : Document} (h : ¬ document.IsValue)
    (hshallow : document ≠ .tooDeep) : Usual (.response status (some document))
  | stored (status : Int) {content : Data} {t : Template} (h : Template.ofStored content = .ok t) :
    Usual (.response status (some (.value content)))
  | reported {status : Int} (h : 400 ≤ status) (content : Data) :
    Usual (.response status (some (.value content)))
  | timeout : Usual .timeout
  | unreachable (reason : String) : Usual (.unreachable reason)
  | invalidAddress (reason : String) : Usual (.invalidAddress reason)

variable {r : Reply}

/-- A request fails only for its address. -/
theorem Usual.isAnswer_result (h : r.Usual) : IsAnswer r.result ↔ ¬ r.Unaddressed := by
  cases h with
  | noBody status => exact iff_of_true (isAnswer_answered _ _) nofun
  | noDocument status hnone hshallow =>
    rw [Dashboard.result_no_document hnone hshallow]
    exact iff_of_true (isAnswer_refused _) nofun
  | stored status hstored => exact iff_of_true (isAnswer_answered _ _) nofun
  | reported hstatus content => exact iff_of_true (isAnswer_answered _ _) nofun
  | timeout => exact iff_of_true (isAnswer_refused _) nofun
  | unreachable reason => exact iff_of_true (isAnswer_refused _) nofun
  | invalidAddress reason => exact iff_of_false (not_isAnswer_failed _) fun h => h ⟨reason, rfl⟩

/-- The content of an answer is read as a template, or refused. -/
theorem Usual.isAnswer_templateIn (h : r.Usual) {content : Data} (hcontent : r.result = .ok content) :
    IsAnswer (Dashboard.templateIn content) := by
  have hkept {status : Int} {c : Data} (hc : Dashboard.answered status c = .ok content) :
      c = content := by
    unfold Dashboard.answered at hc
    split at hc
    · exact Except.ok.inj hc
    · cases hc
  cases h with
  | noBody status =>
    cases hkept hcontent
    exact isAnswer_refused _
  | noDocument status hnone hshallow =>
    rw [Dashboard.result_no_document hnone hshallow] at hcontent
    cases hcontent
  | stored status hstored =>
    cases hkept hcontent
    unfold Dashboard.templateIn
    rw [hstored]
    exact isAnswer_ok _
  | reported hstatus content =>
    exact nomatch (Dashboard.answered_reported hstatus content).symm.trans hcontent
  | timeout => cases hcontent
  | unreachable reason => cases hcontent
  | invalidAddress reason => cases hcontent

end Reply

namespace Traffic

variable {t t' : Traffic}

theorem usual_reply (h : ∀ reply ∈ t.pending, reply.Usual) : t.reply.Usual := by
  unfold reply
  cases hpending : t.pending with
  | nil => exact .unreachable silence
  | cons first rest => exact h first (by simp [hpending])

theorem After.usual {requests : List Request} (hafter : t.After requests t')
    (h : ∀ reply ∈ t.pending, reply.Usual) : ∀ reply ∈ t'.pending, reply.Usual := by
  rw [hafter.2]
  exact fun reply hreply => h reply (List.mem_of_mem_drop hreply)

/-- A request takes one of the replies, or none is left for it. -/
theorem snd_mem_turns {replies : List Reply} {requests : List Request} {turn : Turn}
    (h : turn ∈ turns replies requests) : turn.2 ∈ replies ∨ turn.2 = .unreachable silence := by
  induction requests generalizing replies with
  | nil => simp at h
  | cons r requests ih =>
    cases replies with
    | nil =>
      rcases List.mem_cons.mp h with rfl | h
      · exact .inr rfl
      · exact ih h
    | cons reply replies =>
      rcases List.mem_cons.mp h with rfl | h
      · exact .inl List.mem_cons_self
      · exact (ih h).imp_left (List.mem_cons_of_mem reply)

end Traffic

/-! ## Exchanges -/

namespace Exchange

variable {α β : Type} {x : Exchange α} {t : Traffic}

/-- The requests of an exchange with the replies that they take. -/
def turns (x : Exchange α) (t : Traffic) : List Turn :=
  Traffic.turns t.pending ((x.outcome t).2.sent.drop t.sent.length)

/-- The exchange tells what became of its requests. It sends them one after the other, fails only
if the address of one could not be read, and is refused for the reason for which one of them is. -/
structure Reports (x : Exchange α) (t : Traffic) : Prop where
  proceeds : ∃ requests, t.After requests (x.outcome t).2
  answers : x.Answers t ↔ ∀ turn ∈ x.turns t, ¬ turn.2.Unaddressed
  refused : ∀ turn ∈ x.turns t, ∀ refusal, turn.2.result = .error (.refused refusal) →
    (x.outcome t).1 = .error (.refused refusal)

theorem turns_of_after {requests : List Request} (h : t.After requests (x.outcome t).2) :
    x.turns t = Traffic.turns t.pending requests := by
  unfold turns
  rw [h.1, List.drop_left]

theorem Quiet.reports (hquiet : Quiet x) (hanswers : x.Answers t) : x.Reports t := by
  have hnone : x.turns t = [] := by
    rw [turns_of_after (hquiet t), Traffic.turns_nil]
  refine ⟨⟨[], hquiet t⟩, iff_of_true hanswers ?_, ?_⟩
  · rw [hnone]
    exact nofun
  · rw [hnone]
    exact nofun

theorem outcome_bind_ok {f : α → Exchange β} {a : α} (h : (x.outcome t).1 = .ok a) :
    (x >>= f).outcome t = (f a).outcome (x.outcome t).2 := by
  rw [outcome_bind]
  generalize x.outcome t = o at h ⊢
  obtain ⟨r, t'⟩ := o
  cases h
  rfl

theorem outcome_bind_error {f : α → Exchange β} {i : Interruption}
    (h : (x.outcome t).1 = .error i) :
    (x >>= f).outcome t = (.error i, (x.outcome t).2) := by
  rw [outcome_bind]
  generalize x.outcome t = o at h ⊢
  obtain ⟨r, t'⟩ := o
  cases h
  rfl

/-- **Two exchanges one after the other report if both do.** -/
theorem Reports.bind {f : α → Exchange β} (hx : x.Reports t)
    (hf : ∀ a, (x.outcome t).1 = .ok a → (f a).Reports (x.outcome t).2) : (x >>= f).Reports t := by
  obtain ⟨before, hbefore⟩ := hx.proceeds
  cases hresult : (x.outcome t).1 with
  | error i =>
    have hbind := outcome_bind_error (f := f) hresult
    have hturns : (x >>= f).turns t = x.turns t := by
      unfold turns
      rw [hbind]
    have hanswers : (x >>= f).Answers t ↔ x.Answers t := by
      rw [answers_iff, answers_iff, hbind, hresult]
      simp [IsAnswer]
    refine ⟨⟨before, ?_⟩, ?_, ?_⟩
    · rw [hbind]
      exact hbefore
    · rw [hanswers, hturns]
      exact hx.answers
    · intro turn hturn refusal hrefusal
      rw [hturns] at hturn
      have hrefused := hx.refused turn hturn refusal hrefusal
      rw [hresult] at hrefused
      rw [hbind, Except.error.inj hrefused]
  | ok a =>
    have hbind := outcome_bind_ok (f := f) hresult
    obtain ⟨after, hafter⟩ := (hf a hresult).proceeds
    have hboth : t.After (before ++ after) ((x >>= f).outcome t).2 := by
      rw [hbind]
      exact hbefore.trans hafter
    have hturns : (x >>= f).turns t = x.turns t ++ (f a).turns (x.outcome t).2 := by
      rw [turns_of_after hboth, turns_of_after hbefore, turns_of_after hafter,
        Traffic.turns_append, hbefore.2]
    have hfirst : ∀ turn ∈ x.turns t, ¬ turn.2.Unaddressed :=
      hx.answers.mp (.inl ⟨a, hresult⟩)
    have hanswers : (x >>= f).Answers t ↔ (f a).Answers (x.outcome t).2 := by
      rw [answers_iff, answers_iff, hbind]
    refine ⟨⟨_, hboth⟩, ?_, ?_⟩
    · rw [hanswers, (hf a hresult).answers, hturns, List.forall_mem_append]
      exact (and_iff_right hfirst).symm
    · intro turn hturn refusal hrefusal
      rw [hturns] at hturn
      rw [hbind]
      rcases List.mem_append.mp hturn with hturn | hturn
      · have hrefused := hx.refused turn hturn refusal hrefusal
        rw [hresult] at hrefused
        cases hrefused
      · exact (hf a hresult).refused turn hturn refusal hrefusal

/-- Where every address can be read, an exchange that reports does not fail. -/
theorem Reports.answers_of_addressed (hx : x.Reports t)
    (h : ∀ reply ∈ t.pending, ¬ reply.Unaddressed) : x.Answers t := by
  refine hx.answers.mpr fun turn hturn => ?_
  rcases Traffic.snd_mem_turns hturn with hreply | hreply
  · exact h _ hreply
  · rw [hreply]
    exact nofun

end Exchange

/-! ## Operations -/

namespace Dashboard

open Exchange

variable (d : Dashboard) {t : Traffic}

theorem request_reports (method : Method) (endpoint : String) (payload : Option Data)
    (h : t.reply.Usual) : (d.request method endpoint payload).Reports t := by
  have hsent := request_sent d method endpoint payload t
  have hturns : (d.request method endpoint payload).turns t =
      [(d.requestTo method endpoint payload, t.reply)] := by
    rw [turns_of_after hsent, Traffic.turns_reply]
  refine ⟨⟨_, hsent⟩, ?_, ?_⟩
  · rw [answers_iff, request_outcome, h.isAnswer_result, hturns, List.forall_mem_singleton]
  · intro turn hturn refusal hrefusal
    rw [hturns, List.mem_singleton] at hturn
    subst hturn
    rw [request_outcome]
    exact hrefusal

theorem readTemplate_reports (endpoint : String) {content : Data} (t : Traffic)
    (h : IsAnswer (templateIn content)) : (readTemplate endpoint content).Reports t := by
  refine (quiet_readTemplate endpoint content).reports ?_
  rw [answers_iff, readTemplate_outcome]
  exact h

/-- The template in the answer to a request. -/
theorem requestTemplate_reports (method : Method) (endpoint : String) (payload : Option Data)
    (h : t.reply.Usual) :
    (d.request method endpoint payload >>= readTemplate endpoint).Reports t := by
  refine (request_reports d method endpoint payload h).bind fun content hcontent => ?_
  rw [request_outcome] at hcontent
  exact readTemplate_reports endpoint _ (h.isAnswer_templateIn hcontent)

theorem saveDraft_reports (template : Template) (h : t.reply.Usual) :
    (d.saveDraft template).Reports t := by
  have hquiet (stored : Template) : Quiet (do
      Exchange.record (.event .info "template_draft_saved" (templateContext stored.id stored.name))
      return stored) :=
    (quiet_record _).bind fun _ => quiet_pure _
  refine (request_reports d _ _ _ h).bind fun content hcontent => ?_
  rw [request_outcome] at hcontent
  refine (readTemplate_reports _ _ (h.isAnswer_templateIn hcontent)).bind fun stored _ => ?_
  exact (hquiet _).reports (.inl ⟨_, rfl⟩)

theorem ensureSaved_reports (template : Template) (h : t.reply.Usual) :
    (d.ensureSaved template).Reports t := by
  unfold ensureSaved
  split
  · exact (quiet_pure _).reports (.inl ⟨_, rfl⟩)
  · exact (saveDraft_reports d template h).bind fun saved _ =>
      (quiet_pure _).reports (.inl ⟨_, rfl⟩)

theorem review_ok_iff {template : Template} :
    (∃ report, template.report .review = .ok report) ↔ template.Checkable := by
  unfold Template.report
  rw [Template.reportAfter_ok_iff]
  simp

theorem submit_reports {template : Template} (hcheckable : template.Checkable)
    (h : ∀ reply ∈ t.pending, reply.Usual) : (d.submit template).Reports t := by
  obtain ⟨report, hreport⟩ := review_ok_iff.mpr hcheckable
  have hquiet (stored : Template) (answer : Data) : Quiet (do
      Exchange.record (.event .info "template_submitted" (templateContext stored.id stored.name))
      return answer) :=
    (quiet_record _).bind fun _ => quiet_pure _
  unfold submit
  rw [hreport]
  refine Reports.bind ((quiet_pure report).reports (.inl ⟨report, rfl⟩)) fun _ _ => ?_
  split
  · have hsaved := ensureSaved_reports d template (Traffic.usual_reply h)
    refine hsaved.bind fun stored _ => ?_
    -- The second request takes one of the replies that are left.
    obtain ⟨requests, hafter⟩ := hsaved.proceeds
    have hnext := Traffic.usual_reply (hafter.usual h)
    refine (request_reports d _ _ _ hnext).bind fun answer _ => ?_
    exact (hquiet stored answer).reports (.inl ⟨_, rfl⟩)
  · exact (quiet_refuse _).reports (.inr ⟨_, rfl⟩)

theorem not_answers_submit {template : Template} (h : ¬ template.Checkable) (t : Traffic) :
    ¬ (d.submit template).Answers t := by
  rw [answers_iff]
  unfold submit
  rw [fst_outcome_bind, fst_outcome_ofExcept]
  cases hreport : template.report .review with
  | ok report => exact absurd (review_ok_iff.mp ⟨report, hreport⟩) h
  | error e => exact not_isAnswer_failed e

/-- **Whatever becomes of their requests, the operations on one template tell it**: they fail
exactly if the address of a request could not be read. A submission fails besides for a template
that cannot be checked, which takes no request. -/
theorem operations_report (h : ∀ reply ∈ t.pending, reply.Usual) :
    (∀ id, (d.template id).Reports t) ∧ (∀ id, (d.deleteTemplate id).Reports t) ∧
    (∀ template, (d.saveDraft template).Reports t) ∧
    (∀ template : Template, template.Checkable → (d.submit template).Reports t) ∧
    (∀ template : Template, ¬ template.Checkable → ¬ (d.submit template).Answers t) := by
  have hreply := Traffic.usual_reply h
  refine ⟨fun id => ?_, fun id => ?_, fun template => ?_, fun template hcheckable => ?_,
    fun template hcheckable => ?_⟩
  · exact requestTemplate_reports d .get (templateEndpoint id) none hreply
  · exact request_reports d .delete (templateEndpoint id) none hreply
  · exact saveDraft_reports d template hreply
  · exact submit_reports d hcheckable h
  · exact not_answers_submit d hcheckable t

/-- The answer with a draft under an identifier. -/
def storedUnder (id : String) : Reply :=
  .response 200 (some (.value (.object [("template", .object [("_id", .str id),
    ("name", .str "order_update"), ("language", .str "en"), ("category", .str "UTILITY"),
    ("components", .list [.object [("type", .str "BODY"),
      ("text", .str "Your order has left our store.")]])])])))

/-- The draft in such an answer. -/
def draftUnder (id : String) : Template :=
  { Template.orderUpdate with
    id := some (.text id), header := some {}, footer := some {}, buttons := some {} }

theorem ofStored_storedUnder (id : String) : ∃ content,
    storedUnder id = .response 200 (some (.value content)) ∧
      Template.ofStored content = .ok (draftUnder id) :=
  ⟨_, rfl, rfl⟩

/-- A draft is stored, and then nothing comes of its submission. -/
def lostSubmission : Traffic := { pending := [storedUnder "tpl_1", .timeout] }

theorem operations_report_lostSubmission :
    (∀ reply ∈ lostSubmission.pending, reply.Usual) ∧ Template.orderUpdate.Checkable ∧
      (submit ⟨defaultAddress, none⟩ .orderUpdate).Answers lostSubmission := by
  have husual : ∀ reply ∈ lostSubmission.pending, reply.Usual := by
    obtain ⟨content, hreply, hstored⟩ := ofStored_storedUnder "tpl_1"
    unfold lostSubmission
    rw [hreply]
    simp only [List.forall_mem_cons]
    exact ⟨.stored 200 hstored, .timeout, nofun⟩
  have hcheckable : Template.orderUpdate.Checkable := by decide +kernel
  obtain ⟨_, _, _, hsubmit, _⟩ := operations_report ⟨defaultAddress, none⟩ husual
  refine ⟨husual, hcheckable, ?_⟩
  refine (hsubmit .orderUpdate hcheckable).answers_of_addressed ?_
  simp [lostSubmission, storedUnder, Reply.Unaddressed]

/-- What is said of an address with a line break. -/
def lineBreak : String := "Invalid non-printable ASCII character in URL"

/-- **A draft with an identifier that is no part of an address cannot be stored again**: the
identifier came in the answer when it was stored first. -/
theorem resaving_fails :
    ((saveDraft ⟨defaultAddress, none⟩ .orderUpdate).outcome
        { pending := [storedUnder "tpl\n1", .invalidAddress lineBreak] }).1 =
      .ok (draftUnder "tpl\n1") ∧
    ((saveDraft ⟨defaultAddress, none⟩ (draftUnder "tpl\n1")).outcome
        { pending := [.invalidAddress lineBreak] }).1 =
      .error (.failed (.invalidAddress lineBreak)) := by
  constructor
  · rw [saveDraft_outcome]
    rfl
  · rw [saveDraft_outcome]
    rfl

end Dashboard

end MessageTemplate
