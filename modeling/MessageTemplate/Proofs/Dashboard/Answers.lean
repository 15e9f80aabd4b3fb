import MessageTemplate.Proofs.Dashboard.Turns

/-!
# Answers of the dashboard

* `Reply.result` — what a request makes of the reply to it;
* `Reply.content?` — the content of an answer that reports no error;
* `Data.Describes` — the object that describes the template in a document;
* `Reply.stored?`, `Reply.storedId?` — the template that an answer describes, and its identifier;
* `Exchange.Answers` — an exchange comes to a result or a refusal, and to no failure;
* `Dashboard.request_outcome`, `Dashboard.saveDraft_outcome`, … — what an operation comes to, told
  from the replies alone;
* `Dashboard.LastId` — the last identifier that came with a stored template.
-/

set_option autoImplicit false

namespace MessageTemplate

/-! ## Replies -/

/-- What a request makes of an answer with a status and a content. -/
def Dashboard.answered (status : Int) (content : Data) : Except Interruption Data :=
  if status < leastErrorStatus then .ok content else .error (.refused (refusalOf status content))

namespace Reply

/-- What a request makes of the reply to it. -/
def result : Reply → Except Interruption Data
  | .response status none => Dashboard.answered status .null
  | .response status (some (.value content)) => Dashboard.answered status content
  | .response _ (some .tooDeep) => .error (.failed .tooDeep)
  | .response _ (some _) => .error (.refused .invalidDocument)
  | .timeout => .error (.refused .timedOut)
  | .unreachable reason => .error (.refused (.network reason))
  | .invalidAddress reason => .error (.failed (.invalidAddress reason))

/-- The content of an answer that reports no error; an answer without a document is null. -/
def content? : Reply → Option Data
  | .response status none => if status < Dashboard.leastErrorStatus then some .null else none
  | .response status (some (.value content)) =>
    if status < Dashboard.leastErrorStatus then some content else none
  | _ => none

theorem toOption_result (r : Reply) : r.result.toOption = r.content? := by
  have hanswered (status : Int) (content : Data) :
      (Dashboard.answered status content).toOption =
        if status < Dashboard.leastErrorStatus then some content else none := by
    unfold Dashboard.answered
    split <;> rfl
  cases r with
  | response status document =>
    cases document with
    | none => exact hanswered _ _
    | some document =>
      cases document with
      | value content => exact hanswered _ _
      | _ => rfl
  | _ => rfl

/-- The template that an answer describes. -/
def stored? (r : Reply) : Option Template :=
  r.content?.bind fun content => (Template.ofStored content).toOption

/-- The identifier of the template that an answer describes. -/
def storedId? (r : Reply) : Option Identifier := r.stored?.bind Template.id

end Reply

/-- The object that describes a template in a document: the document, or a member of it. -/
inductive Data.Describes (ms : Members) : Data → Prop
  | document (h : Members.get? ms "template" = none) : Describes ms (.object ms)
  | member {document : Members} (h : Members.get? document "template" = some (.object ms)) :
    Describes ms (.object document)

theorem Data.Describes.storedMembers {ms : Members} {content : Data} (h : content.Describes ms) :
    Template.storedMembers content = .ok ms := by
  unfold Template.storedMembers
  cases h with
  | document h => simp [Data.get?, h]
  | member h => simp [Data.get?, h]

theorem Data.describes_of_storedMembers {ms : Members} {content : Data}
    (h : Template.storedMembers content = .ok ms) : content.Describes ms := by
  unfold Template.storedMembers at h
  cases content with
  | object document =>
    cases hmember : Members.get? document "template" with
    | none =>
      simp only [Data.get?, hmember, Option.getD_none] at h
      cases h
      exact .document hmember
    | some d =>
      simp only [Data.get?, hmember, Option.getD_some] at h
      split at h
      · cases h
        exact .member hmember
      · cases h
  | _ => cases h

namespace Traffic

/-- The reply that the next request takes. -/
def reply (t : Traffic) : Reply := t.pending.headD (.unreachable silence)

theorem send_fst (t : Traffic) (r : Request) : (t.send r).1 = t.reply := by
  unfold send reply
  split
  · rename_i h
    rw [h]
    rfl
  · rename_i h
    rw [h]
    rfl

theorem turns_reply (t : Traffic) (r : Request) : turns t.pending [r] = [(r, t.reply)] := by
  unfold reply
  cases t.pending with
  | nil => rfl
  | cons reply rest => simp [turns]

end Traffic

/-! ## Operations -/

namespace Exchange

variable {α β : Type}

theorem fst_outcome_bind (x : Exchange α) (f : α → Exchange β) (t : Traffic) :
    ((x >>= f).outcome t).1 =
      (x.outcome t).1.bind fun a => ((f a).outcome (x.outcome t).2).1 := by
  rw [outcome_bind]
  rcases x.outcome t with ⟨_ | _, _⟩ <;> rfl

theorem outcome_send (r : Request) (t : Traffic) :
    (send r).outcome t = (.ok t.reply, (t.send r).2) := by
  rw [← Traffic.send_fst t r]
  rfl

theorem fst_outcome_ofExcept (r : Except Failure α) (t : Traffic) :
    ((ofExcept r).outcome t).1 = r.mapError .failed := by
  cases r with
  | error e => rfl
  | ok a => rfl

/-- The exchange comes to a result or is refused: it does not fail. -/
def Answers (x : Exchange α) (t : Traffic) : Prop :=
  (∃ a, (x.outcome t).1 = .ok a) ∨ ∃ refusal, (x.outcome t).1 = .error (.refused refusal)

end Exchange

/-! ## Results without failures -/

/-- A result or a refusal. -/
def IsAnswer {α : Type} (r : Except Interruption α) : Prop := ∀ e, r ≠ .error (.failed e)

section IsAnswer

variable {α β : Type}

theorem isAnswer_ok (a : α) : IsAnswer (.ok a) := fun _ => nofun

theorem isAnswer_refused (refusal : Refusal) :
    IsAnswer (.error (.refused refusal) : Except Interruption α) := fun _ => nofun

theorem not_isAnswer_failed (e : Failure) :
    ¬ IsAnswer (.error (.failed e) : Except Interruption α) := fun h => h e rfl

theorem not_isAnswer_iff {r : Except Interruption α} :
    ¬ IsAnswer r ↔ ∃ e, r = .error (.failed e) := by
  simp [IsAnswer]

theorem isAnswer_answered (status : Int) (content : Data) :
    IsAnswer (Dashboard.answered status content) := by
  unfold Dashboard.answered
  split
  · exact isAnswer_ok content
  · exact isAnswer_refused _

theorem Exchange.answers_iff {x : Exchange α} {t : Traffic} :
    x.Answers t ↔ IsAnswer (x.outcome t).1 := by
  unfold Exchange.Answers
  cases (x.outcome t).1 with
  | ok a => exact iff_of_true (.inl ⟨a, rfl⟩) (isAnswer_ok a)
  | error i =>
    cases i with
    | refused refusal => exact iff_of_true (.inr ⟨refusal, rfl⟩) (isAnswer_refused refusal)
    | failed e => exact iff_of_false (by simp) (not_isAnswer_failed e)

theorem isAnswer_map {r : Except Interruption α} {f : α → β} :
    IsAnswer (r.map f) ↔ IsAnswer r := by
  cases r with
  | error i => simp [IsAnswer, Except.map]
  | ok a => simp [IsAnswer, Except.map]

end IsAnswer

namespace Dashboard

open Exchange

theorem answered_accepted {status : Int} (h : status < leastErrorStatus) (content : Data) :
    answered status content = .ok content :=
  if_pos h

theorem answered_reported {status : Int} (h : leastErrorStatus ≤ status) (content : Data) :
    answered status content = .error (.refused (refusalOf status content)) :=
  if_neg (Int.not_lt.mpr h)

theorem accept_outcome (method : Method) (endpoint : String) (status : Int) (content : Data)
    (t : Traffic) :
    ((accept method endpoint status content).outcome t).1 = answered status content := by
  unfold accept
  by_cases h : leastErrorStatus ≤ status
  · rw [if_pos h, answered_reported h]
    rfl
  · rw [if_neg h, answered_accepted (Int.not_le.mp h)]
    rfl

/-- **A request comes to what its reply says.** -/
theorem request_outcome (d : Dashboard) (method : Method) (endpoint : String)
    (payload : Option Data) (t : Traffic) :
    ((d.request method endpoint payload).outcome t).1 = t.reply.result := by
  unfold request
  rw [fst_outcome_bind, outcome_send]
  generalize (t.send _).2 = t'
  cases t.reply with
  | timeout => rfl
  | unreachable reason => rfl
  | invalidAddress reason => rfl
  | response status content =>
    cases content with
    | none => exact accept_outcome _ _ _ _ t'
    | some document =>
      cases document with
      | value content => exact accept_outcome _ _ _ _ t'
      | malformed position => rfl
      | numeral error => rfl
      | tooDeep => rfl
      | undecodable => rfl

/-- What the reading of a document that fails comes to: a refusal if the document only holds no
template. -/
def unreadable (e : Failure) : Interruption :=
  if e.isUnreadable then .refused .invalidTemplate else .failed e

/-- The template in the content of an answer. -/
def templateIn (content : Data) : Except Interruption Template :=
  (Template.ofStored content).mapError unreadable

theorem readTemplate_outcome (endpoint : String) (content : Data) (t : Traffic) :
    ((readTemplate endpoint content).outcome t).1 = templateIn content := by
  unfold readTemplate templateIn unreadable
  cases Template.ofStored content with
  | ok stored => rfl
  | error e =>
    simp only [Except.mapError]
    split
    · rfl
    · rfl

theorem readTemplates_outcome (endpoint : String) (documents : List Data) (t : Traffic) :
    ((readTemplates endpoint documents).outcome t).1 = documents.mapM templateIn := by
  induction documents generalizing t with
  | nil => rfl
  | cons document rest ih =>
    unfold readTemplates
    rw [List.mapM_cons, fst_outcome_bind, readTemplate_outcome]
    simp only [fst_outcome_bind, ih]
    rfl

/-- The documents that an answer lists. -/
def documentsIn (answer : Data) : Except Failure (List Data) :=
  ((answer.get? "templates").getD (.list [])).entries

theorem templates_outcome (d : Dashboard) {filters : Members}
    (h : Members.has filters reservedFilter = false) (t : Traffic) :
    ((d.templates filters).outcome t).1 = t.reply.result.bind fun answer =>
      ((documentsIn answer).mapError .failed).bind fun documents =>
        documents.mapM templateIn := by
  unfold templates
  rw [h, if_neg Bool.false_ne_true]
  simp only [fst_outcome_bind, request_outcome, fst_outcome_ofExcept, readTemplates_outcome]
  rfl

theorem templates_reserved (d : Dashboard) {filters : Members}
    (h : Members.has filters reservedFilter = true) (t : Traffic) :
    ((d.templates filters).outcome t).1 = .error (.failed .wrongKind) := by
  unfold templates
  rw [if_pos h]
  rfl

theorem template_outcome (d : Dashboard) (id : Data) (t : Traffic) :
    ((d.template id).outcome t).1 = t.reply.result.bind templateIn := by
  unfold template
  rw [fst_outcome_bind, request_outcome]
  simp only [readTemplate_outcome]

theorem saveDraft_outcome (d : Dashboard) (template : Template) (t : Traffic) :
    ((d.saveDraft template).outcome t).1 =
      (t.reply.result.bind templateIn).map fun stored =>
        { stored with id := stored.id.or template.id } := by
  unfold saveDraft
  simp only [fst_outcome_bind, request_outcome, readTemplate_outcome]
  cases t.reply.result with
  | error i => rfl
  | ok content =>
    simp only [Except.bind]
    cases templateIn content with
    | error i => rfl
    | ok stored => rfl

/-- **What a draft is stored as**: the template in the answer, under the identifier there if it has
one. -/
theorem saveDraft_result (d : Dashboard) (template : Template) (t : Traffic) :
    ((d.saveDraft template).outcome t).1.toOption =
      t.reply.stored?.map fun stored => { stored with id := stored.id.or template.id } := by
  rw [saveDraft_outcome]
  unfold Reply.stored?
  rw [← Reply.toOption_result]
  cases t.reply.result with
  | error i => rfl
  | ok content =>
    unfold templateIn
    simp only [Except.bind, Except.toOption, Option.bind_some]
    cases Template.ofStored content with
    | error e => rfl
    | ok stored => rfl

/-! ## Identifiers -/

/-- The request adds a template to those of the dashboard. -/
def Adds (d : Dashboard) (r : Request) : Prop :=
  r.method = .post ∧ r.address = d.templatesAddress

/-- The address of the template with an identifier. -/
def addressOf (d : Dashboard) (id : Identifier) : String :=
  d.templatesAddress ++ "/" ++ id.toData.text

/-- The identifier is the last one that came in the answer to a stored template. -/
def LastId (d : Dashboard) (turns : List Turn) (id : Identifier) : Prop :=
  ∃ earlier turn later, turns = earlier ++ turn :: later ∧
    d.Stores turn.1 ∧ turn.2.storedId? = some id ∧
    ∀ turn ∈ later, d.Stores turn.1 → turn.2.storedId? = none

theorem lastId_concat {d : Dashboard} {turn : Turn} {id : Identifier} (hstores : d.Stores turn.1)
    (hid : turn.2.storedId? = some id) (turns : List Turn) : d.LastId (turns ++ [turn]) id :=
  ⟨turns, turn, [], rfl, hstores, hid, fun _ h => nomatch h⟩

theorem LastId.append {d : Dashboard} {turns more : List Turn} {id : Identifier}
    (h : d.LastId turns id)
    (hmore : ∀ turn ∈ more, d.Stores turn.1 → turn.2.storedId? = none) :
    d.LastId (turns ++ more) id := by
  obtain ⟨earlier, turn, later, rfl, hstores, hid, hlater⟩ := h
  refine ⟨earlier, turn, later ++ more, by simp, hstores, hid, ?_⟩
  intro other hother
  rcases List.mem_append.mp hother with hother | hother
  · exact hlater other hother
  · exact hmore other hother

/-- A template with an identifier is stored in its place. -/
theorem storing_identified {d : Dashboard} {t : Template} {id : Identifier} (h : t.id = some id) :
    (d.storing t).method = .put ∧ (d.storing t).address = d.addressOf id := by
  unfold storing savingRoute addressOf
  rw [h]
  refine ⟨rfl, ?_⟩
  simp only [templateEndpoint, String.append_assoc]
  rw [address_templates]

theorem submitting_identified (d : Dashboard) (id : Identifier) :
    (d.submitting (some id)).method = .post ∧
      (d.submitting (some id)).address = d.addressOf id ++ "/submit" := by
  unfold submitting addressOf
  refine ⟨rfl, ?_⟩
  simp only [templateEndpoint, Data.ofIdentifier?, String.append_assoc]
  rw [address_templates]

theorem not_adds_of_put {d : Dashboard} {r : Request} (h : r.method = .put) : ¬ d.Adds r := by
  rintro ⟨hpost, _⟩
  rw [h] at hpost
  cases hpost

theorem not_adds_of_submits {d : Dashboard} {r : Request} (h : d.Submits r) : ¬ d.Adds r :=
  fun hadds => not_stores_of_submits h (Or.inl hadds)

end Dashboard

end MessageTemplate
