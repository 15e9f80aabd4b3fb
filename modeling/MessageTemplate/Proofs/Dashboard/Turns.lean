import MessageTemplate.Dashboard.Store
import Mathlib.Data.List.Basic

/-!
# Turns of an exchange

* `Traffic.turns` — requests with the replies that they take;
* `Traffic.After` — traffic that has gone on by requests and took a reply for each;
* `Dashboard.Stores`, `Dashboard.Submits` — what the requests of a wizard are for;
* `Dashboard.LastContent` — the last turn in which the dashboard accepted the content of a template;
* `Dashboard.request_sent`, `Dashboard.saveDraft_sent`, `Dashboard.submit_sent` — the requests that
  an operation sends, and that it goes on only after an accepted one.
-/

set_option autoImplicit false

namespace MessageTemplate

/-! ## Turns -/

/-- An answer that reports no error. -/
def Reply.isAccepted : Reply → Bool
  | .response status _ => status < Dashboard.leastErrorStatus
  | _ => false

/-- A request with what came of it. -/
abbrev Turn := Request × Reply

namespace Traffic

/-- Requests with the replies that they take, in order; none is left for the requests at the
end. -/
def turns : List Reply → List Request → List Turn
  | _, [] => []
  | [], r :: requests => (r, .unreachable silence) :: turns [] requests
  | reply :: replies, r :: requests => (r, reply) :: turns replies requests

@[simp] theorem turns_nil (replies : List Reply) : turns replies [] = [] := by
  cases replies <;> rfl

theorem turns_append (replies : List Reply) (before after : List Request) :
    turns replies (before ++ after) =
      turns replies before ++ turns (replies.drop before.length) after := by
  induction before generalizing replies with
  | nil => simp
  | cons r before ih =>
    cases replies with
    | nil =>
      simp only [List.cons_append, turns, ih, List.drop_nil]
    | cons reply replies =>
      simp only [List.cons_append, turns, ih, List.length_cons, List.drop_succ_cons]

theorem map_fst_turns (replies : List Reply) (requests : List Request) :
    (turns replies requests).map Prod.fst = requests := by
  induction requests generalizing replies with
  | nil => simp
  | cons r requests ih => cases replies <;> simp [turns, ih]

theorem turns_singleton {replies : List Reply} {reply : Reply} (h : reply ∈ replies.head?)
    (r : Request) : turns replies [r] = [(r, reply)] := by
  cases replies with
  | nil => cases h
  | cons first rest =>
    cases h
    simp [turns]

/-- The traffic has gone on by the requests. -/
def After (t : Traffic) (requests : List Request) (t' : Traffic) : Prop :=
  t'.sent = t.sent ++ requests ∧ t'.pending = t.pending.drop requests.length

theorem After.refl (t : Traffic) : t.After [] t := by
  simp [After]

theorem After.record {t t' : Traffic} {requests : List Request} (h : t.After requests t')
    (entries : List Entry) : t.After requests (t'.record entries) := h

theorem After.trans {t t' t'' : Traffic} {before after : List Request} (h : t.After before t')
    (h' : t'.After after t'') : t.After (before ++ after) t'' := by
  obtain ⟨hs, hp⟩ := h
  obtain ⟨hs', hp'⟩ := h'
  constructor
  · rw [hs', hs, List.append_assoc]
  · rw [hp', hp, List.drop_drop, List.length_append]

theorem after_send (t : Traffic) (r : Request) : t.After [r] (t.send r).2 := by
  unfold After send
  split
  · rename_i h
    simp [h]
  · rename_i h
    simp [h]

/-- The next reply reports no error. -/
def Accepts (t : Traffic) : Prop := ∃ reply ∈ t.pending.head?, reply.isAccepted = true

theorem accepts_of_send {t : Traffic} {r : Request} (h : (t.send r).1.isAccepted = true) :
    t.Accepts := by
  unfold send at h
  split at h
  · cases h
  · rename_i reply rest hp
    exact ⟨reply, by rw [hp]; rfl, h⟩

end Traffic

/-! ## Exchanges -/

namespace Exchange

variable {α β : Type}

theorem outcome_ofExcept (a : α) (t : Traffic) :
    (ofExcept (.ok a)).outcome t = (.ok a, t) := rfl

theorem outcome_bind (x : Exchange α) (f : α → Exchange β) (t : Traffic) :
    (x >>= f).outcome t =
      match x.outcome t with
      | (.ok a, t') => (f a).outcome t'
      | (.error i, t') => (.error i, t') := by
  show ExceptT.bindCont f (x.outcome t).1 (x.outcome t).2 = _
  rcases x.outcome t with ⟨_ | _, _⟩ <;> rfl

/-- An exchange without requests. -/
def Quiet (x : Exchange α) : Prop := ∀ t : Traffic, t.After [] (x.outcome t).2

theorem quiet_pure (a : α) : Quiet (pure a : Exchange α) := Traffic.After.refl

theorem quiet_record (e : Entry) : Quiet (record e) := fun t => (Traffic.After.refl t).record [e]

theorem quiet_refuse (r : Refusal) : Quiet (refuse r : Exchange α) := Traffic.After.refl

theorem quiet_fail (e : Failure) : Quiet (fail e : Exchange α) := Traffic.After.refl

/-- What follows without requests adds none. -/
theorem after_bind {x : Exchange α} {f : α → Exchange β} {t : Traffic} {requests : List Request}
    (hx : t.After requests (x.outcome t).2) (hf : ∀ a, Quiet (f a)) :
    t.After requests ((x >>= f).outcome t).2 := by
  rw [outcome_bind]
  split
  · rename_i a t' h
    rw [h] at hx
    simpa using hx.trans (hf a t')
  · rename_i i t' h
    rw [h] at hx
    exact hx

theorem Quiet.bind {x : Exchange α} {f : α → Exchange β} (hx : Quiet x) (hf : ∀ a, Quiet (f a)) :
    Quiet (x >>= f) :=
  fun t => after_bind (hx t) hf

/-- An exchange in two parts has a result only if both have. -/
theorem ok_of_bind {x : Exchange α} {f : α → Exchange β} {t : Traffic} {b : β}
    (h : ((x >>= f).outcome t).1 = .ok b) :
    ∃ a, (x.outcome t).1 = .ok a ∧ ((f a).outcome (x.outcome t).2).1 = .ok b := by
  rw [outcome_bind] at h
  split at h
  · rename_i a t' hx
    rw [hx]
    exact ⟨a, rfl, h⟩
  · cases h

end Exchange

namespace Dashboard

/-! ## Requests -/

/-- The address of all templates. -/
def templatesAddress (d : Dashboard) : String := d.address ++ "/" ++ allTemplates

/-- The request stores the content of a template, as a new one or under an identifier. -/
def Stores (d : Dashboard) (r : Request) : Prop :=
  (r.method = .post ∧ r.address = d.templatesAddress) ∨
    (r.method = .put ∧ ∃ id, r.address = d.templatesAddress ++ "/" ++ id)

/-- The request hands a template in for approval. -/
def Submits (d : Dashboard) (r : Request) : Prop :=
  r.method = .post ∧ ∃ id, r.address = d.templatesAddress ++ "/" ++ id ++ "/submit"

/-- The turn is the last one in which the dashboard accepted the content of a template. -/
def LastContent (d : Dashboard) (turns earlier : List Turn) (content : Request) : Prop :=
  ∃ reply later, turns = earlier ++ (content, reply) :: later ∧
    d.Stores content ∧ reply.isAccepted = true ∧
    ∀ turn ∈ later, d.Stores turn.1 → turn.2.isAccepted = false

/-- The request that stores a template. -/
def storing (d : Dashboard) (t : Template) : Request :=
  d.requestTo (savingRoute t).1 (savingRoute t).2 (some t.submission.toData)

/-- The request that hands in the template with an identifier. -/
def submitting (d : Dashboard) (id : Option Identifier) : Request :=
  d.requestTo .post (templateEndpoint (.ofIdentifier? id) ++ "/submit") none

theorem address_templates (d : Dashboard) (method : Method) (rest : String)
    (payload : Option Data) :
    (d.requestTo method (allTemplates ++ rest) payload).address = d.templatesAddress ++ rest := by
  have hkeep : withoutLeadingSlashes (allTemplates ++ rest) = allTemplates ++ rest := by
    unfold withoutLeadingSlashes
    have hdrop : (allTemplates ++ rest).toList.dropWhile (· == '/') =
        (allTemplates ++ rest).toList := by
      rw [String.toList_append]
      rfl
    rw [hdrop, String.ofList_toList]
  unfold requestTo templatesAddress
  simp only [hkeep, String.append_assoc]

theorem stores_storing (d : Dashboard) (t : Template) : d.Stores (d.storing t) := by
  unfold Stores storing savingRoute
  cases t.id with
  | none =>
    refine Or.inl ⟨rfl, ?_⟩
    have := address_templates d .post "" (some t.submission.toData)
    simpa using this
  | some id =>
    refine Or.inr ⟨rfl, id.toData.text, ?_⟩
    simp only [templateEndpoint, String.append_assoc]
    rw [address_templates]

theorem submits_submitting (d : Dashboard) (id : Option Identifier) :
    d.Submits (d.submitting id) := by
  refine ⟨rfl, (Data.ofIdentifier? id).text, ?_⟩
  unfold submitting templateEndpoint
  simp only [String.append_assoc]
  rw [address_templates]

/-- No request stores a template and hands it in. -/
theorem not_stores_of_submits {d : Dashboard} {r : Request} (h : d.Submits r) : ¬ d.Stores r := by
  obtain ⟨hmethod, id, haddress⟩ := h
  rintro (⟨_, hall⟩ | ⟨hput, _⟩)
  · have hlength := congrArg String.length (haddress.symm.trans hall)
    have hslash : "/".length = 1 := by rfl
    simp only [String.length_append] at hlength
    omega
  · rw [hmethod] at hput
    cases hput

/-- If the content of a template was accepted at all, there is a last time. -/
theorem exists_lastContent {d : Dashboard} {turns : List Turn}
    (h : ∃ turn ∈ turns, d.Stores turn.1 ∧ turn.2.isAccepted = true) :
    ∃ earlier content, d.LastContent turns earlier content := by
  induction turns with
  | nil =>
    obtain ⟨turn, hmem, _⟩ := h
    cases hmem
  | cons first rest ih =>
    by_cases hrest : ∃ turn ∈ rest, d.Stores turn.1 ∧ turn.2.isAccepted = true
    · obtain ⟨earlier, content, reply, later, heq, hlast⟩ := ih hrest
      exact ⟨first :: earlier, content, reply, later, congrArg (first :: ·) heq, hlast⟩
    · obtain ⟨turn, hmem, hstores, haccepted⟩ := h
      rcases List.mem_cons.mp hmem with rfl | hmem
      · refine ⟨[], turn.1, turn.2, rest, rfl, hstores, haccepted, ?_⟩
        intro other ho hs
        by_contra hother
        rw [Bool.not_eq_false] at hother
        exact hrest ⟨other, ho, hs, hother⟩
      · exact absurd ⟨turn, hmem, hstores, haccepted⟩ hrest

/-! ## Operations -/

open Exchange

theorem quiet_accept (method : Method) (endpoint : String) (status : Int) (content : Data) :
    Quiet (accept method endpoint status content) := by
  unfold accept
  split
  · exact (quiet_record _).bind fun _ => quiet_refuse _
  · exact (quiet_record _).bind fun _ => quiet_pure _

theorem status_of_accept {method : Method} {endpoint : String} {status : Int} {content c : Data}
    {t : Traffic} (h : ((accept method endpoint status content).outcome t).1 = .ok c) :
    status < leastErrorStatus := by
  unfold accept at h
  split at h
  · cases h
  · omega

theorem quiet_giveUp (method : Method) (endpoint event : String) (refusal : Refusal) :
    Quiet (giveUp method endpoint event refusal) :=
  (quiet_record _).bind fun _ => quiet_refuse _

/-- A request is sent once. -/
theorem request_sent (d : Dashboard) (method : Method) (endpoint : String)
    (payload : Option Data) (t : Traffic) :
    t.After [d.requestTo method endpoint payload]
      ((d.request method endpoint payload).outcome t).2 := by
  apply after_bind (Traffic.after_send t _)
  intro reply
  split
  · exact quiet_giveUp _ _ _ _
  · exact quiet_giveUp _ _ _ _
  · exact quiet_fail _
  · exact quiet_accept _ _ _ _
  · exact quiet_accept _ _ _ _
  · exact quiet_fail _
  · exact quiet_giveUp _ _ _ _

/-- A request has a result only if the dashboard accepts it. -/
theorem accepts_of_request {d : Dashboard} {method : Method} {endpoint : String}
    {payload : Option Data} {t : Traffic} {c : Data}
    (h : ((d.request method endpoint payload).outcome t).1 = .ok c) : t.Accepts := by
  obtain ⟨reply, hreply, h⟩ := ok_of_bind h
  refine Traffic.accepts_of_send (r := d.requestTo method endpoint payload) ?_
  have hsend : (t.send (d.requestTo method endpoint payload)).1 = reply := Except.ok.inj hreply
  rw [hsend]
  split at h
  · cases h
  · cases h
  · cases h
  · exact decide_eq_true (status_of_accept h)
  · exact decide_eq_true (status_of_accept h)
  · cases h
  · cases h

theorem quiet_readTemplate (endpoint : String) (d : Data) : Quiet (readTemplate endpoint d) := by
  unfold readTemplate
  split
  · exact quiet_pure _
  · split
    · exact (quiet_record _).bind fun _ => quiet_refuse _
    · exact quiet_fail _

/-- A draft is stored by one request. -/
theorem saveDraft_sent (d : Dashboard) (template : Template) (t : Traffic) :
    t.After [d.storing template] ((d.saveDraft template).outcome t).2 :=
  after_bind (request_sent d _ _ _ t) fun _ =>
    (quiet_readTemplate _ _).bind fun _ => (quiet_record _).bind fun _ => quiet_pure _

/-- A draft counts as stored only if the dashboard accepts it. -/
theorem accepts_of_saveDraft {d : Dashboard} {template saved : Template} {t : Traffic}
    (h : ((d.saveDraft template).outcome t).1 = .ok saved) : t.Accepts := by
  obtain ⟨c, hc, _⟩ := ok_of_bind h
  exact accepts_of_request hc

/-- The requests that hand in a valid template: a stored one is not stored again, and one without
identifier is handed in after the dashboard has accepted its content. -/
inductive HandsIn (d : Dashboard) (template : Template) (t : Traffic) : List Request → Prop
  | stored (h : template.id ≠ none) : HandsIn d template t [d.submitting template.id]
  | notStored (h : template.id = none) : HandsIn d template t [d.storing template]
  | storedFirst (h : template.id = none) (ht : t.Accepts) (id : Option Identifier) :
    HandsIn d template t [d.storing template, d.submitting id]

theorem ensureSaved_sent (d : Dashboard) (template : Template) (t : Traffic) :
    (template.id ≠ none ∧ (d.ensureSaved template).outcome t = (.ok template, t)) ∨
    (template.id = none ∧ t.After [d.storing template] ((d.ensureSaved template).outcome t).2 ∧
      ∀ stored, ((d.ensureSaved template).outcome t).1 = .ok stored → t.Accepts) := by
  unfold ensureSaved Template.isPersisted
  cases template.id with
  | some id => exact Or.inl ⟨nofun, rfl⟩
  | none =>
    refine Or.inr ⟨rfl, ?_, ?_⟩
    · exact after_bind (saveDraft_sent d template t) fun _ => quiet_pure _
    · intro stored h
      obtain ⟨saved, hsaved, _⟩ := ok_of_bind h
      exact accepts_of_saveDraft hsaved

/-- **A submission sends nothing unless the template is valid.** -/
theorem submit_sent (d : Dashboard) (template : Template) (t : Traffic) :
    ∃ requests, t.After requests ((d.submit template).outcome t).2 ∧
      (requests = [] ∨
        ((∃ r, template.report .review = .ok r ∧ r.valid = true) ∧
          d.HandsIn template t requests)) := by
  unfold submit
  rw [outcome_bind]
  cases template.report .review with
  | error e => exact ⟨[], Traffic.After.refl t, Or.inl rfl⟩
  | ok r =>
    simp only [outcome_ofExcept]
    cases hvalid : r.valid with
    | false => exact ⟨[], Traffic.After.refl t, Or.inl rfl⟩
    | true =>
      have hreport : ∃ r' : Report, (Except.ok r : Except Failure Report) = .ok r' ∧
          r'.valid = true := ⟨r, rfl, hvalid⟩
      simp only [if_true]
      rw [outcome_bind]
      rcases ensureSaved_sent d template t with ⟨hid, hsaved⟩ | ⟨hid, hsent, haccepts⟩
      · rw [hsaved]
        exact ⟨_, after_bind (request_sent d _ _ _ t) fun _ =>
          (quiet_record _).bind fun _ => quiet_pure _, Or.inr ⟨hreport, .stored hid⟩⟩
      · generalize (d.ensureSaved template).outcome t = ensured at hsent haccepts
        obtain ⟨result, t'⟩ := ensured
        cases result with
        | error i => exact ⟨_, hsent, Or.inr ⟨hreport, .notStored hid⟩⟩
        | ok stored =>
          exact ⟨_, hsent.trans (after_bind (request_sent d _ _ _ t') fun _ =>
            (quiet_record _).bind fun _ => quiet_pure _),
            Or.inr ⟨hreport, .storedFirst hid (haccepts stored rfl) stored.id⟩⟩

end Dashboard

end MessageTemplate
