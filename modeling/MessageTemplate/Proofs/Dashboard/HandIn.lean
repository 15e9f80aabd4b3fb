import MessageTemplate.Proofs.Dashboard.Answers
import MessageTemplate.Proofs.Data.NamesOnce
import MessageTemplate.Proofs.Template.WellTyped
import MessageTemplate.Proofs.Validation.Admissible

/-!
# Under which identifier a template is handed in

* `Reply.CarriesId` — the identifier in the document of an accepted answer;
* `Template.id_of_ofStored` — a template that is read from a document has the identifier in it;
* `Dashboard.HandedIn` — all that a submission can do, as turns and a result;
* `Dashboard.submit_identified` — a submission is addressed to the identifier of the template, or to
  the one in the answer to the draft, exactly if a draft that comes without one is refused;
* `Dashboard.handedIn_none` — a draft that comes without one is not.
-/

set_option autoImplicit false

namespace MessageTemplate

open Reading (Ensures)

/-! ## Identifiers in documents -/

namespace Members

/-- The identifier of the template that an object describes; null is none. -/
def HasId (ms : Members) (id : Data) : Prop :=
  (get? ms "id").or (get? ms "_id") = some id ∧ id ≠ .null

theorem storedId_of_hasId {ms : Members} {id : Data} (h : ms.HasId id) :
    Template.storedId ms = some id.text := by
  obtain ⟨hid, hne⟩ := h
  unfold Template.storedId
  rw [hid]
  cases id with
  | null => exact absurd rfl hne
  | _ => rfl

theorem storedId_of_not_hasId {ms : Members} (h : ∀ id, ¬ ms.HasId id) :
    Template.storedId ms = none := by
  unfold Template.storedId
  cases hid : (get? ms "id").or (get? ms "_id") with
  | none => rfl
  | some id =>
    cases id with
    | null => rfl
    | _ => exact absurd ⟨hid, nofun⟩ (h _)

/-- Every member under a name that was set has the value. -/
theorem eq_of_mem_set {ms : Members} {name : String} {value d : Data}
    (h : (name, d) ∈ ms.set name value) : d = value := by
  unfold set at h
  split at h
  · obtain ⟨m, _, hm⟩ := List.mem_map.mp h
    split at hm
    · exact (Prod.mk.inj hm).2.symm
    · rename_i hname
      rw [hm] at hname
      exact absurd (beq_self_eq_true name) hname
  · rename_i hhas
    rcases List.mem_append.mp h with hmem | hmem
    · exact absurd (List.any_eq_true.mpr ⟨_, hmem, beq_self_eq_true name⟩) hhas
    · exact (Prod.mk.inj (List.mem_singleton.mp hmem)).2

theorem mem_set_self (ms : Members) (name : String) (value : Data) :
    (name, value) ∈ ms.set name value := by
  unfold set
  split
  · rename_i hhas
    obtain ⟨m, hm, hname⟩ := List.any_eq_true.mp hhas
    exact List.mem_map.mpr ⟨m, hm, if_pos hname⟩
  · simp

theorem mem_withoutNulls {ms : Members} {m : String × Data} :
    m ∈ ms.withoutNulls ↔ m ∈ ms ∧ m.2 ≠ .null := by
  unfold withoutNulls
  rw [List.mem_filter]
  refine and_congr_right' ?_
  cases m.2 with
  | null => simp
  | _ => simp

/-- The member that was set is found again, unless it is null. -/
theorem lookup_withoutNulls_set (ms : Members) (name : String) (value : Data) :
    (ms.set name value).withoutNulls.lookup name = if value = .null then none else some value := by
  cases hlookup : (ms.set name value).withoutNulls.lookup name with
  | none =>
    rw [List.lookup_eq_none_iff] at hlookup
    split
    · rfl
    · rename_i hne
      have habsent := hlookup _ (mem_withoutNulls.mpr ⟨ms.mem_set_self name value, hne⟩)
      simp at habsent
  | some d =>
    obtain ⟨hset, hne⟩ := mem_withoutNulls.mp (mem_of_lookup hlookup)
    rw [← eq_of_mem_set hset, if_neg hne]

end Members

/-! ## Identifiers of stored templates -/

namespace Template

/-- The identifier of a template as it is read. -/
def readId : Data → Reading (Option Identifier) :=
  Read.optional fun d => (Read.text d).map .text

/-- A template that is read has the identifier that its field is read as. -/
theorem id_of_read {ms : Members} {id : Option Identifier} {t : Template}
    (hfield : Read.field ms.withoutNulls ["id"] none readId = .value id)
    (h : Template.read (.object ms) = .value t) : t.id = id := by
  have hid : (Read.field ms.withoutNulls ["id"] none readId).Ensures (· = id) := by
    rw [hfield]
    exact Ensures.value rfl
  have hread : (Template.read (.object ms)).Ensures fun t => t.id = id := by
    refine Ensures.ap_any (Ensures.ap_any (Ensures.ap_any (Ensures.ap_any (Ensures.ap_any
      (Ensures.ap_any (Ensures.ap_any (Ensures.ap (Ensures.value ?_) hid)))))))
    exact fun id hid _ _ _ _ _ _ _ => hid
  exact hread t h

theorem field_id_of_lookup {ms : Members} {id : Option String}
    (h : ms.lookup "id" = if Data.ofText? id = .null then none else some (.ofText? id)) :
    Read.field ms ["id"] none readId = .value (id.map .text) := by
  unfold Read.field Read.member?
  cases id with
  | none =>
    simp only [Data.ofText?, if_true] at h
    simp [h]
  | some s =>
    simp only [Data.ofText?, reduceCtorEq, if_false] at h
    simp [h, readId, Read.optional, Read.text, Reading.map, Reading.under]

theorem result_eq_ok {α : Type} {r : Reading α} {a : α} (h : r.result = .ok a) : r = .value a := by
  cases r with
  | value a' => exact congrArg Reading.value (Except.ok.inj h)
  | faulty faults => cases h

theorem id_of_ofDetails {details : DetailData} {id : Option String} {t : Template}
    (hdetails : details.id = .ofText? id) (h : ofDetails details = .ok t) :
    t.id = id.map .text := by
  refine id_of_read (field_id_of_lookup ?_) (result_eq_ok h)
  rw [Members.lookup_withoutNulls (by simp), hdetails]
  cases id with
  | none => rfl
  | some s => rfl

theorem id_of_ofComponents {components : Data} {details : DetailData} {id : Option String}
    {t : Template} (hdetails : details.id = .ofText? id) (h : ofComponents components details = .ok t) :
    t.id = id.map .text := by
  unfold ofComponents at h
  split at h
  · cases h
  · split at h
    · cases h
    · split at h
      · cases h
      · rename_i stored hstored
        cases h
        show stored.id = id.map .text
        exact id_of_ofDetails hdetails hstored

/-- **A template that is read from a document has the identifier in it**, as text. -/
theorem id_of_ofStored {content : Data} {ms : Members} {t : Template}
    (hdescribes : content.Describes ms) (h : ofStored content = .ok t) :
    t.id = (storedId ms).map .text := by
  unfold ofStored at h
  rw [hdescribes.storedMembers] at h
  unfold ofStoredMembers at h
  simp only at h
  split at h
  · exact id_of_ofComponents rfl h
  · refine id_of_read (field_id_of_lookup ?_) (result_eq_ok h)
    exact Members.lookup_withoutNulls_set _ "id" _

end Template

namespace Reply

/-- The identifier in the document of an accepted answer. -/
def CarriesId (r : Reply) (id : Data) : Prop :=
  ∃ content ms, r.content? = some content ∧ content.Describes ms ∧ ms.HasId id

variable {r : Reply} {stored : Template}

theorem exists_describes (h : r.stored? = some stored) :
    ∃ content ms, r.content? = some content ∧ content.Describes ms ∧
      Template.ofStored content = .ok stored := by
  unfold stored? at h
  obtain ⟨content, hcontent, hstored⟩ := Option.bind_eq_some_iff.mp h
  have hread : Template.ofStored content = .ok stored := by
    cases hread : Template.ofStored content with
    | error e =>
      rw [hread] at hstored
      cases hstored
    | ok t =>
      rw [hread] at hstored
      exact congrArg Except.ok (Option.some.inj hstored)
  cases hmembers : Template.storedMembers content with
  | error e =>
    unfold Template.ofStored at hread
    rw [hmembers] at hread
    cases hread
  | ok ms => exact ⟨content, ms, hcontent, Data.describes_of_storedMembers hmembers, hread⟩

/-- A template that came in an answer has the identifier in it, or none if there is none. -/
theorem id_of_stored (h : r.stored? = some stored) :
    (∃ id, r.CarriesId id ∧ stored.id = some (.text id.text)) ∨
      (∀ id, ¬ r.CarriesId id) ∧ stored.id = none := by
  obtain ⟨content, ms, hcontent, hdescribes, hread⟩ := exists_describes h
  have hid := Template.id_of_ofStored hdescribes hread
  by_cases hhas : ∃ id, ms.HasId id
  · obtain ⟨id, hhas⟩ := hhas
    rw [Members.storedId_of_hasId hhas] at hid
    exact .inl ⟨id, ⟨content, ms, hcontent, hdescribes, hhas⟩, hid⟩
  · rw [not_exists] at hhas
    rw [Members.storedId_of_not_hasId hhas] at hid
    refine .inr ⟨?_, hid⟩
    rintro id ⟨content', ms', hcontent', hdescribes', hhas'⟩
    cases hcontent.symm.trans hcontent'
    cases hdescribes.storedMembers.symm.trans hdescribes'.storedMembers
    exact hhas id hhas'

end Reply

/-! ## Submissions -/

namespace Dashboard

open Exchange

variable (d : Dashboard) (template : Template) (t : Traffic)

/-- All that a submission can do, as the turns that it takes and what it comes to. -/
inductive HandedIn : List Turn → Except Interruption Data → Prop
  | unchecked {e : Failure} (h : template.report .review = .error e) :
    HandedIn [] (.error (.failed e))
  | invalid {report : Report} (h : template.report .review = .ok report)
    (herrors : report.valid = false) : HandedIn [] (.error (.refused (invalid report.errors)))
  | persisted (hvalid : template.Valid) {id : Identifier} (hid : template.id = some id) :
    HandedIn [(d.submitting (some id), t.reply)] t.reply.result
  | notStored (hvalid : template.Valid) (hid : template.id = none) {i : Interruption}
    (h : ((d.saveDraft template).outcome t).1 = .error i) :
    HandedIn [(d.storing template, t.reply)] (.error i)
  | stored (hvalid : template.Valid) (hid : template.id = none) {stored : Template}
    (h : t.reply.stored? = some stored) (reply : Reply) :
    HandedIn [(d.storing template, t.reply), (d.submitting stored.id, reply)] reply.result

variable {d template t}

theorem ensureSaved_persisted {id : Identifier} (hid : template.id = some id) :
    (d.ensureSaved template).outcome t = (.ok template, t) := by
  unfold ensureSaved Template.isPersisted
  rw [hid]
  rfl

theorem ensureSaved_unsaved (hid : template.id = none) :
    (d.ensureSaved template).outcome t =
      (((d.saveDraft template).outcome t).1.map fun saved => { template with id := saved.id },
        ((d.saveDraft template).outcome t).2) := by
  unfold ensureSaved Template.isPersisted
  rw [hid]
  simp only [Option.isSome_none, Bool.false_eq_true, if_false]
  rw [outcome_bind]
  rcases (d.saveDraft template).outcome t with ⟨_ | _, _⟩ <;> rfl

/-- The last part of a submission: the template is handed in under its identifier. -/
def handIn (d : Dashboard) (saved : Template) : Exchange Data := do
  let answer ← d.request .post (templateEndpoint (.ofIdentifier? saved.id) ++ "/submit")
  Exchange.record (.event .info "template_submitted" (templateContext saved.id saved.name))
  return answer

theorem submit_eq (d : Dashboard) (template : Template) :
    d.submit template = (do
      let report ← Exchange.ofExcept (template.report .review)
      if report.valid then d.ensureSaved template >>= d.handIn
      else Exchange.refuse (invalid report.errors)) := rfl

theorem handIn_outcome (d : Dashboard) (saved : Template) (t : Traffic) :
    ((d.handIn saved).outcome t).1 = t.reply.result := by
  unfold handIn
  rw [fst_outcome_bind, request_outcome]
  cases t.reply.result with
  | error i => rfl
  | ok answer => rfl

theorem handIn_sent (d : Dashboard) (saved : Template) (t : Traffic) :
    t.After [d.submitting saved.id] ((d.handIn saved).outcome t).2 :=
  after_bind (request_sent d _ _ _ t) fun _ => (quiet_record _).bind fun _ => quiet_pure _

/-- **All that a submission does.** -/
theorem submit_handedIn (d : Dashboard) (template : Template) (t : Traffic) :
    ∃ requests, t.After requests ((d.submit template).outcome t).2 ∧
      d.HandedIn template t (Traffic.turns t.pending requests)
        ((d.submit template).outcome t).1 := by
  rw [submit_eq, outcome_bind]
  cases hreport : template.report .review with
  | error e => exact ⟨[], Traffic.After.refl t, Traffic.turns_nil _ ▸ .unchecked hreport⟩
  | ok report =>
    simp only [outcome_ofExcept]
    cases herrors : report.valid with
    | false => exact ⟨[], Traffic.After.refl t, Traffic.turns_nil _ ▸ .invalid hreport herrors⟩
    | true =>
      have hvalid : template.Valid := ⟨report, hreport, herrors⟩
      simp only [if_true]
      rw [outcome_bind]
      cases hid : template.id with
      | some id =>
        rw [ensureSaved_persisted hid]
        refine ⟨_, handIn_sent d template t, ?_⟩
        simp only [handIn_outcome, Traffic.turns_reply]
        rw [hid]
        exact .persisted hvalid hid
      | none =>
        rw [ensureSaved_unsaved hid]
        have hdraft := saveDraft_sent d template t
        have hstored := saveDraft_result d template t
        rcases hout : (d.saveDraft template).outcome t with ⟨result, t'⟩
        rw [hout] at hdraft hstored
        cases result with
        | error i =>
          refine ⟨_, hdraft, ?_⟩
          simp only [Except.map, Traffic.turns_reply]
          exact .notStored hvalid hid (by rw [hout])
        | ok saved =>
          obtain ⟨stored, hread, hsaved⟩ := Option.map_eq_some_iff.mp hstored.symm
          have hkept : saved.id = stored.id := by
            rw [← hsaved, hid]
            exact Option.or_none
          have hsent := handIn_sent d { template with id := saved.id } t'
          have hturns : Traffic.turns t.pending ([d.storing template] ++ [d.submitting saved.id]) =
              [(d.storing template, t.reply), (d.submitting stored.id, t'.reply)] := by
            rw [Traffic.turns_append, Traffic.turns_reply, ← hdraft.2, Traffic.turns_reply, hkept]
            rfl
          refine ⟨_, hdraft.trans hsent, ?_⟩
          simp only [Except.map, handIn_outcome, hturns]
          exact .stored hvalid hid hread t'.reply

/-! ## Identified submissions -/

/-- A submission that is addressed to an identifier: that of the template, or for a template
without one that in the answer to the draft, without which it is refused. -/
structure Identified (d : Dashboard) (template : Template) (turns : List Turn)
    (result : Except Interruption Data) : Prop where
  addressed : ∀ turn ∈ turns, d.Submits turn.1 → ∃ id,
    turn.1.address = d.addressOf id ++ "/submit" ∧
      (template.id = some id ∨ template.id = none ∧ ∃ reply carried,
        turns = [(d.storing template, reply), turn] ∧ reply.CarriesId carried ∧
          id = .text carried.text)
  withheld : ∀ turn ∈ turns, turn.1 = d.storing template → (∀ id, ¬ turn.2.CarriesId id) →
    (∀ other ∈ turns, ¬ d.Submits other.1) ∧ ∃ refusal, result = .error (.refused refusal)

theorem not_submits_storing (d : Dashboard) (template : Template) :
    ¬ d.Submits (d.storing template) :=
  fun h => not_stores_of_submits h (stores_storing d template)

theorem submitting_ne_storing (d : Dashboard) (id : Option Identifier) (template : Template) :
    d.submitting id ≠ d.storing template := by
  intro h
  exact not_submits_storing d template (h ▸ submits_submitting d id)

/-- Without requests a submission is addressed to no one. -/
theorem identified_nil (result : Except Interruption Data) : d.Identified template [] result :=
  ⟨nofun, nofun⟩

theorem identified_persisted {id : Identifier} (hid : template.id = some id) (reply : Reply) :
    d.Identified template [(d.submitting (some id), reply)] reply.result := by
  constructor
  · rw [List.forall_mem_singleton]
    exact fun _ => ⟨id, (submitting_identified d id).2, .inl hid⟩
  · rw [List.forall_mem_singleton]
    exact fun h => absurd h (submitting_ne_storing d _ _)

/-- A draft of which the dashboard makes no template is not handed in. -/
theorem identified_notStored {i : Interruption} :
    d.Identified template [(d.storing template, t.reply)] (.error i) ↔
      ((∀ id, ¬ t.reply.CarriesId id) → ∃ refusal, i = .refused refusal) := by
  constructor
  · intro h hnone
    obtain ⟨_, refusal, hrefused⟩ := h.withheld _ (List.mem_singleton_self _) rfl hnone
    exact ⟨refusal, Except.error.inj hrefused⟩
  · intro h
    have hdraft : ∀ turn ∈ [(d.storing template, t.reply)], ¬ d.Submits turn.1 := by
      rw [List.forall_mem_singleton]
      exact not_submits_storing d template
    refine ⟨fun turn hturn hsubmits => absurd hsubmits (hdraft turn hturn), ?_⟩
    intro turn hturn _ hnone
    rw [List.mem_singleton] at hturn
    subst hturn
    obtain ⟨refusal, hrefused⟩ := h hnone
    exact ⟨hdraft, refusal, congrArg Except.error hrefused⟩

/-- A stored draft is handed in under the identifier in the answer, if there is one. -/
theorem identified_stored (hid : template.id = none) {stored : Template}
    (hstored : t.reply.stored? = some stored) (reply : Reply) :
    d.Identified template
        [(d.storing template, t.reply), (d.submitting stored.id, reply)] reply.result ↔
      ∃ id, t.reply.CarriesId id := by
  have hsubmits := submits_submitting d stored.id
  rcases Reply.id_of_stored hstored with ⟨carried, hcarries, hsame⟩ | ⟨hnone, _⟩
  · refine iff_of_true ⟨?_, ?_⟩ ⟨carried, hcarries⟩
    · simp only [List.forall_mem_cons]
      refine ⟨fun h => absurd h (not_submits_storing d template), fun _ => ?_, nofun⟩
      refine ⟨.text carried.text, ?_, .inr ⟨hid, t.reply, carried, rfl, hcarries, rfl⟩⟩
      rw [hsame]
      exact (submitting_identified d _).2
    · simp only [List.forall_mem_cons]
      refine ⟨fun _ hnone => absurd hcarries (hnone carried), fun h => ?_, nofun⟩
      exact absurd h (submitting_ne_storing d _ _)
  · refine iff_of_false (fun h => ?_) (not_exists.mpr hnone)
    obtain ⟨hwithheld, _⟩ := h.withheld _ List.mem_cons_self rfl hnone
    exact hwithheld (d.submitting stored.id, reply) (by simp) hsubmits

/-- **A submission is addressed to an identifier exactly if a draft that comes back without one is
refused.** A draft that is stored nevertheless is handed in all the same, under none. -/
theorem submit_identified (d : Dashboard) (template : Template) (t : Traffic) :
    ∃ requests, t.After requests ((d.submit template).outcome t).2 ∧
      (d.Identified template (Traffic.turns t.pending requests)
          ((d.submit template).outcome t).1 ↔
        (template.Valid → template.id = none → (∀ id, ¬ t.reply.CarriesId id) →
          ∃ refusal, ((d.saveDraft template).outcome t).1 = .error (.refused refusal))) ∧
      (template.Valid → template.id = none → (∀ id, ¬ t.reply.CarriesId id) →
        t.reply.stored?.isSome = true → ∃ reply, Traffic.turns t.pending requests =
            [(d.storing template, t.reply), (d.submitting none, reply)] ∧
          ((d.submit template).outcome t).1 = reply.result) := by
  obtain ⟨requests, hafter, hhanded⟩ := submit_handedIn d template t
  refine ⟨requests, hafter, ?_⟩
  generalize Traffic.turns t.pending requests = turns at hhanded ⊢
  generalize ((d.submit template).outcome t).1 = result at hhanded ⊢
  cases hhanded with
  | unchecked hreport =>
    have hfails : ¬ template.Valid := by
      rintro ⟨report, hvalid, _⟩
      cases hreport.symm.trans hvalid
    exact ⟨iff_of_true (identified_nil _) fun h => absurd h hfails, fun h => absurd h hfails⟩
  | invalid hreport herrors =>
    have hfails : ¬ template.Valid := by
      rintro ⟨report, hvalid, hnone⟩
      cases hreport.symm.trans hvalid
      rw [herrors] at hnone
      cases hnone
    exact ⟨iff_of_true (identified_nil _) fun h => absurd h hfails, fun h => absurd h hfails⟩
  | persisted hvalid hid =>
    have hother : template.id ≠ none := by
      rw [hid]
      exact nofun
    exact ⟨iff_of_true (identified_persisted hid _) fun _ h => absurd h hother,
      fun _ h => absurd h hother⟩
  | notStored hvalid hid h =>
    have hnone := d.saveDraft_result template t
    rw [h] at hnone
    refine ⟨?_, fun _ _ _ hstored => ?_⟩
    · rw [identified_notStored, h]
      simp only [Except.error.injEq]
      exact ⟨fun hrefused _ _ => hrefused, fun hrefused => hrefused hvalid hid⟩
    · rw [Option.map_eq_none_iff.mp hnone.symm] at hstored
      cases hstored
  | stored hvalid hid hstored reply =>
    have hkept := d.saveDraft_result template t
    rw [hstored] at hkept
    refine ⟨?_, fun _ _ hnone _ => ⟨reply, ?_, rfl⟩⟩
    · rw [identified_stored hid hstored]
      constructor
      · rintro ⟨id, hcarries⟩ _ _ hnone
        exact absurd hcarries (hnone id)
      · intro hrefused
        by_contra hnone
        obtain ⟨refusal, hrefusal⟩ := hrefused hvalid hid (not_exists.mp hnone)
        rw [hrefusal] at hkept
        cases hkept
    · rcases Reply.id_of_stored hstored with ⟨id, hcarries, _⟩ | ⟨_, hid⟩
      · exact absurd hcarries (hnone id)
      · rw [hid]

/-- The answer to a draft that gives the template back without an identifier. -/
def anonymous : Reply :=
  .response 200 (some (.value (.object [("template", .object [("name", .str "order_update"),
    ("language", .str "en"), ("category", .str "UTILITY"), ("components", .list
      [.object [("type", .str "BODY"), ("text", .str "Your order has left our store.")]])])])))

theorem anonymous_carries_none (id : Data) : ¬ anonymous.CarriesId id := by
  rintro ⟨content, ms, hcontent, hdescribes, hid, _⟩
  cases hcontent
  cases hdescribes with
  | document h => cases h
  | member h =>
    cases h
    cases hid

/-- The answer to a submission. -/
def submitted : Data := .object [("status", .str "PENDING")]

/-- **A template that is stored without an identifier is handed in as the template None.** -/
theorem handedIn_none :
    let t : Traffic := { pending := [anonymous, .response 200 (some (.value submitted))] }
    let o := (submit ⟨defaultAddress, none⟩ .orderUpdate).outcome t
    (∀ id, ¬ anonymous.CarriesId id) ∧ o.1.toOption = some submitted ∧
      o.2.sent.map Request.address =
        ["http://localhost:5000/api/templates", "http://localhost:5000/api/templates/None/submit"] := by
  refine ⟨anonymous_carries_none, ?_, ?_⟩
  · decide +kernel
  · decide +kernel

end Dashboard

end MessageTemplate
