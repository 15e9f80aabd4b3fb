import MessageTemplate.Proofs.Component.Resending
import MessageTemplate.Proofs.Dashboard.Answers
import MessageTemplate.Proofs.Edit.WellTyped

/-!
# Drafts that come back as they were stored

A dashboard may answer a draft with the document that it stored, under the identifier that it gave
to it.

* `Reply.Echoes` — an answer that gives a payload back with an identifier;
* `Dashboard.saveDraft_echoed` — what a draft is after such an answer;
* `Dashboard.saveTimes` — a draft that is stored again and again, each time as it came back;
* `Dashboard.saveTimes_echoed` — the payload is the same each time;
* `Template.submission_fixed` — reading a submission and sending it again changes nothing, with the
  dashboard in between or without.
-/

set_option autoImplicit false

namespace MessageTemplate

/-! ## Echoes -/

/-- The answer reports no error, and its object has all members of the payload and an identifier. -/
def Reply.Echoes (r : Reply) (payload id : Data) : Prop :=
  ∃ content ms, r.content? = some content ∧ content.Describes ms ∧
    (∀ name d, payload.get? name = some d → Members.get? ms name = some d) ∧
    (Members.get? ms "id").or (Members.get? ms "_id") = some id ∧ id ≠ .null

/-- The answer of a dashboard that adds an identifier to what it stores. -/
def Reply.echo (payload : Members) (id : Data) : Reply :=
  .response 200 (some (.value (.object (("id", id) :: payload))))

theorem Reply.echoes_echo {payload : Members} {id : Data} (hid : Members.get? payload "id" = none)
    (htemplate : Members.get? payload "template" = none) (hne : id ≠ .null) :
    (echo payload id).Echoes (.object payload) id := by
  refine ⟨_, _, rfl, .document htemplate, fun name d hd => ?_, rfl, hne⟩
  have hname : (name == "id") = false := by
    rw [beq_eq_false_iff_ne]
    rintro rfl
    cases hid.symm.trans hd
  rw [Members.get?, List.lookup_cons, hname]
  exact hd

namespace Template

variable {t : Template}

/-- What is kept of a well-typed template is well-typed. -/
theorem WellTyped.keptAs (ht : t.WellTyped) (id : Option String) : (t.keptAs id).WellTyped := by
  constructor
  · intro i hi
    obtain ⟨s, _, rfl⟩ := Option.map_eq_some_iff.mp hi
    exact ⟨s, rfl⟩
  · rintro set ⟨⟩ b hb
    unfold ButtonSet.kept at hb
    split at hb
    · obtain ⟨button, hbutton, rfl⟩ := List.mem_map.mp hb
      exact (wellTyped_iff.mp ht).2 button hbutton
    · cases hb

/-- A stored document with the members of a submission is read as what is kept of the template. -/
theorem ofStoredMembers_submission (ht : t.WellTyped) {ms : Members} {id : Data}
    (hms : ∀ name d, t.submission.toData.get? name = some d → Members.get? ms name = some d)
    (hid : (Members.get? ms "id").or (Members.get? ms "_id") = some id) (hne : id ≠ .null) :
    ofStoredMembers ms = .ok (t.keptAs (some id.text)) := by
  have hname := hms "name" _ rfl
  have hlanguage := hms "language" _ rfl
  have hcategory := hms "category" _ rfl
  have hcomponents : Members.get? ms "components" = some (.list t.components) :=
    hms "components" _ rfl
  have hsent : (Data.list t.components).isEmptyish = false := by
    simp [Data.isEmptyish, components]
  have hstored : storedId ms = some id.text := by
    unfold storedId
    rw [hid]
    cases id with
    | null => exact absurd rfl hne
    | _ => rfl
  unfold ofStoredMembers
  simp only [hstored, hcomponents, hsent, Members.getD, hname, hlanguage, hcategory]
  exact ofComponents_components ht (some id.text)

end Template

namespace Dashboard

open Exchange

variable {t : Template} {traffic : Traffic}

/-- **A draft that is given back is what is kept of it**, under the identifier that came with it. -/
theorem saveDraft_echoed (d : Dashboard) (ht : t.WellTyped) {id : Data}
    (h : traffic.reply.Echoes t.submission.toData id) :
    ((d.saveDraft t).outcome traffic).1 = .ok (t.keptAs (some id.text)) := by
  obtain ⟨content, ms, hcontent, hdescribes, hms, hid, hne⟩ := h
  have hstored : Template.ofStored content = .ok (t.keptAs (some id.text)) := by
    unfold Template.ofStored
    rw [hdescribes.storedMembers]
    exact Template.ofStoredMembers_submission ht hms hid hne
  have hresult := d.saveDraft_result t traffic
  unfold Reply.stored? at hresult
  rw [hcontent, Option.bind_some, hstored] at hresult
  cases hsaved : ((d.saveDraft t).outcome traffic).1 with
  | error i =>
    rw [hsaved] at hresult
    cases hresult
  | ok saved =>
    rw [hsaved] at hresult
    exact congrArg Except.ok (Option.some.inj hresult)

/-! ## Again and again -/

/-- Stores a draft a number of times, each time as it came back from the time before. -/
def saveTimes (d : Dashboard) : Nat → Template → Exchange Template
  | 0, t => return t
  | n + 1, t => do d.saveTimes n (← d.saveDraft t)

/-- **A draft does not drift**: however often it is stored, the same payload is sent. -/
theorem saveTimes_echoed (d : Dashboard) (n : Nat) (ht : t.WellTyped)
    (hn : n ≤ traffic.pending.length)
    (h : ∀ reply ∈ traffic.pending, ∃ id, reply.Echoes t.submission.toData id) :
    ∃ saved requests, ((d.saveTimes n t).outcome traffic).1 = .ok saved ∧
      saved.submission = t.submission ∧
      traffic.After requests ((d.saveTimes n t).outcome traffic).2 ∧ requests.length = n ∧
      ∀ r ∈ requests, r.payload = some t.submission.toData := by
  induction n generalizing t traffic with
  | zero => exact ⟨t, [], rfl, rfl, .refl traffic, rfl, nofun⟩
  | succ n ih =>
    obtain ⟨reply, rest, hpending⟩ := List.exists_cons_of_length_pos (Nat.zero_lt_of_lt hn)
    obtain ⟨id, hid⟩ := h reply (by simp [hpending])
    have hreply : traffic.reply = reply := by
      rw [Traffic.reply, hpending]
      rfl
    -- What came back is stored next, and it is sent as the draft was.
    have hkept := t.submission_keptAs (some id.text)
    have hsaved := d.saveDraft_echoed ht (hreply.symm ▸ hid)
    have hsent := d.saveDraft_sent t traffic
    rcases hout : (d.saveDraft t).outcome traffic with ⟨result, traffic'⟩
    rw [hout] at hsaved hsent
    obtain rfl : result = _ := hsaved
    have hstep : (d.saveTimes (n + 1) t).outcome traffic =
        (d.saveTimes n (t.keptAs (some id.text))).outcome traffic' := by
      rw [saveTimes, outcome_bind, hout]
    have hrest : traffic'.pending = rest := by
      rw [hsent.2, hpending]
      rfl
    rw [hpending, List.length_cons] at hn
    obtain ⟨saved, requests, hresult, hsubmission, hafter, hlength, hpayload⟩ :=
      ih (ht.keptAs (some id.text)) (hrest ▸ Nat.le_of_succ_le_succ hn) fun later hlater =>
        hkept ▸ h later (by simp [hpending, ← hrest, hlater])
    rw [hkept] at hsubmission hpayload
    rw [hstep]
    refine ⟨saved, d.storing t :: requests, hresult, hsubmission, hsent.trans hafter,
      congrArg (· + 1) hlength, ?_⟩
    rintro r (_ | ⟨_, hr⟩)
    · rfl
    · exact hpayload r hr

end Dashboard

namespace Template

variable {t : Template}

/-- **Saving and loading settle after one round**: what is read from a submission is sent as that
submission, whether or not the template is valid. A draft that the dashboard gives back comes under
the identifier from there, and when it is stored again, by any later exchange, the same payload is
sent. -/
theorem submission_fixed (ht : t.WellTyped) :
    (∃ r, ofSubmission t.submission = .ok r ∧ r.submission = t.submission) ∧
      ∀ (d : Dashboard) (traffic : Traffic) (id : Data),
        traffic.reply.Echoes t.submission.toData id →
        ∃ saved first, ((d.saveDraft t).outcome traffic).1 = .ok saved ∧
          saved.id = some (.text id.text) ∧
          traffic.After [first] ((d.saveDraft t).outcome traffic).2 ∧
          first.payload = some t.submission.toData ∧
          ∀ later : Traffic, ∃ second,
            later.After [second] ((d.saveDraft saved).outcome later).2 ∧
            second.payload = first.payload := by
  refine ⟨⟨_, ofComponents_components ht none, t.submission_keptAs none⟩, ?_⟩
  intro d traffic id hid
  refine ⟨_, _, d.saveDraft_echoed ht hid, rfl, d.saveDraft_sent t traffic, rfl, fun later => ?_⟩
  refine ⟨_, d.saveDraft_sent _ later, ?_⟩
  exact congrArg (fun s => some (Submission.toData s)) (t.submission_keptAs (some id.text))

/-- Traffic in which the dashboard gives the template back as number 7. -/
def overfullEchoed : Traffic :=
  { pending := [.echo [("name", .str "Spring Sale"), ("language", .str "en"),
      ("category", .str "MARKETING"), ("components", .list overfull.components)] (.int 7)] }

theorem submission_fixed_overfull :
    overfull.WellTyped ∧ overfullEchoed.reply.Echoes overfull.submission.toData (.int 7) ∧
      ∃ saved, ((Dashboard.saveDraft ⟨"", none⟩ overfull).outcome overfullEchoed).1 = .ok saved ∧
        saved.id = some (.text "7") ∧ ∃ second,
          overfullEchoed.After [second]
            ((Dashboard.saveDraft ⟨"", none⟩ saved).outcome overfullEchoed).2 ∧
          second.payload = some overfull.submission.toData := by
  have ht : overfull.WellTyped :=
    ⟨fun i hi => ⟨"tpl_1", (Option.mem_some.mp hi).symm⟩, by decide⟩
  have hecho : overfullEchoed.reply.Echoes overfull.submission.toData (.int 7) :=
    Reply.echoes_echo rfl rfl nofun
  obtain ⟨saved, first, hsaved, hid, _, hfirst, hagain⟩ :=
    (submission_fixed ht).2 ⟨"", none⟩ overfullEchoed (.int 7) hecho
  obtain ⟨second, hsecond, hpayload⟩ := hagain overfullEchoed
  exact ⟨ht, hecho, saved, hsaved, hid, second, hsecond, hpayload.trans hfirst⟩

end Template

end MessageTemplate
