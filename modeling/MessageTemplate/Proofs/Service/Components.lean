import MessageTemplate.Proofs.Template.StrictReading
import MessageTemplate.Proofs.Validation.Admissible
import MessageTemplate.Proofs.Validation.Locality

/-!
# The two checks of the service

* `Data.allFinite_at?` — a part of a value whose numbers are finite is such a value;
* `Service.Quotable` — an answer can quote the values of an object that do not fit;
* `Service.answer_components` — what the request for the components of an object comes to;
* `Service.components_agree` — it is accepted exactly where the validation in the review answers
  that the object is valid, with the submission of the template that is read from the object; if it
  is not accepted, it is answered as unprocessable exactly if the values at fault can be quoted;
* `Service.overflow_unanswered` — a number that is too great for its format takes the answer away.

One check reads the object strictly, the other leniently. They agree since lenient reading finds no
issue exactly where strict reading finds no fault.
-/

set_option autoImplicit false

namespace MessageTemplate

/-! ## Finite values -/

namespace Data

theorem allFinite_list {items : List Data} :
    (list items).allFinite = true ↔ ∀ d ∈ items, d.allFinite = true := by
  rw [allFinite]
  induction items with
  | nil => simp [itemsFinite]
  | cons d rest ih => rw [itemsFinite, Bool.and_eq_true, ih, List.forall_mem_cons]

theorem allFinite_object {ms : Members} :
    (object ms).allFinite = true ↔ ∀ m ∈ ms, m.2.allFinite = true := by
  rw [allFinite]
  induction ms with
  | nil => simp [membersFinite]
  | cons m rest ih => rw [membersFinite, Bool.and_eq_true, ih, List.forall_mem_cons]

/-- A part of a value whose numbers are finite is such a value. -/
theorem allFinite_at? {d part : Data} (hd : d.allFinite = true) {loc : Location}
    (h : d.at? loc = some part) : part.allFinite = true := by
  induction loc generalizing d with
  | nil =>
    cases h
    exact hd
  | cons k rest ih =>
    rw [at?.eq_def] at h
    cases d with
    | object ms =>
      obtain ⟨name, _, h⟩ := Option.bind_eq_some_iff.mp h
      obtain ⟨member, hmember, h⟩ := Option.bind_eq_some_iff.mp h
      exact ih (allFinite_object.mp hd _ (Members.mem_of_lookup hmember)) h
    | list items =>
      obtain ⟨i, _, h⟩ := Option.bind_eq_some_iff.mp h
      obtain ⟨entry, hentry, h⟩ := Option.bind_eq_some_iff.mp h
      exact ih (allFinite_list.mp hd _ (List.mem_of_getElem? hentry)) h
    | _ => cases h

/-! ## Reviews -/

/-- An object that does not fit has no valid review: lenient reading has an issue. -/
theorem not_valid_of_misfit {ms : Members} (hnames : (object ms).namesOnce = true)
    (hnesting : (object ms).nesting ≤ deepestCopy)
    (hmisfit : (Template.read (.object ms)).value? = none) {report : Report}
    (hreport : (object ms).report .review = .ok report) : report.valid ≠ true := by
  obtain ⟨issues, hread, hissues⟩ := Template.readRepeatedly_of_settles (settles_object hnames)
  have hsome : issues ≠ [] := by
    intro hnone
    obtain ⟨t, ht⟩ := hissues.mp hnone
    rw [ht] at hmisfit
    cases hmisfit
  have howned : issues.filter (fun i => Step.review.owns i.field) = issues :=
    List.filter_eq_self.mpr fun _ _ => rfl
  rw [report_object hnames hnesting, hread, howned] at hreport
  unfold Template.reportAfter at hreport
  split at hreport
  · cases hreport
    rw [ne_eq, Report.valid_ofFindings, Report.errors_ofFindings]
    simp [hsome]
  · cases hreport

end Data

/-- The answer says that what was sent is valid. -/
def ServiceAnswer.SaysValid (a : ServiceAnswer) : Prop :=
  a.status = 200 ∧ a.content.get? "valid" = some (.bool true)

namespace Service

/-! ## Faults -/

/-- The faults of an object that is sent as a template. -/
def bodyFaults (ms : Members) : List Fault :=
  ((Template.readWith complaint (.object ms)).under bodyKey).faults

/-- The values of an object that do not fit can be quoted: their numbers are finite. -/
def Quotable (ms : Members) : Prop :=
  ∀ f ∈ bodyFaults ms, (valueAtFault (.object ms) f).allFinite = true

instance (ms : Members) : Decidable (Quotable ms) :=
  inferInstanceAs (Decidable (∀ f ∈ bodyFaults ms, _))

theorem quotable_of_allFinite {ms : Members} (h : (Data.object ms).allFinite = true) :
    Quotable ms := by
  intro f _
  unfold valueAtFault
  simp only
  split
  · rename_i key rest hlocation
    split
    · cases hpart : (Data.object ms).at? rest with
      | none => rfl
      | some part => exact Data.allFinite_at? h hpart
    · rfl
  · rfl

theorem faulty_of_quotable {ms : Members} (h : Quotable ms) :
    faulty (some (.object ms)) (bodyFaults ms) =
      .ok (rejected 422 (.list ((bodyFaults ms).map Fault.toData))) :=
  if_pos (List.all_eq_true.mpr h)

theorem faulty_of_not_quotable {ms : Members} (h : ¬ Quotable ms) :
    faulty (some (.object ms)) (bodyFaults ms) = .error .noFiniteNumber :=
  if_neg fun hall => h (List.all_eq_true.mp hall)

/-! ## Requests -/

/-- The path on which the submission of a template is given. -/
def componentsPath : String := "/api/templates/components"

/-- The request asks for the submission of an object. -/
structure AsksForComponents (r : ServiceRequest) (ms : Members) : Prop where
  method : r.method = "POST"
  path : r.target.path = componentsPath
  content : r.content = some (.value (.object ms))

/-- The answer to a template with its report. -/
def answerTo (t : Template) (report : Report) : ServiceAnswer :=
  if report.valid then accepted t.submission.toData
  else rejected 422 (invalidTemplate report.errors)

/-- **What a request for the submission of an object comes to.** -/
theorem answer_components {r : ServiceRequest} {ms : Members} (h : AsksForComponents r ms) :
    answer r =
      match (Template.read (.object ms)).value? with
      | some t => (t.report .review).map (answerTo t)
      | none => faulty (some (.object ms)) (bodyFaults ms) := by
  have hroute : route? componentsPath.toList = some ("POST", components) := by rfl
  have hupper : String.ofList ("POST".toList.map Char.toUpper) = "POST" := by decide
  have hcomponents : answer r = components r := by
    unfold answer
    simp only [h.method, h.path, hroute, hupper, if_true]
    cases components r <;> rfl
  have hread := Template.value?_readWith .noPart complaint (.object ms)
  have hread' : (Template.read (.object ms)).value? =
      (Template.readWith complaint (.object ms)).value? := hread
  rw [hcomponents, hread']
  unfold components withBody bodyFaults readBody
  rw [h.content]
  simp only
  cases Template.readWith complaint (.object ms) with
  | value t => rfl
  | faulty faults => rfl

theorem saysValid_accepted (report : Report) :
    (accepted report.toData).SaysValid ↔ report.valid = true := by
  simp [ServiceAnswer.SaysValid, accepted, Report.toData, Data.get?, Members.get?]

/-- The validation says that an object is valid exactly where the review of it does. -/
theorem saysValid_iff {r : ServiceRequest} {ms : Members} (h : AsksToValidate r ms .review) :
    (∃ a, answer r = .ok a ∧ a.SaysValid) ↔
      ∃ report, (Data.object ms).report .review = .ok report ∧ report.valid = true := by
  rw [answer_validate h]
  cases (Data.object ms).report .review with
  | error e => simp [Except.map]
  | ok report => simp [Except.map, saysValid_accepted]

/-- What fits has no values at fault. -/
theorem quotable_of_read {ms : Members} {t : Template}
    (hread : (Template.read (.object ms)).value? = some t) : Quotable ms := by
  have hfits : (Template.readWith complaint (.object ms)).value? = some t :=
    (Template.value?_readWith complaint .noPart _).trans hread
  unfold Quotable bodyFaults
  rw [Reading.value?_eq_some_iff.mp hfits]
  exact nofun

/-- What the two checks of the service say of an object. -/
structure ChecksAgree (ms : Members) (components validation : Except Failure ServiceAnswer) :
    Prop where
  accepts_iff : (∃ a, components = .ok a ∧ a.status = 200) ↔ ∃ a, validation = .ok a ∧ a.SaysValid
  submission : ∀ a, components = .ok a → a.status = 200 →
    ∃ t, Template.read (.object ms) = .value t ∧ a = accepted t.submission.toData
  refuses_iff : (¬ ∃ a, validation = .ok a ∧ a.SaysValid) →
    ((∃ a, components = .ok a ∧ a.status = 422) ↔ Quotable ms)
  fails : ¬ Quotable ms → components = .error .noFiniteNumber
  quotable : (Data.object ms).allFinite = true → Quotable ms

section ChecksAgree

variable {ms : Members} {components validation : Except Failure ServiceAnswer}

theorem checksAgree_accepted {t : Template} (hread : Template.read (.object ms) = .value t)
    (hcomponents : components = .ok (accepted t.submission.toData))
    (hvalid : ∃ a, validation = .ok a ∧ a.SaysValid) (hquotable : Quotable ms) :
    ChecksAgree ms components validation where
  accepts_iff := iff_of_true ⟨_, hcomponents, rfl⟩ hvalid
  submission _ ha _ := ⟨t, hread, (Except.ok.inj (hcomponents.symm.trans ha)).symm⟩
  refuses_iff hinvalid := absurd hvalid hinvalid
  fails hnot := absurd hquotable hnot
  quotable _ := hquotable

theorem checksAgree_rejected {detail : Data} (hcomponents : components = .ok (rejected 422 detail))
    (hinvalid : ¬ ∃ a, validation = .ok a ∧ a.SaysValid) (hquotable : Quotable ms) :
    ChecksAgree ms components validation where
  accepts_iff := by
    refine iff_of_false ?_ hinvalid
    rintro ⟨a, ha, hstatus⟩
    cases hcomponents.symm.trans ha
    cases hstatus
  submission _ ha hstatus := by
    cases hcomponents.symm.trans ha
    cases hstatus
  refuses_iff _ := iff_of_true ⟨_, hcomponents, rfl⟩ hquotable
  fails hnot := absurd hquotable hnot
  quotable _ := hquotable

theorem checksAgree_failed (hcomponents : components = .error .noFiniteNumber)
    (hinvalid : ¬ ∃ a, validation = .ok a ∧ a.SaysValid) (hquotable : ¬ Quotable ms) :
    ChecksAgree ms components validation where
  accepts_iff := by
    refine iff_of_false ?_ hinvalid
    rintro ⟨a, ha, _⟩
    cases hcomponents.symm.trans ha
  submission _ ha _ := by cases hcomponents.symm.trans ha
  refuses_iff _ := by
    refine iff_of_false ?_ hquotable
    rintro ⟨a, ha, _⟩
    cases hcomponents.symm.trans ha
  fails _ := hcomponents
  quotable := quotable_of_allFinite

end ChecksAgree

/-- **The two checks of the service agree.** The submission of an object is given exactly where the
validation says that the object is valid, and it is the submission of the template that is read from
it. Otherwise the request is answered as unprocessable, exactly if the values at fault can be
quoted, as they can where all numbers are finite; if they cannot, it fails. -/
theorem components_agree {ms : Members} {r r' : ServiceRequest} (hr : AsksForComponents r ms)
    (hr' : AsksToValidate r' ms .review) (hnames : (Data.object ms).namesOnce = true)
    (hnesting : (Data.object ms).nesting ≤ Data.deepestCopy)
    (htexts : ∀ s ∈ (Data.object ms).texts, Variable.Readable s) :
    ChecksAgree ms (answer r) (answer r') := by
  have hanswer := answer_components hr
  have hvalid_iff := saysValid_iff hr'
  cases hread : (Template.read (.object ms)).value? with
  | none =>
    rw [hread] at hanswer
    have hinvalid : ¬ ∃ a, answer r' = .ok a ∧ a.SaysValid := by
      rw [hvalid_iff]
      rintro ⟨report, hreport, hvalid⟩
      exact Data.not_valid_of_misfit hnames hnesting hread hreport hvalid
    by_cases hquotable : Quotable ms
    · exact checksAgree_rejected (hanswer.trans (faulty_of_quotable hquotable)) hinvalid hquotable
    · exact checksAgree_failed (hanswer.trans (faulty_of_not_quotable hquotable)) hinvalid hquotable
  | some t =>
    rw [hread] at hanswer
    have hvalue := Reading.value?_eq_some_iff.mp hread
    -- The texts of the template stand in the object, so that its rules can be checked.
    obtain ⟨report, hreport⟩ :=
      Template.report_of_readable (Template.readable_of_read htexts hvalue) .review
    rw [Data.report_of_read hvalue hnesting, hreport] at hvalid_iff
    simp only [hreport, Except.map] at hanswer
    cases hvalid : report.valid with
    | true =>
      rw [answerTo, hvalid, if_pos rfl] at hanswer
      exact checksAgree_accepted hvalue hanswer (hvalid_iff.mpr ⟨report, rfl, hvalid⟩)
        (quotable_of_read hread)
    | false =>
      rw [answerTo, hvalid, if_neg Bool.false_ne_true] at hanswer
      refine checksAgree_rejected hanswer ?_ (quotable_of_read hread)
      rw [hvalid_iff]
      rintro ⟨_, ⟨⟩, htrue⟩
      rw [hvalid] at htrue
      cases htrue

/-- A request for the submission of what a document holds. -/
def componentsRequest (content : Document) : ServiceRequest where
  target := { path := componentsPath, parameters := [] }
  content := some content

/-- A template of which some values are written in other ways than they are read. -/
def loginCode : Members :=
  [("name", .str "login_code"), ("language", .str "en"), ("category", .str "AUTHENTICATION"),
    ("header", .object [("enabled", .str "off"), ("media_url", .str "ftp://shop.example")]),
    ("body", .object [("text", .str "Your code is {{1}}."), ("examples", .list [.str "123456"]),
      ("variables", .list [.int 1])]),
    ("buttons", .object [("enabled", .int 1), ("items", .list [.object [("type", .str "COPY_CODE"),
      ("text", .str "Copy"), ("example", .str "123456"), ("url", .null)]])])]

theorem components_agree_loginCode :
    ∃ a t, answer (componentsRequest (.value (.object loginCode))) = .ok a ∧ a.status = 200 ∧
      Template.read (.object loginCode) = .value t ∧ a = accepted t.submission.toData := by
  have hr : AsksForComponents (componentsRequest (.value (.object loginCode))) loginCode :=
    ⟨rfl, rfl, rfl⟩
  have hagree := components_agree hr (validationRequest_asks loginCode .review) (by decide)
    (by decide) (by decide +kernel)
  have hvalid : ∃ report, (Data.object loginCode).report .review = .ok report ∧
      report.valid = true := ⟨⟨true, [], []⟩, by decide +kernel, rfl⟩
  obtain ⟨a, ha, hstatus⟩ :=
    hagree.accepts_iff.mpr ((saysValid_iff (validationRequest_asks _ _)).mpr hvalid)
  obtain ⟨t, hread, hsubmission⟩ := hagree.submission a ha hstatus
  exact ⟨a, t, ha, hstatus, hread, hsubmission⟩

/-- An object whose name is a number, and too great for its format. -/
def overflow : String := "\x7b\"name\": 1e999\x7d"

/-- The members of that object. -/
def overflowMembers : Members := [("name", .float (.infinite false))]

theorem ofText_overflow : Document.ofText overflow = .value (.object overflowMembers) := by
  have hread : (Json.document Document.deepestNesting overflow.toList).toOption =
      some (.object overflowMembers) := by decide +kernel
  unfold Document.ofText Document.ofChars
  cases hdocument : Json.document Document.deepestNesting overflow.toList with
  | error e =>
    rw [hdocument] at hread
    cases hread
  | ok d =>
    rw [hdocument] at hread
    cases hread
    rfl

/-- **A number that is too great for its format takes the answer away**: the validation reports it,
but the request for the submission fails. -/
theorem overflow_unanswered :
    Document.ofText overflow = .value (.object overflowMembers) ∧
      (Data.object overflowMembers).nesting ≤ Data.deepestCopy ∧
      (∀ s ∈ (Data.object overflowMembers).texts, Variable.Readable s) ∧
      (∃ a, answer (validationRequest overflowMembers .review) = .ok a ∧ a.status = 200 ∧
        ¬ a.SaysValid) ∧
      answer (componentsRequest (Document.ofText overflow)) = .error .noFiniteNumber := by
  refine ⟨ofText_overflow, by decide, by decide, ?_, ?_⟩
  · have hreport : ∃ report, (Data.object overflowMembers).report .review = .ok report ∧
        report.valid = false := ⟨_, rfl, by decide +kernel⟩
    obtain ⟨report, hreport, hinvalid⟩ := hreport
    rw [answer_validate (validationRequest_asks _ _), hreport]
    refine ⟨_, rfl, rfl, ?_⟩
    rw [saysValid_accepted, hinvalid]
    exact Bool.false_ne_true
  · have hr : AsksForComponents (componentsRequest (Document.ofText overflow)) overflowMembers :=
      ⟨rfl, rfl, congrArg some ofText_overflow⟩
    rw [answer_components hr]
    exact faulty_of_not_quotable (by decide +kernel)

end Service

end MessageTemplate
