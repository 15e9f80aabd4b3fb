import MessageTemplate.Proofs.Service.Validation

/-!
# The review and the other steps

* `Unites` — the report in the review fails, is valid and has an issue exactly as the reports in the
  other steps together;
* `Joins` — its lists of issues are those of the other steps, one behind the other;
* `validate_review` — the review of every value unites the other steps, and it joins them for every
  template and every value that is read without a fault.

What does not fit in a value is found once, before the rules of a step: every step that is
responsible for it reports it before what its own rules find.
-/

set_option autoImplicit false

namespace MessageTemplate

/-- The steps that the review repeats. -/
def Step.repeated : List Step := [.details, .content, .buttons]

/-- The report in the review says what the reports in the other steps say together. -/
structure Unites (report : Step → Except Failure Report) : Prop where
  fails : (∃ e, report .review = .error e) ↔ ∃ s ∈ Step.repeated, ∃ e, report s = .error e
  valid : ∀ r, report .review = .ok r →
    (r.valid = true ↔ ∀ s ∈ Step.repeated, ∃ part, report s = .ok part ∧ part.valid = true)
  errors : ∀ r, report .review = .ok r → ∀ i : Issue,
    i ∈ r.errors ↔ ∃ s ∈ Step.repeated, ∃ part, report s = .ok part ∧ i ∈ part.errors
  warnings : ∀ r, report .review = .ok r → ∀ i : Issue,
    i ∈ r.warnings ↔ ∃ s ∈ Step.repeated, ∃ part, report s = .ok part ∧ i ∈ part.warnings

/-- The report in the review lists what the reports in the other steps list, step by step. -/
def Joins (report : Step → Except Failure Report) : Prop :=
  ∀ r, report .review = .ok r → ∃ onDetails onContent onButtons,
    report .details = .ok onDetails ∧ report .content = .ok onContent ∧
    report .buttons = .ok onButtons ∧
    r.errors = onDetails.errors ++ onContent.errors ++ onButtons.errors ∧
    r.warnings = onDetails.warnings ++ onContent.warnings ++ onButtons.warnings

/-! ## Issues of findings -/

namespace Report

theorem issues_append (s : Severity) (before after : List Finding) :
    issues s (before ++ after) = issues s before ++ issues s after := List.filterMap_append

theorem errors_of_issues (found : List Issue) :
    issues .error (found.map (Finding.mk .error)) = found := by
  unfold issues
  rw [List.filterMap_map]
  exact List.filterMap_some

theorem warnings_of_issues (found : List Issue) :
    issues .warning (found.map (Finding.mk .error)) = [] := by
  unfold issues
  rw [List.filterMap_map]
  exact List.filterMap_eq_nil_iff.mpr fun _ _ => rfl

@[simp] theorem errors_ofFindings (found : List Issue) (findings : List Finding) :
    (ofFindings (found.map (Finding.mk .error) ++ findings)).errors =
      found ++ issues .error findings := by
  show issues .error _ = _
  rw [issues_append, errors_of_issues]

@[simp] theorem warnings_ofFindings (found : List Issue) (findings : List Finding) :
    (ofFindings (found.map (Finding.mk .error) ++ findings)).warnings =
      issues .warning findings := by
  show issues .warning _ = _
  rw [issues_append, warnings_of_issues, List.nil_append]

theorem valid_ofFindings (findings : List Finding) :
    (ofFindings findings).valid = true ↔ (ofFindings findings).errors = [] := List.isEmpty_iff

end Report

/-! ## What the steps find -/

/-- An issue is owned by the review exactly if another step owns it: what no step knows is owned by
all of them. -/
theorem Step.owns_review (field : String) :
    Step.review.owns field = true ↔ ∃ s ∈ Step.repeated, s.owns field = true := by
  refine ⟨fun _ => ?_, fun _ => rfl⟩
  by_cases hknown : knownMembers.contains (rootOf field) = true
  · obtain ⟨s, hs, hmember⟩ := List.mem_flatMap.mp (List.contains_iff_mem.mp hknown)
    refine ⟨s, ?_, ?_⟩
    · cases s with
      | review => cases hmember
      | _ => decide
    · unfold owns
      rw [List.contains_iff_mem.mpr hmember, Bool.or_true]
  · refine ⟨.details, List.mem_cons_self, ?_⟩
    unfold owns
    rw [Bool.eq_false_iff.mpr hknown]
    rfl

namespace Template

/-- What is wrong with a template in a step, given what is wrong with its content. -/
def findingsGiven (t : Template) (onContent : List Finding) : Step → List Finding
  | .details => t.detailFindings
  | .content => onContent
  | .buttons => t.buttonFindings
  | .review => t.detailFindings ++ onContent ++ t.buttonFindings

/-- The content and the review fail alike, or every step has findings. -/
theorem findings_cases (t : Template) :
    (∃ e, t.findings .content = .error e ∧ t.findings .review = .error e) ∨
      ∃ onContent, ∀ s, t.findings s = .ok (t.findingsGiven onContent s) := by
  cases hcontent : t.contentFindings with
  | error e => exact .inl ⟨e, hcontent, by rw [findings, hcontent]⟩
  | ok onContent =>
    refine .inr ⟨onContent, fun s => ?_⟩
    cases s with
    | details => rfl
    | content => exact hcontent
    | buttons => rfl
    | review => rw [findings, hcontent, findingsGiven]

theorem reportAfter_of_findings {t : Template} {s : Step} {findings : List Finding}
    (h : t.findings s = .ok findings) (found : List Issue) :
    t.reportAfter found s = .ok (.ofFindings (found.map (Finding.mk .error) ++ findings)) := by
  rw [reportAfter, h]

theorem reportAfter_of_error {t : Template} {s : Step} {e : Text.NumeralError}
    (h : t.findings s = .error e) (found : List Issue) :
    t.reportAfter found s = .error (.numeral e) := by
  rw [reportAfter, h]

/-- The findings of the review are those of the other steps. -/
theorem mem_issues_review (t : Template) (onContent : List Finding) (severity : Severity)
    (i : Issue) : i ∈ Report.issues severity (t.findingsGiven onContent .review) ↔
      ∃ s ∈ Step.repeated, i ∈ Report.issues severity (t.findingsGiven onContent s) := by
  simp only [findingsGiven, Report.issues_append, List.mem_append, Step.repeated, List.mem_cons,
    List.not_mem_nil, or_false, exists_eq_or_imp, exists_eq_left, or_assoc]

variable (t : Template)

/-- After issues of which the review has those of the other steps, the review unites them. -/
theorem unites_reportAfter (found : Step → List Issue)
    (hfound : ∀ i, i ∈ found .review ↔ ∃ s ∈ Step.repeated, i ∈ found s) :
    Unites fun s => t.reportAfter (found s) s := by
  rcases findings_cases t with ⟨e, hcontent, hreview⟩ | ⟨onContent, hok⟩
  · have hfails : ∀ r, t.reportAfter (found .review) .review ≠ .ok r := by
      intro r
      rw [reportAfter_of_error hreview]
      exact nofun
    refine ⟨?_, fun r h => absurd h (hfails r), fun r h => absurd h (hfails r),
      fun r h => absurd h (hfails r)⟩
    constructor
    · intro _
      exact ⟨.content, by decide, _, reportAfter_of_error hcontent _⟩
    · intro _
      exact ⟨_, reportAfter_of_error hreview _⟩
  · have hreport : ∀ s, t.reportAfter (found s) s = .ok (.ofFindings
        ((found s).map (Finding.mk .error) ++ t.findingsGiven onContent s)) :=
      fun s => reportAfter_of_findings (hok s) _
    have herrors : ∀ i, i ∈ found .review ++ Report.issues .error (t.findingsGiven onContent .review) ↔
        ∃ s ∈ Step.repeated, i ∈ found s ++ Report.issues .error (t.findingsGiven onContent s) := by
      intro i
      simp only [List.mem_append, hfound, mem_issues_review, ← exists_or, ← and_or_left]
    simp only [hreport]
    refine ⟨by simp, ?_, ?_, ?_⟩
    · rintro r ⟨⟩
      simp only [Except.ok.injEq, exists_eq_left', Report.valid_ofFindings,
        Report.errors_ofFindings, List.eq_nil_iff_forall_not_mem, herrors]
      grind
    · rintro r ⟨⟩ i
      simpa only [Except.ok.injEq, exists_eq_left', Report.errors_ofFindings] using herrors i
    · rintro r ⟨⟩ i
      simpa only [Except.ok.injEq, exists_eq_left', Report.warnings_ofFindings] using
        mem_issues_review t onContent .warning i

/-- Where nothing was found before, the review joins the other steps. -/
theorem joins_report : Joins t.report := by
  intro r hr
  rcases findings_cases t with ⟨e, _, hreview⟩ | ⟨onContent, hok⟩
  · rw [report, reportAfter_of_error hreview] at hr
    cases hr
  · have hreport : ∀ s, t.report s = .ok (.ofFindings (t.findingsGiven onContent s)) :=
      fun s => reportAfter_of_findings (hok s) []
    rw [hreport] at hr
    cases hr
    refine ⟨_, _, _, hreport .details, hreport .content, hreport .buttons, ?_, ?_⟩
    · simp only [Report.ofFindings, findingsGiven, Report.issues_append]
    · simp only [Report.ofFindings, findingsGiven, Report.issues_append]

end Template

/-! ## Values -/

namespace Data

/-- The review unites the other steps, whatever can be made of the value. -/
theorem unites_report (d : Data) : Unites d.report := by
  have howned : ∀ (issues : List Issue) (i : Issue),
      i ∈ issues.filter (fun i => Step.review.owns i.field) ↔
        ∃ s ∈ Step.repeated, i ∈ issues.filter fun i => s.owns i.field := by
    intro issues i
    simp only [List.mem_filter, Step.owns_review]
    grind
  unfold report
  rcases recover_cases d with ⟨ms, _, _, hrecover⟩ | ⟨_, hrecover⟩
  · rw [hrecover]
    exact ⟨by simp [Step.repeated], nofun, nofun, nofun⟩
  · rw [hrecover]
    obtain ⟨t?, issues⟩ := Template.readLenient d
    cases t? with
    | some t => exact t.unites_reportAfter _ (howned issues)
    | none =>
      -- Nothing can be made of the value: no step is valid, and each reports what it owns.
      refine ⟨by simp [Step.repeated], ?_, ?_, ?_⟩
      · rintro r ⟨⟩
        constructor
        · exact nofun
        · intro hvalid
          obtain ⟨_, ⟨⟩, hdetails⟩ := hvalid .details List.mem_cons_self
          cases hdetails
      · rintro r ⟨⟩ i
        simpa using howned issues i
      · rintro r ⟨⟩ i
        simp

/-- The review joins the other steps for a value that is read without a fault. -/
theorem joins_report {d : Data} {t : Template} (h : Template.read d = .value t) :
    Joins d.report := by
  by_cases hdeep : d.nesting ≤ deepestCopy
  · have hsame : d.report = t.report := funext (report_of_read h hdeep)
    rw [hsame]
    exact t.joins_report
  · intro r hr
    rcases recover_cases d with ⟨_, _, _, hrecover⟩ | ⟨hnesting, _⟩
    · rw [report, hrecover] at hr
      cases hr
    · cases d with
      | object ms => exact absurd (hnesting ms rfl) hdeep
      | _ => cases h

end Data

/-- **The review is the union of the other steps**: it fails, is valid and has an error or a warning
exactly as they do together. Its lists are theirs, one behind the other, for every template and for
every value that is read without a fault. -/
theorem validate_review :
    (∀ t : Template, Unites (fun s => t.validate (.ofNat s.number)) ∧
      Joins fun s => t.validate (.ofNat s.number)) ∧
    ∀ d : Data, Unites (fun s => d.validate (.ofNat s.number)) ∧
      ((∃ t, Template.read d = .value t) → Joins fun s => d.validate (.ofNat s.number)) := by
  simp only [Template.validate_number, Data.validate_number]
  refine ⟨fun t => ⟨?_, t.joins_report⟩, fun d => ⟨d.unites_report, ?_⟩⟩
  · exact t.unites_reportAfter (fun _ => []) (by simp)
  · rintro ⟨t, ht⟩
    exact Data.joins_report ht

/-- An object that is read without a fault, and wrong in every step. -/
def wrongThroughout : Members :=
  [("name", .str "Order"), ("category", .str "UTILITY"), ("language", .str "xx"),
    ("footer", .object [("enabled", .bool true), ("text", .str "{{1}}")]),
    ("buttons", .object [("enabled", .bool true),
      ("items", .list [.object [("type", .str "COPY_CODE"), ("text", .str "")]])])]

theorem validate_review_wrongThroughout :
    (∃ t, Template.read (.object wrongThroughout) = .value t) ∧
      (Joins fun s => (Data.object wrongThroughout).validate (.ofNat s.number)) ∧
      ∃ r, (Data.object wrongThroughout).validate (.ofNat Step.review.number) = .ok r ∧
        r.errors.map Issue.field =
          ["name", "language", "body.text", "footer.text", "buttons.items[0].text"] ∧
        r.warnings.map Issue.field = ["buttons.items[0].example"] := by
  have hread : ∃ t, Template.read (.object wrongThroughout) = .value t := ⟨_, rfl⟩
  exact ⟨hread, (validate_review.2 _).2 hread, _, rfl, by decide, by decide⟩

end MessageTemplate
