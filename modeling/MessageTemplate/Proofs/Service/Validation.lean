import MessageTemplate.Proofs.Readable
import MessageTemplate.Service

/-!
# Which values have a report

* `Data.Checkable` — a value that is no object, or one that can be copied and of which lenient
  reading makes nothing with an overlong variable where the step asks for its number;
* `Data.report_ok_iff` — exactly these values have a report in a step;
* `Service.answer_validate` — a request to validate an object is answered with this report;
* `Service.validation_answers` — both together, for all values and all requests.

A value that is checkable in the steps of the details and of the buttons need not be so in the
others: `Service.headerVariable_overlong` is about one.
-/

set_option autoImplicit false

namespace MessageTemplate

/-! ## Values -/

theorem Template.validate_number (t : Template) (s : Step) :
    t.validate (.ofNat s.number) = t.report s := by
  unfold validate
  rw [Step.ofData_number]

namespace Data

/-- The value can be copied if it is an object, and the template that is made of it, if any, is
checkable in the steps that look at the content. -/
def Checkable (d : Data) (s : Step) : Prop :=
  (∀ ms, d = .object ms → d.nesting ≤ deepestCopy) ∧
    (s = .content ∨ s = .review → ∀ t ∈ (Template.readLenient d).1, t.Checkable)

theorem recover_cases (d : Data) :
    (∃ ms, d = .object ms ∧ deepestCopy < d.nesting ∧ Template.recover d = .error .tooDeep) ∨
      ((∀ ms, d = .object ms → d.nesting ≤ deepestCopy) ∧
        Template.recover d = .ok (Template.readLenient d)) := by
  cases d with
  | object ms =>
    unfold Template.recover
    by_cases hdeep : deepestCopy < (object ms).nesting
    · exact .inl ⟨ms, rfl, hdeep, if_pos hdeep⟩
    · exact .inr ⟨fun _ _ => Nat.not_lt.mp hdeep, if_neg hdeep⟩
  | _ => exact .inr ⟨nofun, rfl⟩

theorem validate_number (d : Data) (s : Step) : d.validate (.ofNat s.number) = d.report s := by
  unfold validate
  rw [Step.ofData_number]

theorem readLenient_of_read {d : Data} {t : Template} (h : Template.read d = .value t) :
    Template.readLenient d = (some t, []) := by
  cases d with
  | object ms =>
    unfold Template.readLenient Template.readingAttempts Template.readRepeatedly
    rw [h]
  | _ => cases h

/-- A value that is read without a fault has the report of its template. -/
theorem report_of_read {d : Data} {t : Template} (h : Template.read d = .value t)
    (hnesting : d.nesting ≤ deepestCopy) (s : Step) : d.report s = t.report s := by
  rcases recover_cases d with ⟨_, _, hdeep, _⟩ | ⟨_, hrecover⟩
  · exact absurd hdeep (Nat.not_lt.mpr hnesting)
  · unfold report
    rw [hrecover, readLenient_of_read h]
    rfl

/-- **Exactly the checkable values have a report in a step.** -/
theorem report_ok_iff {d : Data} {s : Step} : (∃ r, d.report s = .ok r) ↔ d.Checkable s := by
  unfold report Checkable
  rcases recover_cases d with ⟨ms, hms, hdeep, hrecover⟩ | ⟨hnesting, hrecover⟩
  · rw [hrecover]
    constructor
    · rintro ⟨r, hr⟩
      cases hr
    · intro h
      exact absurd (h.1 ms hms) (Nat.not_le.mpr hdeep)
  · rw [hrecover, and_iff_right hnesting]
    obtain ⟨t?, issues⟩ := Template.readLenient d
    cases t? with
    | none => simp
    | some t =>
      simp only [Template.reportAfter_ok_iff, Option.mem_some_iff, forall_eq']

end Data

/-! ## Requests -/

namespace Service

/-- The path on which templates are validated. -/
def validationPath : String := "/api/templates/validate"

/-- The request asks for the validation of an object in a step. -/
structure AsksToValidate (r : ServiceRequest) (ms : Members) (s : Step) : Prop where
  method : r.method = "POST"
  path : r.target.path = validationPath
  content : r.content = some (.value (.object ms))
  step : readStep r.target = .value s.number

/-- **A request to validate an object in a step is answered with the report** on it, or fails as
the report does. -/
theorem answer_validate {r : ServiceRequest} {ms : Members} {s : Step} (h : AsksToValidate r ms s) :
    answer r = ((Data.object ms).report s).map fun report => accepted report.toData := by
  have hroute : route? validationPath.toList = some ("POST", validate) := by rfl
  have hupper : String.ofList ("POST".toList.map Char.toUpper) = "POST" := by decide
  have hnumber : Step.ofNumber? s.number = some s := by cases s <;> rfl
  have hvalidate : validate r =
      ((Data.object ms).report s).map fun report => accepted report.toData := by
    unfold validate withBody
    rw [h.content, h.step]
    simp only [readBody, Read.dictionary, Reading.under, Reading.ap_value_value, hnumber]
  unfold answer
  simp only [h.method, h.path, hroute, hupper, if_true, hvalidate]
  cases (Data.object ms).report s <;> rfl

/-- **Validation answers for exactly the checkable values**: there is a report on a value in a
step, and a request to validate an object in a step is accepted. -/
theorem validation_answers (d : Data) (s : Step) :
    ((∃ report, d.validate (.ofNat s.number) = .ok report) ↔ d.Checkable s) ∧
    ∀ (r : ServiceRequest) (ms : Members), d = .object ms → AsksToValidate r ms s →
      ((∃ a, answer r = .ok a ∧ a.status = 200) ↔ d.Checkable s) := by
  constructor
  · rw [Data.validate_number]
    exact Data.report_ok_iff
  · rintro r ms rfl h
    rw [answer_validate h, ← Data.report_ok_iff]
    cases (Data.object ms).report s with
    | ok report => exact ⟨fun _ => ⟨report, rfl⟩, fun _ => ⟨accepted report.toData, rfl, rfl⟩⟩
    | error e =>
      constructor
      · rintro ⟨a, ha, _⟩
        cases ha
      · rintro ⟨report, hreport⟩
        cases hreport

/-- A request to validate an object in a step. -/
def validationRequest (ms : Members) (s : Step) : ServiceRequest where
  target := { path := validationPath, parameters := [(stepParameter, toString s.number)] }
  content := some (.value (.object ms))

theorem validationRequest_asks (ms : Members) (s : Step) :
    AsksToValidate (validationRequest ms s) ms s where
  method := rfl
  path := rfl
  content := rfl
  step := by cases s <;> rfl

/-- A template none of whose parts is what it should be. -/
def malformedParts : Members :=
  [("header", .list [.int 1]), ("body", .str "Your order has left our store."),
    ("buttons", .object [("items", .object [])])]

theorem validation_answers_malformedParts :
    ∃ a, answer (validationRequest malformedParts .content) = .ok a ∧ a.status = 200 := by
  have hcheckable : (Data.object malformedParts).Checkable .content := by
    refine ⟨fun _ _ => by decide, ?_⟩
    intro _ t ht
    cases ht
    decide
  have hanswers := validation_answers (.object malformedParts) .content
  exact (hanswers.2 _ malformedParts rfl (validationRequest_asks _ _)).mpr hcheckable

/-- An object whose header is a single variable of the digits. -/
def headerVariable (digits : List Char) : Members :=
  [("name", .str "order_update"), ("language", .str "en"), ("category", .str "UTILITY"),
    ("header", .object [("enabled", .bool true), ("format", .str "TEXT"),
      ("text", .str (String.ofList (Variable.token digits)))]),
    ("body", .object [("text", .str "Your order has left our store.")])]

theorem nesting_headerVariable (digits : List Char) :
    (Data.object (headerVariable digits)).nesting = 2 := rfl

theorem report_headerVariable (digits : List Char) (s : Step) :
    (Data.object (headerVariable digits)).report s =
      (Template.withHeaderVariable digits).report s := rfl

/-- A header variable with one digit too many has no report on the content, and no answer. -/
theorem headerVariable_overlong :
    (Data.object (headerVariable Variable.overlongDigits)).nesting ≤ Data.deepestCopy ∧
    (∀ report, (Data.object (headerVariable Variable.overlongDigits)).validate
      (.ofNat Step.content.number) ≠ .ok report) ∧
    ∀ a, answer (validationRequest (headerVariable Variable.overlongDigits) .content) ≠ .ok a := by
  obtain ⟨e, he⟩ := Template.report_content_withHeaderVariable Variable.overlongDigits_decimal
    Variable.overlongDigits_length
  have hreport : (Data.object (headerVariable Variable.overlongDigits)).report .content =
      .error e := (report_headerVariable _ _).trans he
  refine ⟨?_, ?_, ?_⟩
  · rw [nesting_headerVariable]
    decide
  · intro report
    rw [Data.validate_number, hreport]
    exact nofun
  · intro a
    rw [answer_validate (validationRequest_asks _ _), hreport]
    exact nofun

end Service

end MessageTemplate
