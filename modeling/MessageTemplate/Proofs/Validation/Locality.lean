import MessageTemplate.Proofs.Data.DottedName
import MessageTemplate.Proofs.Lenient.Apart
import MessageTemplate.Proofs.Service.Validation

/-!
# What the report in a step depends on

* `Step.consults` — the members that a step looks at: those that it is responsible for, and the
  category where rules depend on it;
* `rootOf_fieldName` — the dotted name of a location begins with the member that it leads into, so
  that the issues of a step are those in its members;
* `validate_local` — two objects that agree on the members that a step consults have the same report
  in this step, and so have two templates.
-/

set_option autoImplicit false

namespace MessageTemplate

/-- The members that a step looks at. -/
def Step.consults : Step → List String
  | .details => ["id", "name", "category", "language"]
  | .content => ["category", "header", "body", "footer"]
  | .buttons => ["category", "buttons"]
  | .review => Template.memberNames

/-! ## Names of locations -/

/-- A dotted name goes on with a point or a bracket, or ends. -/
def GoesOn (more : String) : Prop := ∀ c ∈ more.toList.head?, c = '.' ∨ c = '['

theorem goesOn_of_toList {more : String} {c : Char} {rest : List Char}
    (hmore : more.toList = c :: rest) (hc : c = '.' ∨ c = '[') : GoesOn more := by
  intro c' hc'
  rw [hmore] at hc'
  exact Option.some.inj hc' ▸ hc

/-- What a dotted name goes on with does not change the top-level member. -/
theorem rootOf_append (field : String) {more : String} (hmore : GoesOn more) :
    rootOf (field ++ more) = rootOf field := by
  have hstop : more.toList.takeWhile (fun c => !(c == '.' || c == '[')) = [] := by
    cases hcs : more.toList with
    | nil => rfl
    | cons c rest =>
      rcases hmore c (by rw [hcs]; rfl) with rfl | rfl
      · rfl
      · rfl
  unfold rootOf
  rw [String.toList_append]
  congr 1
  induction field.toList with
  | nil => exact hstop
  | cons d cs ih => simp only [List.cons_append, List.takeWhile_cons, ih]

namespace Location

/-- A location goes on with the dotted name. -/
theorem foldl_extendName (rest : Location) {field : String} (hfield : field ≠ "") :
    ∃ more, rest.foldl extendName field = field ++ more ∧ GoesOn more := by
  refine ⟨String.ofList (links (rest.map Key.shown)), ?_, ?_⟩
  · rw [← String.toList_inj, String.toList_append, String.toList_ofList,
      toList_foldl_extendName rest hfield]
  · unfold GoesOn
    rw [String.toList_ofList]
    exact beginsJoined_links _

/-- The dotted name of a location with a first step that names a member. -/
theorem fieldName_eq {s : String} (hs : s ∈ Template.memberNames) (rest : Location) :
    fieldName (.name s :: rest) = rest.foldl extendName s := by
  have hfirst : ∀ s ∈ Template.memberNames, extendName "" (.name s) = s ∧ s ≠ "" := by decide
  obtain ⟨hname, hnonempty⟩ := hfirst s hs
  obtain ⟨more, hmore, _⟩ := foldl_extendName rest hnonempty
  have hlast : s ++ more ≠ "" := fun h => hnonempty (String.append_eq_empty_iff.mp h).1
  unfold fieldName
  rw [List.foldl_cons, hname, hmore]
  simp only [String.isEmpty_iff, hlast, if_false]

end Location

/-- The dotted name of a location in a template begins with the member that it leads into. -/
theorem rootOf_fieldName {s : String} (hs : s ∈ Template.memberNames) (rest : Location) :
    rootOf (Location.fieldName (.name s :: rest)) = s := by
  have hroot : ∀ s ∈ Template.memberNames, rootOf s = s ∧ s ≠ "" := by decide
  obtain ⟨hsame, hnonempty⟩ := hroot s hs
  obtain ⟨more, hmore, hgoesOn⟩ := Location.foldl_extendName rest hnonempty
  rw [Location.fieldName_eq hs, hmore, rootOf_append s hgoesOn, hsame]

/-- A step owns the issues in members that it consults only. -/
theorem isIn_consults_of_owns (step : Step) {f : Fault}
    (hinside : f.location.isIn Template.memberNames = true)
    (howns : step.owns f.toIssue.field = true) : f.location.isIn step.consults = true := by
  obtain ⟨s, hs, rest, hloc⟩ := Location.isIn_iff.mp hinside
  have hroot : rootOf f.toIssue.field = s := by
    show rootOf f.location.fieldName = s
    rw [hloc, rootOf_fieldName hs]
  have hknown : ∀ s ∈ Template.memberNames, knownMembers.contains s = true := by decide
  unfold Step.owns at howns
  rw [hroot, hknown s hs] at howns
  refine Location.isIn_iff.mpr ⟨s, ?_, rest, hloc⟩
  cases step with
  | review => exact hs
  | details => exact List.contains_iff_mem.mp howns
  | content => exact List.mem_cons_of_mem _ (List.contains_iff_mem.mp howns)
  | buttons => exact List.mem_cons_of_mem _ (List.contains_iff_mem.mp howns)

/-! ## Templates -/

namespace Template

/-- The templates have the same parts where a step looks. -/
def SameFor (t t' : Template) : Step → Prop
  | .details =>
    t'.id = t.id ∧ t'.name = t.name ∧ t'.category = t.category ∧ t'.language = t.language
  | .content =>
    t'.category = t.category ∧ t'.header = t.header ∧ t'.body = t.body ∧ t'.footer = t.footer
  | .buttons => t'.category = t.category ∧ t'.buttons = t.buttons
  | .review => t' = t

/-- What is wrong in a step depends on the parts where the step looks. -/
theorem SameFor.findings {t t' : Template} {step : Step} (h : t.SameFor t' step) :
    t'.findings step = t.findings step := by
  cases step with
  | details =>
    obtain ⟨_, hname, hcategory, hlanguage⟩ := h
    unfold Template.findings detailFindings
    rw [hname, hcategory, hlanguage]
  | content =>
    obtain ⟨hcategory, hheader, hbody, hfooter⟩ := h
    unfold Template.findings contentFindings categoryContentFindings showsHeader
    rw [hcategory, hheader, hbody, hfooter]
  | buttons =>
    obtain ⟨hcategory, hbuttons⟩ := h
    unfold Template.findings buttonFindings
    rw [hcategory, hbuttons]
  | review =>
    obtain rfl := h
    rfl

/-- Objects that agree on the members that a step consults are salvaged alike for this step. -/
theorem sameFor_salvage {ms ms' : Members} {step : Step}
    (h : Members.AgreeOn step.consults ms ms') : (salvage ms).SameFor (salvage ms') step := by
  have hfitting : ∀ {α : Type} (fit? : Data → Option α) (s : String), s ∈ step.consults →
      ms'.fitting? [s] fit? = ms.fitting? [s] fit? := by
    intro α fit? s hs
    exact fitting?_agree fit? fun s' hs' => h s' (List.mem_singleton.mp hs' ▸ hs)
  cases step with
  | details =>
    refine ⟨?_, ?_, ?_, ?_⟩ <;>
      simp only [salvage, hfitting _ "id" (by decide), hfitting _ "name" (by decide),
        hfitting _ "category" (by decide), hfitting _ "language" (by decide)]
  | content =>
    refine ⟨?_, ?_, ?_, ?_⟩ <;>
      simp only [salvage, hfitting _ "category" (by decide), hfitting _ "header" (by decide),
        hfitting _ "body" (by decide), hfitting _ "footer" (by decide)]
  | buttons =>
    refine ⟨?_, ?_⟩ <;>
      simp only [salvage, hfitting _ "category" (by decide), hfitting _ "buttons" (by decide)]
  | review =>
    show salvage ms' = salvage ms
    simp only [salvage, hfitting _ "id" (by decide), hfitting _ "name" (by decide),
      hfitting _ "language" (by decide), hfitting _ "category" (by decide),
      hfitting _ "header" (by decide), hfitting _ "body" (by decide),
      hfitting _ "footer" (by decide), hfitting _ "buttons" (by decide)]

theorem SameFor.reportAfter {t t' : Template} {step : Step} (h : t.SameFor t' step)
    (found : List Issue) : t'.reportAfter found step = t.reportAfter found step := by
  unfold Template.reportAfter
  rw [h.findings]

end Template

/-! ## Values -/

namespace Data

variable {ms ms' : Members}

/-- The report on an object is the one on its salvage, after the issues that the step owns. -/
theorem report_object (hnames : (object ms).namesOnce = true)
    (hnesting : (object ms).nesting ≤ deepestCopy) (step : Step) :
    (object ms).report step = (Template.salvage ms).reportAfter
      ((Template.readRepeatedly 3 (object ms)).2.filter fun i => step.owns i.field) step := by
  obtain ⟨issues, hread, _⟩ := Template.readRepeatedly_of_settles (settles_object hnames)
  have hrecover : Template.recover (object ms) =
      .ok (some (Template.salvage ms), (Template.readRepeatedly 3 (object ms)).2) := by
    rw [Template.recover, if_neg (Nat.not_lt.mpr hnesting), hread]
    exact congrArg Except.ok hread
  unfold report
  rw [hrecover]

/-- **The report on an object depends on the members that the step consults.** -/
theorem report_agree {step : Step} (hagree : Members.AgreeOn step.consults ms ms')
    (hnames : (object ms).namesOnce = true) (hnames' : (object ms').namesOnce = true)
    (hnesting : (object ms).nesting ≤ deepestCopy)
    (hnesting' : (object ms').nesting ≤ deepestCopy) :
    (object ms').report step = (object ms).report step := by
  have hissues := Template.issues_agree (fun i => step.owns i.field)
    (fun f hinside howns => isIn_consults_of_owns step hinside howns) hnames hnames'
    (settles_object hnames) (settles_object hnames') hagree
  rw [report_object hnames hnesting, report_object hnames' hnesting', hissues,
    (Template.sameFor_salvage hagree).reportAfter]

end Data

/-- **A step sees only the members that it consults**: two templates with the same parts there have
the same report, or fail alike, and so have two objects that agree on these members, whatever else
they hold and however malformed it is. -/
theorem validate_local (step : Step) :
    (∀ t t' : Template, t.SameFor t' step →
      t'.validate (.ofNat step.number) = t.validate (.ofNat step.number)) ∧
    ∀ ms ms' : Members, (Data.object ms).namesOnce = true → (Data.object ms').namesOnce = true →
      (Data.object ms).nesting ≤ Data.deepestCopy → (Data.object ms').nesting ≤ Data.deepestCopy →
      Members.AgreeOn step.consults ms ms' →
      (Data.object ms').validate (.ofNat step.number) =
        (Data.object ms).validate (.ofNat step.number) := by
  constructor
  · intro t t' h
    rw [Template.validate_number, Template.validate_number]
    exact h.reportAfter []
  · intro ms ms' hnames hnames' hnesting hnesting' hagree
    rw [Data.validate_number, Data.validate_number]
    exact Data.report_agree hagree hnames hnames' hnesting hnesting'

/-- A content with faults of its own, among them a member that is wrong in both its spellings. -/
def faultyContent : Members :=
  [("category", .str "AUTHENTICATION"),
    ("header", .object [("enabled", .int 1), ("mediaUrl", .int 1), ("media_url", .int 2)]),
    ("body", .object [("text", .str "Your code has been sent."), ("examples", .str "A-17")])]

/-- Other members that fit. -/
def fittingElsewhere : Members := [("name", .str "login_code"), ("language", .str "en")]

/-- Other members that do not fit, or are unknown. -/
def malformedElsewhere : Members :=
  [("name", .list [.int 1]), ("id", .int 7), ("headers", .null),
    ("buttons", .object [("enabled", .str "perhaps"),
      ("items", .list [.null, .object [("phoneNumber", .int 1), ("phone_number", .int 2)]])])]

theorem validate_local_faultyContent :
    (Data.object (malformedElsewhere ++ faultyContent)).validate (.ofNat Step.content.number) =
        (Data.object (faultyContent ++ fittingElsewhere)).validate (.ofNat Step.content.number) ∧
      ((Data.object (faultyContent ++ fittingElsewhere)).validate
          (.ofNat Step.content.number)).map (fun r => r.errors.map Issue.field) =
        .ok ["header.mediaUrl", "body.examples", "header.mediaUrl", "header.text", "header",
          "body.text"] := by
  have hagree : ∀ s ∈ Step.content.consults, (malformedElsewhere ++ faultyContent).lookup s =
      (faultyContent ++ fittingElsewhere).lookup s := by
    decide
  refine ⟨?_, by decide +kernel⟩
  exact (validate_local .content).2 _ _ (by decide) (by decide) (by decide) (by decide) hagree

end MessageTemplate
