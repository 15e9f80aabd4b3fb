import MessageTemplate.Proofs.Readable
import MessageTemplate.Proofs.Validation.Review

/-!
# What the rules accept

The rules list what is wrong. Here is what they accept, said part by part and without findings.

* `Header.Admissible`, `Body.Admissible`, `Footer.Admissible`, `Button.Admissible`,
  `ButtonSet.Admissible` — a part with which nothing is wrong that forbids the submission;
* `Template.AdmissibleContent`, `Template.AdmissibleButtons` — the same for a template, with what
  its category asks of the parts together;
* `Template.content_passes_iff`, `Template.buttons_pass_iff` — the rules of a step find nothing that
  forbids the submission exactly if its parts are admissible;
* `Template.valid_review_iff` — a template is valid in the review exactly if all parts of it are.
-/

set_option autoImplicit false

namespace MessageTemplate

/-! ## Findings -/

namespace Finding

/-- None of the findings forbids the submission. -/
def Pass (findings : List Finding) : Prop := ∀ f ∈ findings, f.severity = .warning

variable {fs gs : List Finding} {field message : String} {condition : Bool}

@[simp] theorem pass_nil : Pass [] := List.forall_mem_nil _

@[simp] theorem pass_append : Pass (fs ++ gs) ↔ Pass fs ∧ Pass gs := List.forall_mem_append

@[simp] theorem pass_error : Pass [error field message] ↔ False := by simp [Pass, error]

@[simp] theorem pass_warning : Pass [warning field message] := by simp [Pass, warning]

@[simp] theorem pass_onlyIf : Pass (onlyIf condition fs) ↔ (condition = true → Pass fs) := by
  cases condition <;> simp [onlyIf]

theorem mem_of_mem_onlyIf {f : Finding} (h : f ∈ onlyIf condition fs) : f ∈ fs := by
  cases condition with
  | false => cases h
  | true => exact h

theorem not_pass_iff : ¬Pass fs ↔ ∃ f ∈ fs, f.severity = .error := by
  have hseverity : ∀ f : Finding, f.severity ≠ .warning ↔ f.severity = .error := by
    intro f
    cases f.severity <;> simp
  simp only [Pass, not_forall, exists_prop, hseverity]

/-- The report on findings is valid if none of them forbids the submission. -/
theorem valid_ofFindings_iff : (Report.ofFindings fs).valid = true ↔ Pass fs := by
  rw [Report.valid_ofFindings]
  show Report.issues .error fs = [] ↔ _
  unfold Report.issues Pass
  rw [List.filterMap_eq_nil_iff]
  refine forall₂_congr fun f _ => ?_
  unfold issueOf?
  cases f.severity <;> simp

/-- Rules that find something, but nothing that forbids the submission. -/
def Passes (rules : Except Text.NumeralError (List Finding)) : Prop :=
  ∃ fs, rules = .ok fs ∧ Pass fs

@[simp] theorem passes_ok : Passes (.ok fs) ↔ Pass fs := by simp [Passes]

@[simp] theorem passes_error {e : Text.NumeralError} : Passes (.error e) ↔ False := by simp [Passes]

end Finding

open Finding

/-- A report is valid exactly if the rules of its step pass. -/
theorem Template.valid_iff_passes {t : Template} {s : Step} {r : Report}
    (h : t.report s = .ok r) : r.valid = true ↔ Passes (t.findings s) := by
  unfold report reportAfter at h
  cases hfindings : t.findings s with
  | error e =>
    rw [hfindings] at h
    cases h
  | ok fs =>
    rw [hfindings] at h
    obtain rfl := Except.ok.inj h
    rw [passes_ok, ← valid_ofFindings_iff]
    rfl

/-! ## Content -/

/-- A text with the one variable that a header may have, and a sample for it. -/
def Header.SampledOnce (h : Header) : Prop :=
  (Variable.tokens h.text).length = 1 ∧ Variable.ordinals h.text = .ok [1] ∧
    (given? h.sample).isSome = true

/-- A header that the rules accept. -/
def Header.Admissible (h : Header) : Prop :=
  match h.format? with
  | some .text =>
    1 ≤ h.text.length ∧ h.text.length ≤ maxHeaderLength ∧
      (Variable.tokens h.text = [] ∨ h.SampledOnce)
  | some _ => ∀ url ∈ given? h.mediaUrl, isSecureAddress url = true
  | none => False

/-- A body that the rules accept: its variables are numbered from one, and each has a sample. -/
structure Body.Admissible (b : Body) : Prop where
  notBlank : Text.isBlankText b.text.toList = false
  short : b.text.length ≤ maxBodyLength
  sampled : ∃ k, Variable.ordinals b.text = .ok (List.range' 1 k) ∧ k ≤ b.samples.length

/-- A footer that the rules accept. -/
structure Footer.Admissible (f : Footer) : Prop where
  short : f.text.length ≤ maxFooterLength
  plain : Variable.tokens f.text = []

/-- Content that the rules accept: parts that are off do not count. -/
structure Template.AdmissibleContent (t : Template) : Prop where
  header : ∀ h ∈ t.header, h.enabled = true → h.Admissible
  body : t.body.Admissible
  footer : ∀ f ∈ t.footer, f.enabled = true → f.Admissible
  authentication : t.category = Category.authentication.word →
    (∀ h ∈ t.header, h.enabled = false) ∧
      ∃ ordinals, Variable.ordinals t.body.text = .ok ordinals ∧ 1 ∈ ordinals

namespace Header

variable {h : Header}

theorem variables_pass_iff : Passes h.variableFindings ↔
    Variable.tokens h.text = [] ∨
      (Variable.tokens h.text).length = 1 ∧ Variable.ordinals h.text = .ok [1] := by
  unfold variableFindings
  simp only
  split
  · rename_i hmany
    have hne : (Variable.tokens h.text).length ≠ 0 := Nat.ne_of_gt (Nat.zero_lt_of_lt hmany)
    have hone : (Variable.tokens h.text).length ≠ 1 := Nat.ne_of_gt hmany
    simp [List.eq_nil_iff_length_eq_zero, hne, hone]
  · rename_i hfew
    split
    · rename_i hnone
      simp [List.length_eq_zero_iff.mp hnone]
    · rename_i hsome
      have hone : (Variable.tokens h.text).length = 1 := by
        have : (Variable.tokens h.text).length ≤ 1 := Nat.not_lt.mp hfew
        omega
      have hne : Variable.tokens h.text ≠ [] := fun h => hsome (by rw [h]; rfl)
      cases Variable.ordinals h.text with
      | error e => simp [hne]
      | ok ordinals => simp [hne, hone]

theorem text_passes_iff : Passes h.textFindings ↔
    1 ≤ h.text.length ∧ h.text.length ≤ maxHeaderLength ∧
      (Variable.tokens h.text = [] ∨ h.SampledOnce) := by
  have hlength : h.text.isEmpty = true ↔ h.text.length = 0 := by
    rw [String.isEmpty_iff, String.length_eq_zero_iff]
  unfold textFindings
  split
  · rename_i hempty
    simp [hlength.mp hempty]
  · rename_i hnonempty
    have hpos : 1 ≤ h.text.length := Nat.one_le_iff_ne_zero.mpr (mt hlength.mpr hnonempty)
    have hvariables := @variables_pass_iff h
    cases hfound : h.variableFindings with
    | error e =>
      rw [hfound] at hvariables
      simp only [passes_error, false_iff, not_or] at hvariables ⊢
      exact fun hsound => hsound.2.2.elim hvariables.1 fun hone =>
        hvariables.2 ⟨hone.1, hone.2.1⟩
    | ok onVariables =>
      rw [hfound, passes_ok] at hvariables
      by_cases htokens : Variable.tokens h.text = []
      · simp [hvariables, Variable.occurs_iff, htokens, hpos]
      · simp [hvariables, Variable.occurs_iff, htokens, hpos, SampledOnce, and_assoc,
          Option.isSome_iff_ne_none]

theorem media_passes_iff {format : HeaderFormat} : Pass (h.mediaFindings format) ↔
    ∀ url ∈ given? h.mediaUrl, isSecureAddress url = true := by
  unfold mediaFindings
  cases given? h.mediaUrl <;> simp

theorem shown_passes_iff : Passes h.shownFindings ↔ h.Admissible := by
  unfold shownFindings Admissible
  cases h.format? with
  | none => simp
  | some format =>
    cases format with
    | text => exact text_passes_iff
    | _ => exact passes_ok.trans media_passes_iff

theorem passes_iff {header : Option Header} :
    Passes (findings header) ↔ ∀ h ∈ header, h.enabled = true → h.Admissible := by
  unfold findings
  cases header with
  | none => simp
  | some h => cases henabled : h.enabled <;> simp [henabled, shown_passes_iff]

end Header

/-- A list without a gap counts from its beginning. -/
theorem Variable.gapFrom_eq_none_iff {first : Nat} {ns : List Nat} :
    gapFrom first (ns.map Int.ofNat) = none ↔ ns = List.range' first ns.length := by
  induction ns generalizing first with
  | nil => simp [gapFrom]
  | cons n rest ih =>
    simp only [List.map_cons, gapFrom, List.length_cons, List.range'_succ, List.cons.injEq]
    by_cases hn : n = first
    · subst hn
      simpa using ih
    · have hcast : (n : Int) ≠ (first : Int) := mt Int.ofNat.inj hn
      simp [hn, hcast]

namespace Body

variable {b : Body}

theorem sequence_passes_iff {ordinals : List Nat} :
    Pass (sequenceFindings ordinals) ↔ ordinals = List.range' 1 ordinals.length := by
  rw [← Variable.gapFrom_eq_none_iff]
  unfold sequenceFindings Variable.firstGap
  cases Variable.gapFrom 1 (ordinals.map Int.ofNat) <;> simp

theorem passes_iff : Passes b.findings ↔ b.Admissible := by
  unfold findings
  split
  · rename_i hblank
    simp only [passes_ok, pass_error, false_iff]
    exact fun h => absurd (hblank.symm.trans h.notBlank) nofun
  · rename_i hblank
    have hsound : b.Admissible ↔ b.text.length ≤ maxBodyLength ∧
        ∃ k, Variable.ordinals b.text = .ok (List.range' 1 k) ∧ k ≤ b.samples.length :=
      ⟨fun h => ⟨h.short, h.sampled⟩, fun h => ⟨Bool.eq_false_iff.mpr hblank, h.1, h.2⟩⟩
    rw [hsound]
    cases Variable.ordinals b.text with
    | error e => simp
    | ok ordinals =>
      have hcount : (∃ k, ordinals = List.range' 1 k ∧ k ≤ b.samples.length) ↔
          ordinals = List.range' 1 ordinals.length ∧ ordinals.length ≤ b.samples.length := by
        constructor
        · rintro ⟨k, rfl, hk⟩
          simpa using hk
        · exact fun h => ⟨_, h⟩
      simp [discouraged, sequence_passes_iff, sampleFindings, hcount]

end Body

theorem Footer.passes_iff {footer : Option Footer} :
    Pass (Footer.findings footer) ↔ ∀ f ∈ footer, f.enabled = true → f.Admissible := by
  cases footer with
  | none => simp [Footer.findings]
  | some f =>
    have hsound : f.Admissible ↔
        f.text.length ≤ maxFooterLength ∧ Variable.tokens f.text = [] :=
      ⟨fun h => ⟨h.short, h.plain⟩, fun h => ⟨h.1, h.2⟩⟩
    simp [Footer.findings, hsound, Variable.occurs_iff]

namespace Template

variable {t : Template}

theorem showsHeader_eq_false_iff : t.showsHeader = false ↔ ∀ h ∈ t.header, h.enabled = false := by
  unfold showsHeader
  cases t.header <;> simp

theorem category_passes_iff : Passes t.categoryContentFindings ↔
    (t.category = Category.authentication.word →
      (∀ h ∈ t.header, h.enabled = false) ∧
        ∃ ordinals, Variable.ordinals t.body.text = .ok ordinals ∧ 1 ∈ ordinals) := by
  unfold categoryContentFindings
  split
  · rename_i hnone
    have hother : t.category ≠ Category.authentication.word := by
      intro h
      rw [h] at hnone
      exact absurd hnone (by decide)
    simp [hother]
  · rename_i c hc
    rw [Category.ofWord?_eq_some_iff.mp hc, ← showsHeader_eq_false_iff]
    cases c with
    | authentication =>
      cases Variable.ordinals t.body.text <;>
        simp [CategoryRules.ofCategory]
    | _ => simp [CategoryRules.ofCategory, Category.word]

/-- **The rules accept exactly the admissible content.** -/
theorem content_passes_iff : Passes t.contentFindings ↔ t.AdmissibleContent := by
  have hsound : t.AdmissibleContent ↔ Passes (Header.findings t.header) ∧ Passes t.body.findings ∧
      Pass (Footer.findings t.footer) ∧ Passes t.categoryContentFindings := by
    rw [Header.passes_iff, Body.passes_iff, Footer.passes_iff, category_passes_iff]
    exact ⟨fun h => ⟨h.header, h.body, h.footer, h.authentication⟩,
      fun h => ⟨h.1, h.2.1, h.2.2.1, h.2.2.2⟩⟩
  rw [hsound]
  unfold contentFindings
  cases Header.findings t.header with
  | error e => simp
  | ok onHeader =>
    cases t.body.findings with
    | error e => simp
    | ok onBody => cases t.categoryContentFindings <;> simp

end Template

/-! ## Buttons -/

/-- What a button of the kind must have. -/
def Button.Equipped (b : Button) : ButtonKind → Prop
  | .url => ∃ url ∈ given? b.url, isSecureAddress url = true
  | .phoneNumber =>
    ∃ phone ∈ given? b.phoneNumber, isInternationalPhone (compactPhone phone.toList) = true
  | _ => True

/-- A button that the rules accept in a template of the category. -/
structure Button.Admissible (category : String) (b : Button) : Prop where
  kind : ∃ k, b.kind? = some k ∧ k ∈ (CategoryRules.of category).allowedKinds ∧ b.Equipped k
  notBlank : Text.isBlankText (b.text.getD "").toList = false
  short : (b.text.getD "").length ≤ maxButtonTextLength

/-- Buttons that the rules accept together. -/
structure ButtonSet.Admissible (category : String) (items : List Button) : Prop where
  each : ∀ b ∈ items, b.Admissible category
  few : items.length ≤ maxButtons ∧ items.length ≤ (CategoryRules.of category).maxButtons
  urls : ButtonSet.count items .url ≤ maxUrlButtons
  phones : ButtonSet.count items .phoneNumber ≤ maxPhoneButtons

/-- Buttons that the rules accept, where any are shown. -/
def Template.AdmissibleButtons (t : Template) : Prop :=
  ∀ set ∈ t.buttons, set.enabled = true → set.items ≠ [] →
    ButtonSet.Admissible t.category set.items

namespace Button

variable {b : Button} {category : String} {i : Nat}

theorem kind_passes_iff : Pass (b.kindFindings category i) ↔
    ∃ k, b.kind? = some k ∧ k ∈ (CategoryRules.of category).allowedKinds := by
  unfold kindFindings
  cases b.kind? <;> simp

theorem text_passes_iff : Pass (b.textFindings i) ↔
    Text.isBlankText (b.text.getD "").toList = false ∧
      (b.text.getD "").length ≤ maxButtonTextLength := by
  unfold textFindings
  simp only
  split
  · rename_i hblank
    simp [hblank]
  · rename_i hblank
    simp [Bool.eq_false_iff.mpr hblank]

theorem action_passes_iff {k : ButtonKind} (hk : b.kind? = some k) :
    Pass (b.actionFindings i) ↔ b.Equipped k := by
  unfold actionFindings Equipped
  rw [hk]
  cases k with
  | quickReply => simp
  | copyCode => simp
  | url =>
    unfold urlFindings
    cases given? b.url <;> simp
  | phoneNumber =>
    unfold phoneFindings
    cases given? b.phoneNumber <;> simp

theorem passes_iff : Pass (b.findings category i) ↔ b.Admissible category := by
  unfold findings
  rw [pass_append, pass_append, kind_passes_iff, text_passes_iff]
  constructor
  · rintro ⟨⟨⟨k, hk, hallowed⟩, hblank, hshort⟩, haction⟩
    exact ⟨⟨k, hk, hallowed, (action_passes_iff hk).mp haction⟩, hblank, hshort⟩
  · rintro ⟨⟨k, hk, hallowed, haction⟩, hblank, hshort⟩
    exact ⟨⟨⟨k, hk, hallowed⟩, hblank, hshort⟩, (action_passes_iff hk).mpr haction⟩

theorem kind_of_kind? {k : ButtonKind} (h : b.kind? = some k) : b.kind = some k.word := by
  obtain ⟨word, hword, hk⟩ := Option.bind_eq_some_iff.mp h
  rw [hword, ButtonKind.ofWord?_eq_some_iff.mp hk]

/-- An admissible button has a text, which is not empty. -/
theorem Admissible.text (hb : b.Admissible category) :
    ∃ text, b.text = some text ∧ 1 ≤ text.length ∧ text.length ≤ maxButtonTextLength := by
  have hblank := hb.notBlank
  have hshort := hb.short
  cases htext : b.text with
  | none =>
    rw [htext] at hblank
    cases hblank
  | some text =>
    rw [htext, Option.getD_some] at hblank hshort
    refine ⟨text, rfl, ?_, hshort⟩
    rw [Nat.one_le_iff_ne_zero, ne_eq, String.length_eq_zero_iff]
    rintro rfl
    cases hblank

theorem Admissible.wellTyped (hb : b.Admissible category) : b.WellTyped := by
  obtain ⟨k, hk, _⟩ := hb.kind
  obtain ⟨text, htext, _⟩ := hb.text
  refine ⟨?_, by rw [htext]; rfl⟩
  rw [kind_of_kind? hk]
  rfl

end Button

namespace ButtonSet

variable {category : String} {items : List Button}

theorem each_passes_iff {i : Nat} :
    Pass (findingsFrom category i items) ↔ ∀ b ∈ items, b.Admissible category := by
  induction items generalizing i with
  | nil => simp [findingsFrom]
  | cons b rest ih => rw [findingsFrom, pass_append, Button.passes_iff, ih, List.forall_mem_cons]

theorem size_passes_iff : Pass (sizeFindings category items) ↔
    items.length ≤ maxButtons ∧ items.length ≤ (CategoryRules.of category).maxButtons := by
  unfold sizeFindings
  simp only
  split
  · rename_i hmany
    simp [Nat.not_le.mpr hmany]
  · rename_i hfew
    simp [Nat.not_lt.mp hfew]

theorem mix_passes_iff : Pass (mixFindings items) ↔
    count items .url ≤ maxUrlButtons ∧ count items .phoneNumber ≤ maxPhoneButtons := by
  simp [mixFindings]

theorem shown_passes_iff : Pass (shownFindings category items) ↔ Admissible category items := by
  unfold shownFindings
  rw [pass_append, pass_append, each_passes_iff, size_passes_iff, mix_passes_iff]
  exact ⟨fun h => ⟨h.1.1, h.1.2, h.2.1, h.2.2⟩, fun h => ⟨⟨h.each, h.few⟩, h.urls, h.phones⟩⟩

end ButtonSet

namespace Template

variable {t : Template}

/-- **The rules accept exactly the admissible buttons.** -/
theorem buttons_pass_iff : Pass t.buttonFindings ↔ t.AdmissibleButtons := by
  unfold buttonFindings AdmissibleButtons
  cases t.buttons with
  | none => simp
  | some set => simp [ButtonSet.shown_passes_iff]

/-! ## The review -/

/-- The review of the template is valid. -/
def Valid (t : Template) : Prop := ∃ r, t.report .review = .ok r ∧ r.valid = true

/-- **A template is valid in the review exactly if its parts are admissible.** -/
theorem valid_review_iff : t.Valid ↔
    Pass t.detailFindings ∧ t.AdmissibleContent ∧ t.AdmissibleButtons := by
  rw [← content_passes_iff, ← buttons_pass_iff]
  unfold Valid report reportAfter findings
  cases t.contentFindings <;> simp [valid_ofFindings_iff]

end Template

end MessageTemplate
