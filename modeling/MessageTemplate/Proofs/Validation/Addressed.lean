import MessageTemplate.Proofs.Validation.Admissible

/-!
# The fields that rules address

* `Finding.Within` — the findings are on some fields;
* `Header.within_findings`, `Body.within_findings`, `Footer.within_findings` — the fields of the parts
  of a message;
* `Template.within_contentFindings`, `Template.within_detailFindings` — the fields of the content and
  of the details.
-/

set_option autoImplicit false

namespace MessageTemplate

namespace Finding

/-- The findings are on some of the fields. -/
def Within (fields : List String) (findings : List Finding) : Prop :=
  ∀ f ∈ findings, f.issue.field ∈ fields

variable {fields more : List String} {fs gs : List Finding} {field message : String}
  {condition : Bool}

@[simp] theorem within_nil : Within fields [] := List.forall_mem_nil _

@[simp] theorem within_append : Within fields (fs ++ gs) ↔ Within fields fs ∧ Within fields gs :=
  List.forall_mem_append

@[simp] theorem within_error : Within fields [error field message] ↔ field ∈ fields :=
  List.forall_mem_singleton

@[simp] theorem within_warning : Within fields [warning field message] ↔ field ∈ fields :=
  List.forall_mem_singleton

theorem Within.onlyIf (h : Within fields fs) : Within fields (onlyIf condition fs) :=
  fun f hf => h f (mem_of_mem_onlyIf hf)

theorem Within.mono (h : Within fields fs) (hsub : fields ⊆ more) : Within more fs :=
  fun f hf => hsub (h f hf)

end Finding

open Finding

/-! ## The content -/

namespace Header

/-- The fields of a header that rules address. -/
def addressed : List String :=
  ["header.text", "header.example", "header.media", "header.mediaUrl", "header.format"]

variable {h : Header} {fs : List Finding}

theorem within_variableFindings (hfs : h.variableFindings = .ok fs) : Within addressed fs := by
  unfold variableFindings at hfs
  simp only at hfs
  split at hfs
  · cases hfs
    exact within_error.mpr (by decide)
  · split at hfs
    · cases hfs
      exact within_nil
    · split at hfs
      · cases hfs
      · cases hfs
        exact Within.onlyIf (within_error.mpr (by decide))

theorem within_textFindings (hfs : h.textFindings = .ok fs) : Within addressed fs := by
  unfold textFindings at hfs
  split at hfs
  · cases hfs
    exact within_error.mpr (by decide)
  · split at hfs
    · cases hfs
    · rename_i onVariables hvariables
      cases hfs
      rw [within_append, within_append]
      exact ⟨⟨Within.onlyIf (within_error.mpr (by decide)), within_variableFindings hvariables⟩,
        Within.onlyIf (within_error.mpr (by decide))⟩

theorem within_mediaFindings (format : HeaderFormat) : Within addressed (h.mediaFindings format) :=
  within_append.mpr ⟨Within.onlyIf (within_warning.mpr (by decide)),
    Within.onlyIf (within_error.mpr (by decide))⟩

theorem within_findings {header : Option Header} (hfs : findings header = .ok fs) :
    Within addressed fs := by
  unfold findings at hfs
  split at hfs
  · split at hfs
    · unfold shownFindings at hfs
      split at hfs
      · exact within_textFindings hfs
      · cases hfs
        exact within_mediaFindings _
      · cases hfs
        exact within_error.mpr (by decide)
    · cases hfs
      exact within_nil
  · cases hfs
    exact within_nil

end Header

/-- The fields of a body that rules address. -/
def Body.addressed : List String := ["body.text", "body.examples"]

theorem Body.within_findings {b : Body} {fs : List Finding} (hfs : b.findings = .ok fs) :
    Within addressed fs := by
  have htext : "body.text" ∈ addressed := by decide
  unfold findings at hfs
  split at hfs
  · cases hfs
    exact within_error.mpr htext
  · split at hfs
    · cases hfs
    · cases hfs
      have hsequence : ∀ ns, Within addressed (sequenceFindings ns) := by
        intro ns
        unfold sequenceFindings
        split
        · exact within_nil
        · exact within_error.mpr htext
      simp only [within_append]
      refine ⟨⟨⟨Within.onlyIf (within_error.mpr htext), hsequence _⟩,
        Within.onlyIf (within_error.mpr (by decide))⟩, ?_⟩
      intro f hf
      obtain ⟨_, _, hf⟩ := List.mem_flatMap.mp hf
      exact within_warning.mpr htext f (mem_of_mem_onlyIf hf)

/-- The field of a footer that rules address. -/
def Footer.addressed : List String := ["footer.text"]

theorem Footer.within_findings (footer : Option Footer) : Within addressed (findings footer) := by
  unfold findings
  split
  · exact within_nil
  · exact Within.onlyIf (within_append.mpr ⟨Within.onlyIf (within_error.mpr (by decide)),
      Within.onlyIf (within_error.mpr (by decide))⟩)

namespace Template

variable {t : Template} {fs : List Finding}

theorem within_categoryContentFindings (hfs : t.categoryContentFindings = .ok fs) :
    Within ["header", "body.text"] fs := by
  unfold categoryContentFindings at hfs
  split at hfs
  · cases hfs
    exact within_nil
  · simp only at hfs
    split at hfs
    · cases hfs
      exact Within.onlyIf (within_error.mpr (by decide))
    · split at hfs
      · cases hfs
      · cases hfs
        exact within_append.mpr ⟨Within.onlyIf (within_error.mpr (by decide)),
          Within.onlyIf (within_error.mpr (by decide))⟩

/-- The fields of the content that rules address. -/
def contentAddressed : List String :=
  "header" :: Header.addressed ++ Body.addressed ++ Footer.addressed

/-- The findings on the content are those on its parts and those of the category. -/
theorem contentFindings_eq_ok (hfs : t.contentFindings = .ok fs) :
    ∃ onHeader onBody onCategory, Header.findings t.header = .ok onHeader ∧
      t.body.findings = .ok onBody ∧ t.categoryContentFindings = .ok onCategory ∧
      fs = onHeader ++ onBody ++ Footer.findings t.footer ++ onCategory := by
  unfold contentFindings at hfs
  cases hheader : Header.findings t.header with
  | error e =>
    rw [hheader] at hfs
    cases hfs
  | ok onHeader =>
    cases hbody : t.body.findings with
    | error e =>
      rw [hheader, hbody] at hfs
      cases hfs
    | ok onBody =>
      cases hcategory : t.categoryContentFindings with
      | error e =>
        rw [hheader, hbody, hcategory] at hfs
        cases hfs
      | ok onCategory =>
        rw [hheader, hbody, hcategory] at hfs
        cases hfs
        exact ⟨onHeader, onBody, onCategory, rfl, rfl, rfl, rfl⟩

theorem within_contentFindings (hfs : t.contentFindings = .ok fs) : Within contentAddressed fs := by
  obtain ⟨onHeader, onBody, onCategory, hheader, hbody, hcategory, rfl⟩ := contentFindings_eq_ok hfs
  simp only [within_append]
  exact ⟨⟨⟨(Header.within_findings hheader).mono (by decide),
    (Body.within_findings hbody).mono (by decide)⟩,
    (Footer.within_findings t.footer).mono (by decide)⟩,
    (within_categoryContentFindings hcategory).mono (by decide)⟩

/-! ## The details -/

theorem within_detailFindings (t : Template) :
    Within ["name", "category", "language"] t.detailFindings := by
  have hname : Within ["name", "category", "language"] (nameFindings t.name) := by
    unfold nameFindings
    split
    · exact within_error.mpr (by decide)
    · simp only [within_append]
      exact ⟨⟨Within.onlyIf (within_error.mpr (by decide)),
        Within.onlyIf (within_error.mpr (by decide))⟩,
        Within.onlyIf (within_warning.mpr (by decide))⟩
  have hcategory : Within ["name", "category", "language"] (categoryFindings t.category) := by
    unfold categoryFindings
    split
    · exact within_error.mpr (by decide)
    · exact Within.onlyIf (within_error.mpr (by decide))
  have hlanguage : Within ["name", "category", "language"] (languageFindings t.language) := by
    unfold languageFindings
    split
    · exact within_error.mpr (by decide)
    · exact Within.onlyIf (within_error.mpr (by decide))
  exact within_append.mpr ⟨within_append.mpr ⟨hname, hcategory⟩, hlanguage⟩

end Template

end MessageTemplate
