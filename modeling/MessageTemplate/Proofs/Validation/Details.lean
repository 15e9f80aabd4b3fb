import MessageTemplate.Proofs.Dashboard.Turns
import MessageTemplate.Proofs.Service.Components
import MessageTemplate.Wizard

/-!
# What the details step decides

* `IsPlainName`, `Template.DetailsInOrder` — what the platform asks of name, category and language,
  in its own limits and words;
* `isNameText_iff` — the names that the rules accept: plain ones, also with a line break behind;
* `Template.ReachesSubmission` — a dashboard, a wizard or the service makes a submission of the
  template;
* `Template.details_decided` — what the report in the details step says of a template, and that
  no other template reaches a submission;
* `Template.lineBreak_submitted` — a name with a line break behind does.
-/

set_option autoImplicit false

namespace MessageTemplate

open Finding

/-! ## Details in order -/

/-- One to 512 small letters, digits and underscores. -/
structure IsPlainName (name : String) : Prop where
  nonempty : 1 ≤ name.length
  short : name.length ≤ 512
  chars : ∀ c ∈ name.toList, ('a' ≤ c ∧ c ≤ 'z') ∨ ('0' ≤ c ∧ c ≤ '9') ∨ c = '_'

/-- Details that the platform takes. -/
structure Template.DetailsInOrder (t : Template) : Prop where
  name : IsPlainName t.name
  category : t.category ∈ ["MARKETING", "UTILITY", "AUTHENTICATION"]
  language : t.language ∈ ["en", "en_US", "en_GB", "es", "pt_BR", "hi", "ar", "fr", "de", "it",
    "id", "ms", "th", "vi", "zh_CN", "ja", "ko"]

/-! ## What the rules accept -/

theorem isNameChar_iff {c : Char} :
    isNameChar c = true ↔ ('a' ≤ c ∧ c ≤ 'z') ∨ ('0' ≤ c ∧ c ≤ '9') ∨ c = '_' := by
  simp [isNameChar, or_assoc]

/-- A text is a text without final line break, or such a text with one behind. -/
theorem withoutFinalBreak_cases (cs : List Char) :
    withoutFinalBreak cs = cs ∨ cs = withoutFinalBreak cs ++ ['\n'] := by
  unfold withoutFinalBreak
  split
  · rename_i hlast
    obtain ⟨front, rfl⟩ := List.getLast?_eq_some_iff.mp hlast
    exact .inr (by rw [List.dropLast_concat])
  · exact .inl rfl

theorem withoutFinalBreak_append_break (front : List Char) :
    withoutFinalBreak (front ++ ['\n']) = front := by
  simp [withoutFinalBreak]

theorem withoutFinalBreak_of_nameChars {cs : List Char} (h : ∀ c ∈ cs, isNameChar c = true) :
    withoutFinalBreak cs = cs := by
  refine if_neg fun hlast => ?_
  exact absurd (h _ (List.mem_of_getLast? hlast)) (by decide)

/-- **The names of the rules are those of name characters, also with one line break behind.** -/
theorem isNameText_iff {cs : List Char} : isNameText cs = true ↔
    ∃ front, front ≠ [] ∧ (∀ c ∈ front, isNameChar c = true) ∧
      (cs = front ∨ cs = front ++ ['\n']) := by
  have hopen : isNameText cs = true ↔
      withoutFinalBreak cs ≠ [] ∧ ∀ c ∈ withoutFinalBreak cs, isNameChar c = true := by
    simp [isNameText]
  rw [hopen]
  constructor
  · rintro ⟨hne, hchars⟩
    refine ⟨_, hne, hchars, ?_⟩
    rcases withoutFinalBreak_cases cs with hsame | hbreak
    · exact .inl hsame.symm
    · exact .inr hbreak
  · rintro ⟨front, hne, hchars, rfl | rfl⟩
    · rw [withoutFinalBreak_of_nameChars hchars]
      exact ⟨hne, hchars⟩
    · rw [withoutFinalBreak_append_break]
      exact ⟨hne, hchars⟩

namespace Template

theorem name_pass_iff {name : String} :
    Pass (nameFindings name) ↔ isNameText name.toList = true ∧ name.length ≤ maxNameLength := by
  unfold nameFindings
  split
  · rename_i hempty
    obtain rfl := String.isEmpty_iff.mp hempty
    simp [isNameText, withoutFinalBreak]
  · simp

theorem plainName_iff {name : String} : IsPlainName name ↔
    name.toList ≠ [] ∧ (∀ c ∈ name.toList, isNameChar c = true) ∧ name.length ≤ 512 := by
  simp only [isNameChar_iff]
  constructor
  · intro h
    refine ⟨fun hnone => ?_, h.chars, h.short⟩
    have hlength := h.nonempty
    rw [← String.length_toList, hnone] at hlength
    exact absurd hlength (by decide)
  · rintro ⟨hne, hchars, hshort⟩
    refine ⟨?_, hshort, hchars⟩
    rw [← String.length_toList]
    exact List.length_pos_iff.mpr hne

/-- The rules accept a plain name, also with a line break that the limit leaves room for. -/
theorem name_pass_iff_plain {name : String} : Pass (nameFindings name) ↔
    IsPlainName name ∨ ∃ front, IsPlainName front ∧ name = front ++ "\n" ∧ name.length ≤ 512 := by
  rw [name_pass_iff, isNameText_iff]
  constructor
  · rintro ⟨⟨front, hne, hchars, rfl | hbreak⟩, hshort⟩
    · exact .inl (plainName_iff.mpr ⟨hne, hchars, hshort⟩)
    · have hname : name = String.ofList front ++ "\n" := by
        rw [← String.toList_inj, hbreak]
        simp
      refine .inr ⟨String.ofList front, plainName_iff.mpr ?_, hname, hshort⟩
      rw [hname, String.length_append] at hshort
      rw [String.toList_ofList]
      exact ⟨hne, hchars, (Nat.le_add_right _ _).trans hshort⟩
  · rintro (hplain | ⟨front, hplain, rfl, hshort⟩)
    · obtain ⟨hne, hchars, hshort⟩ := plainName_iff.mp hplain
      exact ⟨⟨_, hne, hchars, .inl rfl⟩, hshort⟩
    · obtain ⟨hne, hchars, _⟩ := plainName_iff.mp hplain
      exact ⟨⟨_, hne, hchars, .inr (by simp)⟩, hshort⟩

theorem category_pass_iff {category : String} :
    Pass (categoryFindings category) ↔ category ∈ ["MARKETING", "UTILITY", "AUTHENTICATION"] := by
  have hword : (Category.ofWord? category).isSome = true ↔
      category ∈ ["MARKETING", "UTILITY", "AUTHENTICATION"] := by
    simp only [Option.isSome_iff_exists, Category.ofWord?_eq_some_iff, List.mem_cons,
      List.not_mem_nil, or_false]
    constructor
    · rintro ⟨c, rfl⟩
      cases c <;> simp [Category.word]
    · rintro (rfl | rfl | rfl)
      · exact ⟨.marketing, rfl⟩
      · exact ⟨.utility, rfl⟩
      · exact ⟨.authentication, rfl⟩
  unfold categoryFindings
  split
  · rename_i hempty
    obtain rfl := String.isEmpty_iff.mp hempty
    simp
  · rw [← hword]
    cases Category.ofWord? category <;> simp

theorem language_pass_iff {language : String} :
    Pass (languageFindings language) ↔ language ∈ languages := by
  unfold languageFindings
  split
  · rename_i hempty
    obtain rfl := String.isEmpty_iff.mp hempty
    simp [languages]
  · simp

/-- **The rules accept details in order, also with a line break behind the name.** -/
theorem details_pass_iff {t : Template} : Pass t.detailFindings ↔ t.DetailsInOrder ∨
    ∃ front, DetailsInOrder { t with name := front } ∧ t.name = front ++ "\n" ∧
      t.name.length ≤ 512 := by
  unfold detailFindings
  rw [pass_append, pass_append, name_pass_iff_plain, category_pass_iff, language_pass_iff]
  constructor
  · rintro ⟨⟨hplain | ⟨front, hplain, hname, hshort⟩, hcategory⟩, hlanguage⟩
    · exact .inl ⟨hplain, hcategory, hlanguage⟩
    · exact .inr ⟨front, ⟨hplain, hcategory, hlanguage⟩, hname, hshort⟩
  · rintro (h | ⟨front, h, hname, hshort⟩)
    · exact ⟨⟨.inl h.name, h.category⟩, h.language⟩
    · exact ⟨⟨.inr ⟨front, h.name, hname, hshort⟩, h.category⟩, h.language⟩

end Template

/-! ## Submissions -/

/-- A submission is made of the template: a dashboard is sent something for it, a wizard sends
something or hands it in, or the service answers with its submission. -/
inductive Template.ReachesSubmission (t : Template) : Prop
  | dashboard (d : Dashboard) (traffic : Traffic)
      (h : ((d.submit t).outcome traffic).2.sent ≠ traffic.sent)
  | wizard (dashboard : Option Dashboard) (w : Wizard) (traffic : Traffic) (hw : w.template = t)
      (h : (w.submit dashboard traffic).traffic.sent ≠ traffic.sent ∨
        ∃ answer, (w.submit dashboard traffic).result = .ok (.submitted answer))
  | service (r : ServiceRequest) (ms : Members) (a : ServiceAnswer)
      (hr : Service.AsksForComponents r ms) (hread : Template.read (.object ms) = .value t)
      (h : Service.answer r = .ok a) (ha : a.status = 200)

/-- A wizard makes a submission of a valid template only. -/
theorem Wizard.valid_of_submit {dashboard : Option Dashboard} {w : Wizard} {t : Traffic}
    (h : (w.submit dashboard t).traffic.sent ≠ t.sent ∨
      ∃ answer, (w.submit dashboard t).result = .ok (.submitted answer)) : w.template.Valid := by
  unfold submit at h
  split at h
  · simp [refused] at h
  · split at h
    · simp [failed] at h
    · rename_i report hreport
      split at h
      · rename_i hvalid
        exact ⟨report, hreport, hvalid⟩
      · simp [refused] at h

/-- **A submission is made of a valid template only.** -/
theorem Template.ReachesSubmission.valid {t : Template} (h : t.ReachesSubmission) : t.Valid := by
  cases h with
  | dashboard d traffic h =>
    obtain ⟨requests, ⟨hsent, _⟩, hquiet | ⟨hvalid, _⟩⟩ := d.submit_sent t traffic
    · rw [hquiet, List.append_nil] at hsent
      exact absurd hsent h
    · exact hvalid
  | wizard dashboard w traffic hw h =>
    subst hw
    exact Wizard.valid_of_submit h
  | service r ms a hr hread h ha =>
    rw [Service.answer_components hr, hread] at h
    change (t.report .review).map (Service.answerTo t) = .ok a at h
    cases hreport : t.report .review with
    | error e =>
      rw [hreport] at h
      cases h
    | ok report =>
      rw [hreport] at h
      obtain rfl := Except.ok.inj h
      unfold Service.answerTo at ha
      split at ha
      · rename_i hvalid
        exact ⟨report, hreport, hvalid⟩
      · cases ha

namespace Template

/-- **The details step decides whether the details are in order, up to a line break behind the
name**: every template has a report in it, which is valid exactly if its details are in order or
would be without this line break. A template that reaches a submission has a valid one. -/
theorem details_decided (t : Template) :
    ∃ r, t.validate (.ofNat Step.details.number) = .ok r ∧
      (r.valid = true ↔ t.DetailsInOrder ∨
        ∃ front, DetailsInOrder { t with name := front } ∧ t.name = front ++ "\n" ∧
          t.name.length ≤ 512) ∧
      (t.name.toList.getLast? ≠ some '\n' → (r.valid = true ↔ t.DetailsInOrder)) ∧
      (t.ReachesSubmission → r.valid = true) := by
  have hreport : t.report .details = .ok (.ofFindings t.detailFindings) := rfl
  refine ⟨.ofFindings t.detailFindings, by rw [validate_number, hreport], ?_, ?_, ?_⟩
  · rw [valid_ofFindings_iff, details_pass_iff]
  · intro hlast
    rw [valid_ofFindings_iff, details_pass_iff, or_iff_left]
    rintro ⟨front, _, hname, _⟩
    exact hlast (by simp [hname])
  · intro h
    rw [valid_ofFindings_iff]
    exact (valid_review_iff.mp h.valid).1

/-- The update is submitted, so its details are in order. -/
theorem details_decided_orderUpdate :
    orderUpdate.ReachesSubmission ∧ orderUpdate.DetailsInOrder := by
  have hreaches : orderUpdate.ReachesSubmission :=
    .dashboard { address := Dashboard.defaultAddress } {} (by decide +kernel)
  obtain ⟨r, _, _, hdecides, hgate⟩ := details_decided orderUpdate
  exact ⟨hreaches, (hdecides (by decide)).mp (hgate hreaches)⟩

/-- **A name with a line break behind is submitted**: the rules pass over the line break, which is
neither a small letter nor a digit nor an underscore. -/
theorem lineBreak_submitted :
    ∃ t : Template, t.name = "order_update\n" ∧
      t.validate (.ofNat Step.details.number) = .ok ⟨true, [], []⟩ ∧ ¬t.DetailsInOrder ∧
      t.ReachesSubmission := by
  refine ⟨{ orderUpdate with name := "order_update\n" }, rfl, by decide +kernel, ?_, ?_⟩
  · intro h
    exact absurd (h.name.chars '\n' (by decide)) (by decide)
  · exact .dashboard { address := Dashboard.defaultAddress } {} (by decide +kernel)

end Template

end MessageTemplate
