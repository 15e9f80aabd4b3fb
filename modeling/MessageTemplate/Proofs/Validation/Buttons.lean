import MessageTemplate.Proofs.Validation.Content
import Mathlib.Data.List.Basic

/-!
# What the buttons step decides

* `Button.InOrder`, `ButtonSet.InOrder` — what the platform asks of a button and of buttons
  together, in its own limits and words;
* `Button.concerns_fieldAt_append_iff` — the dotted names of a button and of its parts are found under
  the position of this button only;
* `ButtonSet.mem_findingsFrom_iff` — the findings on buttons one by one;
* `Template.buttons_decided` — the report in the buttons step is valid exactly if the buttons are in
  order, and has errors on a position exactly if the button there is not.
-/

set_option autoImplicit false

namespace MessageTemplate

open Finding

/-! ## Buttons in order -/

/-- Without white space, hyphens and parentheses the number is a plus sign, a digit from 1 to 9 and
one to fourteen more decimal digits. -/
def IsInternational (phone : String) : Prop :=
  ∃ first digits,
    phone.toList.filter (fun c => !Text.isBlank c && c ∉ ['-', '(', ')']) =
      '+' :: first :: digits ∧
    '1' ≤ first ∧ first ≤ '9' ∧ (∀ d ∈ digits, Text.isDecimalDigit d = true) ∧
    1 ≤ digits.length ∧ digits.length ≤ 14

/-- A button that the platform takes in a template of the category. -/
structure Button.InOrder (category : String) (b : Button) : Prop where
  known : ∃ word ∈ ["QUICK_REPLY", "URL", "PHONE_NUMBER", "COPY_CODE"], b.kind = some word
  allowed : category = "AUTHENTICATION" → b.kind = some "COPY_CODE" ∨ b.kind = some "URL"
  text : ∃ text, b.text = some text ∧ (∃ c ∈ text.toList, Text.isBlank c = false) ∧
    text.length ≤ 25
  address : b.kind = some "URL" → ∃ url, b.url = some url ∧ "https://".toList <+: url.toList
  phone : b.kind = some "PHONE_NUMBER" → ∃ phone, b.phoneNumber = some phone ∧ IsInternational phone

/-- Buttons that the platform takes together. -/
structure ButtonSet.InOrder (category : String) (items : List Button) : Prop where
  few : items.length ≤ 10
  single : category = "AUTHENTICATION" → items.length ≤ 1
  urls : (items.countP fun b => b.kind = some "URL") ≤ 2
  phones : (items.countP fun b => b.kind = some "PHONE_NUMBER") ≤ 1
  each : ∀ b ∈ items, b.InOrder category

/-! ## What the rules accept -/

namespace CategoryRules

theorem of_authentication : of "AUTHENTICATION" =
    { headerAllowed := false, requiresCode := true, allowedKinds := [.copyCode, .url],
      maxButtons := 1 } := rfl

/-- Every other word has the general rules. -/
theorem of_other {word : String} (h : word ≠ "AUTHENTICATION") : of word = {} := by
  unfold of
  cases hword : Category.ofWord? word with
  | none => rfl
  | some c =>
    cases c with
    | authentication => exact absurd (Category.ofWord?_eq_some_iff.mp hword) h
    | _ => rfl

theorem mem_allowedKinds_iff {word : String} {k : ButtonKind} :
    k ∈ (of word).allowedKinds ↔ (word = "AUTHENTICATION" → k = .copyCode ∨ k = .url) := by
  by_cases hword : word = "AUTHENTICATION"
  · simp [hword, of_authentication]
  · rw [of_other hword]
    cases k <;> simp [hword, ButtonKind.all]

theorem le_maxButtons_iff {word : String} {n : Nat} :
    n ≤ MessageTemplate.maxButtons ∧ n ≤ (of word).maxButtons ↔
      n ≤ 10 ∧ (word = "AUTHENTICATION" → n ≤ 1) := by
  by_cases hword : word = "AUTHENTICATION"
  · simp [hword, of_authentication, MessageTemplate.maxButtons]
  · simp [of_other hword, hword, MessageTemplate.maxButtons]

end CategoryRules

theorem isInternationalPhone_iff {phone : String} :
    isInternationalPhone (compactPhone phone.toList) = true ↔ IsInternational phone := by
  have hcompact : compactPhone phone.toList =
      phone.toList.filter (fun c => !Text.isBlank c && c ∉ ['-', '(', ')']) := by
    unfold compactPhone
    refine congrArg (List.filter · _) (funext fun c => ?_)
    rw [Bool.eq_iff_iff]
    simp [and_assoc]
  unfold IsInternational
  rw [← hcompact]
  generalize compactPhone phone.toList = cs
  unfold isInternationalPhone
  split
  · rename_i first rest
    simp [and_assoc]
  · rename_i hother
    simp only [Bool.false_eq_true, false_iff]
    rintro ⟨first, digits, rfl, _⟩
    exact hother _ _ rfl

theorem exists_given?_iff {value : Option String} {P : String → Prop} (h : ¬P "") :
    (∃ s ∈ given? value, P s) ↔ ∃ s, value = some s ∧ P s := by
  simp only [Option.mem_def, given?_eq_some_iff]
  constructor
  · rintro ⟨s, ⟨hs, _⟩, hp⟩
    exact ⟨s, hs, hp⟩
  · rintro ⟨s, hs, hp⟩
    refine ⟨s, ⟨hs, ?_⟩, hp⟩
    rintro rfl
    exact h hp

namespace Button

variable {b : Button} {category : String}

theorem kind?_eq_some_iff {k : ButtonKind} : b.kind? = some k ↔ b.kind = some k.word := by
  unfold kind?
  simp only [Option.bind_eq_some_iff, ButtonKind.ofWord?_eq_some_iff, exists_eq_right]

theorem known_iff : (∃ word ∈ ["QUICK_REPLY", "URL", "PHONE_NUMBER", "COPY_CODE"],
    b.kind = some word) ↔ ∃ k : ButtonKind, b.kind = some k.word := by
  constructor
  · simp only [List.mem_cons, List.not_mem_nil, or_false]
    rintro ⟨_, rfl | rfl | rfl | rfl, h⟩
    · exact ⟨.quickReply, h⟩
    · exact ⟨.url, h⟩
    · exact ⟨.phoneNumber, h⟩
    · exact ⟨.copyCode, h⟩
  · rintro ⟨k, h⟩
    exact ⟨k.word, by cases k <;> decide, h⟩

theorem text_inOrder_iff : Text.isBlankText (b.text.getD "").toList = false ∧
    (b.text.getD "").length ≤ maxButtonTextLength ↔
      ∃ text, b.text = some text ∧ (∃ c ∈ text.toList, Text.isBlank c = false) ∧
        text.length ≤ 25 := by
  cases b.text with
  | none => exact iff_of_false (fun h => nomatch h.1) (fun ⟨_, h, _⟩ => nomatch h)
  | some text => simp [Text.isBlankText_eq_false_iff, maxButtonTextLength]

/-- A button of a kind has what it must have for this kind. -/
theorem equipped_iff {k : ButtonKind} (hk : b.kind = some k.word) : b.Equipped k ↔
    (b.kind = some "URL" → ∃ url, b.url = some url ∧ "https://".toList <+: url.toList) ∧
    (b.kind = some "PHONE_NUMBER" →
      ∃ phone, b.phoneNumber = some phone ∧ IsInternational phone) := by
  rw [hk]
  cases k with
  | quickReply => simp [Equipped, ButtonKind.word]
  | copyCode => simp [Equipped, ButtonKind.word]
  | url =>
    have hurl : b.Equipped .url ↔ ∃ url, b.url = some url ∧ "https://".toList <+: url.toList := by
      refine Iff.trans (exists_given?_iff (by decide)) ?_
      simp only [isSecureAddress_iff]
    simp [hurl, ButtonKind.word]
  | phoneNumber =>
    have hphone : b.Equipped .phoneNumber ↔
        ∃ phone, b.phoneNumber = some phone ∧ IsInternational phone := by
      refine Iff.trans (exists_given?_iff (by decide)) ?_
      simp only [isInternationalPhone_iff]
    simp [hphone, ButtonKind.word]

theorem admissible_iff : b.Admissible category ↔ b.InOrder category := by
  constructor
  · intro h
    obtain ⟨k, hkind, hallowed, hequipped⟩ := h.kind
    have hk := kind?_eq_some_iff.mp hkind
    obtain ⟨haddress, hphone⟩ := (equipped_iff hk).mp hequipped
    refine ⟨known_iff.mpr ⟨k, hk⟩, fun hcategory => ?_, text_inOrder_iff.mp ⟨h.notBlank, h.short⟩,
      haddress, hphone⟩
    rcases CategoryRules.mem_allowedKinds_iff.mp hallowed hcategory with rfl | rfl
    · exact .inl hk
    · exact .inr hk
  · intro h
    obtain ⟨k, hk⟩ := known_iff.mp h.known
    obtain ⟨hnotBlank, hshort⟩ := text_inOrder_iff.mpr h.text
    refine ⟨⟨k, kind?_eq_some_iff.mpr hk, CategoryRules.mem_allowedKinds_iff.mpr ?_,
      (equipped_iff hk).mpr ⟨h.address, h.phone⟩⟩, hnotBlank, hshort⟩
    intro hcategory
    have hwords := h.allowed hcategory
    rw [hk] at hwords
    cases k <;> simp [ButtonKind.word] at hwords ⊢

end Button

namespace ButtonSet

variable {category : String} {items : List Button}

theorem count_eq_countP {k : ButtonKind} :
    count items k = items.countP fun b => b.kind = some k.word := by
  unfold count
  simp only [Button.kind?_eq_some_iff]

theorem admissible_iff : Admissible category items ↔ InOrder category items := by
  have heach : (∀ b ∈ items, b.Admissible category) ↔ ∀ b ∈ items, b.InOrder category :=
    forall₂_congr fun _ _ => Button.admissible_iff
  have hurls : count items .url ≤ maxUrlButtons ↔
      (items.countP fun b => b.kind = some "URL") ≤ 2 := by
    rw [count_eq_countP]
    rfl
  have hphones : count items .phoneNumber ≤ maxPhoneButtons ↔
      (items.countP fun b => b.kind = some "PHONE_NUMBER") ≤ 1 := by
    rw [count_eq_countP]
    rfl
  constructor
  · intro h
    obtain ⟨hfew, hsingle⟩ := CategoryRules.le_maxButtons_iff.mp h.few
    exact ⟨hfew, hsingle, hurls.mp h.urls, hphones.mp h.phones, heach.mp h.each⟩
  · intro h
    exact ⟨heach.mpr h.each, CategoryRules.le_maxButtons_iff.mpr ⟨h.few, h.single⟩,
      hurls.mpr h.urls, hphones.mpr h.phones⟩

end ButtonSet

/-! ## Errors under a position -/

theorem Report.concerns_iff {field name : String} : concerns field name = true ↔
    name = field ∨ (field ++ ".").toList <+: name.toList ∨
      (field ++ "[").toList <+: name.toList := by
  simp [concerns, or_assoc]

/-- A dotted name begins with the field that it is of. -/
theorem Report.prefix_of_concerns {field name : String} (h : concerns field name = true) :
    field.toList <+: name.toList := by
  have hextended : ∀ more : String, (field ++ more).toList <+: name.toList →
      field.toList <+: name.toList := by
    intro more hmore
    rw [String.toList_append] at hmore
    exact (List.prefix_append _ _).trans hmore
  rcases concerns_iff.mp h with rfl | hdot | hbracket
  · exact List.prefix_rfl
  · exact hextended _ hdot
  · exact hextended _ hbracket

/-- A report has errors on a field if some finding that forbids the submission is on it. -/
theorem Report.errorsFor_ofFindings_ne_nil_iff {fs : List Finding} {field : String} :
    (ofFindings fs).errorsFor field ≠ [] ↔
      ∃ f ∈ fs, f.severity = .error ∧ concerns field f.issue.field = true := by
  have hmem : ∀ issue, issue ∈ (ofFindings fs).errorsFor field ↔
      (∃ f ∈ fs, f.severity = .error ∧ f.issue = issue) ∧ concerns field issue.field = true := by
    simp [errorsFor, ofFindings, issues, issueOf?]
  rw [ne_eq, List.eq_nil_iff_forall_not_mem]
  simp only [hmem, not_forall, not_not]
  constructor
  · rintro ⟨_, ⟨f, hf, hseverity, rfl⟩, hconcerns⟩
    exact ⟨f, hf, hseverity, hconcerns⟩
  · rintro ⟨f, hf, hseverity, hconcerns⟩
    exact ⟨f.issue, ⟨f, hf, hseverity, rfl⟩, hconcerns⟩

namespace Button

variable {b : Button} {category : String} {i j : Nat}

theorem toList_fieldAt (i : Nat) :
    (fieldAt i).toList = "buttons.items[".toList ++ (Nat.toDigits 10 i ++ [']']) := by
  simp only [fieldAt, String.toList_append, List.append_assoc, Nat.toString_eq_ofList_toDigits,
    String.toList_ofList]
  rfl

/-- **A button and its parts are found under the position of this button only**: the bracket ends
the number of the position, so that no number passes for the beginning of a longer one. -/
theorem concerns_fieldAt_append_iff {part : String}
    (hpart : ∀ c ∈ part.toList.head?, c = '.' ∨ c = '[') :
    Report.concerns (fieldAt i) (fieldAt j ++ part) = true ↔ i = j := by
  have hnumber : ∀ n rest,
      (Nat.toDigits 10 n ++ ']' :: rest).takeWhile Char.isDigit = Nat.toDigits 10 n := by
    intro n rest
    rw [List.takeWhile_append_of_pos fun _ =>
      Nat.isDigit_of_mem_toDigits (by decide) (by decide)]
    simp [Char.isDigit]
  constructor
  · -- A name begins with another one: the digits before the bracket are the same in both.
    intro h
    have hprefix := Report.prefix_of_concerns h
    rw [String.toList_append, toList_fieldAt, toList_fieldAt, List.append_assoc,
      List.prefix_append_right_inj] at hprefix
    obtain ⟨rest, hrest⟩ := hprefix
    simp only [List.append_assoc, List.singleton_append] at hrest
    have hdigits : Nat.toDigits 10 i = Nat.toDigits 10 j := by
      rw [← hnumber i rest, hrest, hnumber]
    rw [← Nat.ofDigitChars_ten_toDigits (n := i), hdigits, Nat.ofDigitChars_ten_toDigits]
  · rintro rfl
    have hextended : ∀ mark : String, mark.toList <+: part.toList →
        (fieldAt i ++ mark).toList <+: (fieldAt i ++ part).toList := by
      intro mark hmark
      rw [String.toList_append, String.toList_append, List.prefix_append_right_inj]
      exact hmark
    rw [Report.concerns_iff]
    cases hcs : part.toList with
    | nil =>
      left
      rw [String.toList_eq_nil_iff.mp hcs, String.append_empty]
    | cons c rest =>
      have hbegins : [c] <+: part.toList := hcs ▸ List.prefix_append [c] rest
      rcases hpart c (by rw [hcs]; rfl) with rfl | rfl
      · exact .inr (.inl (hextended "." hbegins))
      · exact .inr (.inr (hextended "[" hbegins))

theorem concerns_fieldAt_iff {part : String} (hpart : part.toList.head? = some '.') :
    Report.concerns (fieldAt i) (fieldAt j ++ part) = true ↔ i = j := by
  refine concerns_fieldAt_append_iff fun c hc => ?_
  rw [hpart] at hc
  exact .inl (Option.some.inj hc).symm

/-- The field of all buttons is under no position. -/
theorem not_concerns_together : ¬Report.concerns (fieldAt i) "buttons" = true := by
  intro h
  have hlength := (Report.prefix_of_concerns h).length_le
  have hshort : "buttons".toList.length < "buttons.items[".toList.length := by decide
  rw [toList_fieldAt, List.length_append] at hlength
  omega

/-- The findings are on parts of the button at the position. -/
def OnParts (i : Nat) (fs : List Finding) : Prop :=
  ∀ f ∈ fs, ∃ part : String, part.toList.head? = some '.' ∧ f.issue.field = fieldAt i ++ part

section

variable {fs gs : List Finding} {part message : String} {condition : Bool}

@[simp] theorem onParts_nil : OnParts i [] := List.forall_mem_nil _

@[simp] theorem onParts_append : OnParts i (fs ++ gs) ↔ OnParts i fs ∧ OnParts i gs :=
  List.forall_mem_append

theorem OnParts.onlyIf (h : OnParts i fs) : OnParts i (onlyIf condition fs) :=
  fun f hf => h f (mem_of_mem_onlyIf hf)

theorem onParts_error (h : part.toList.head? = some '.') :
    OnParts i [error (fieldAt i ++ part) message] :=
  List.forall_mem_singleton.mpr ⟨part, h, rfl⟩

theorem onParts_warning (h : part.toList.head? = some '.') :
    OnParts i [warning (fieldAt i ++ part) message] :=
  List.forall_mem_singleton.mpr ⟨part, h, rfl⟩

end

/-- What is wrong with a button is wrong with a part of it. -/
theorem onParts_findings : OnParts i (b.findings category i) := by
  have hkind : OnParts i (b.kindFindings category i) := by
    unfold kindFindings
    split
    · exact onParts_error (by decide)
    · exact (onParts_error (by decide)).onlyIf
  have htext : OnParts i (b.textFindings i) := by
    unfold textFindings
    simp only
    split
    · exact onParts_error (by decide)
    · exact (onParts_error (by decide)).onlyIf
  have haction : OnParts i (b.actionFindings i) := by
    unfold actionFindings urlFindings phoneFindings
    split
    · split
      · exact onParts_error (by decide)
      · exact (onParts_error (by decide)).onlyIf
    · split
      · exact onParts_error (by decide)
      · exact (onParts_error (by decide)).onlyIf
    · exact (onParts_warning (by decide)).onlyIf
    · exact onParts_nil
  exact onParts_append.mpr ⟨onParts_append.mpr ⟨hkind, htext⟩, haction⟩

end Button

namespace ButtonSet

variable {category : String} {items : List Button}

/-- What is wrong with buttons one by one is wrong with the one at some position. -/
theorem mem_findingsFrom_iff {start : Nat} {f : Finding} : f ∈ findingsFrom category start items ↔
    ∃ (j : Nat) (b : Button), items[j]? = some b ∧ f ∈ b.findings category (start + j) := by
  induction items generalizing start with
  | nil => simp [findingsFrom]
  | cons b rest ih =>
    rw [findingsFrom, List.mem_append, ih]
    constructor
    · rintro (hfirst | ⟨j, b', hb', hf⟩)
      · exact ⟨0, b, rfl, hfirst⟩
      · exact ⟨j + 1, b', hb', by rwa [Nat.add_assoc, Nat.add_comm 1 j] at hf⟩
    · rintro ⟨j, b', hb', hf⟩
      cases j with
      | zero =>
        obtain rfl := Option.some.inj hb'
        exact .inl hf
      | succ j => exact .inr ⟨j, b', hb', by rwa [Nat.add_assoc, Nat.add_comm 1 j]⟩

/-- What is wrong with the buttons together is on all of them. -/
theorem field_of_mem_together {f : Finding}
    (h : f ∈ sizeFindings category items ++ mixFindings items) : f.issue.field = "buttons" := by
  have hone : ∀ issue severity (condition : Bool),
      f ∈ onlyIf condition [⟨severity, issue⟩] → f.issue = issue := by
    intro issue severity condition hf
    rw [List.mem_singleton.mp (mem_of_mem_onlyIf hf)]
  rcases List.mem_append.mp h with hsize | hmix
  · unfold sizeFindings at hsize
    simp only at hsize
    split at hsize
    · rw [List.mem_singleton.mp hsize]
      rfl
    · rw [hone _ _ _ hsize]
  · unfold mixFindings at hmix
    simp only [List.mem_append] at hmix
    rcases hmix with (hmix | hmix) | hmix
    · rw [hone _ _ _ hmix]
    · rw [hone _ _ _ hmix]
    · rw [hone _ _ _ hmix]

/-- **The report blames the right button.** -/
theorem errorsFor_shownFindings_iff {i : Nat} :
    (Report.ofFindings (shownFindings category items)).errorsFor (Button.fieldAt i) ≠ [] ↔
      ∃ b, items[i]? = some b ∧ ¬b.InOrder category := by
  have hbad : ∀ b : Button, ¬b.InOrder category ↔
      ∃ f ∈ b.findings category i, f.severity = .error := by
    intro b
    rw [← Button.admissible_iff, ← Button.passes_iff (i := i), Finding.not_pass_iff]
  simp only [Report.errorsFor_ofFindings_ne_nil_iff, hbad]
  unfold shownFindings
  constructor
  · rintro ⟨f, hf, hseverity, hconcerns⟩
    rw [List.append_assoc] at hf
    rcases List.mem_append.mp hf with hsingle | htogether
    · obtain ⟨j, b, hb, hf⟩ := mem_findingsFrom_iff.mp hsingle
      rw [Nat.zero_add] at hf
      obtain ⟨part, hpart, hfield⟩ := Button.onParts_findings f hf
      rw [hfield, Button.concerns_fieldAt_iff hpart] at hconcerns
      subst hconcerns
      exact ⟨b, hb, f, hf, hseverity⟩
    · rw [field_of_mem_together htogether] at hconcerns
      exact absurd hconcerns Button.not_concerns_together
  · rintro ⟨b, hb, f, hf, hseverity⟩
    have hfound : f ∈ findingsFrom category 0 items :=
      mem_findingsFrom_iff.mpr ⟨i, b, hb, by rwa [Nat.zero_add]⟩
    obtain ⟨part, hpart, hfield⟩ := Button.onParts_findings f hf
    refine ⟨f, List.mem_append_left _ (List.mem_append_left _ hfound), hseverity, ?_⟩
    rw [hfield, Button.concerns_fieldAt_iff hpart]

end ButtonSet

namespace Template

/-- **The buttons step decides whether the buttons are in order and blames the right one**: every
template has a report in it. If buttons are shown, this is valid exactly if they are in order, and
it has errors on a position exactly if there is a button that is not. Otherwise it is valid. -/
theorem buttons_decided (t : Template) :
    ∃ r, t.validate (.ofNat Step.buttons.number) = .ok r ∧
      (∀ set, t.buttons = some set → set.enabled = true → set.items ≠ [] →
        (r.valid = true ↔ ButtonSet.InOrder t.category set.items) ∧
        ∀ i : Nat, r.errorsFor ("buttons.items[" ++ toString i ++ "]") ≠ [] ↔
          ∃ b, set.items[i]? = some b ∧ ¬b.InOrder t.category) ∧
      ((∀ set, t.buttons = some set → set.enabled = false ∨ set.items = []) →
        r.valid = true) := by
  have hreport : t.report .buttons = .ok (.ofFindings t.buttonFindings) := rfl
  refine ⟨.ofFindings t.buttonFindings, by rw [validate_number, hreport], ?_, ?_⟩
  · intro set hset hshown hitems
    have hfindings : t.buttonFindings = ButtonSet.shownFindings t.category set.items := by
      simp [buttonFindings, onlyIf, hset, hshown, hitems]
    rw [hfindings, valid_ofFindings_iff, ButtonSet.shown_passes_iff, ButtonSet.admissible_iff]
    exact ⟨Iff.rfl, fun _ => ButtonSet.errorsFor_shownFindings_iff⟩
  · intro hhidden
    rw [valid_ofFindings_iff, buttons_pass_iff]
    intro set hset hshown hitems
    rcases hhidden set hset with hoff | hnone
    · rw [hoff] at hshown
      cases hshown
    · exact absurd hnone hitems

/-- An address, a number that is written with blanks, hyphens and parentheses, and a reply of white
space. -/
def contactLines : ButtonSet where
  enabled := true
  items :=
    [{ kind := some "URL", text := some "Shop", url := some "https://example.com" },
      { kind := some "PHONE_NUMBER", text := some "Call", phoneNumber := some "+49 (30) 12-34" },
      { text := some "\u2003" }]

theorem buttons_decided_contactLines :
    ∃ r, Template.validate { category := "UTILITY", buttons := some contactLines }
        (.ofNat Step.buttons.number) = .ok r ∧
      r.errors = [⟨"buttons.items[2].text", "Button 3 text is required"⟩] ∧
      ¬ButtonSet.InOrder "UTILITY" contactLines.items ∧
      (∃ b, contactLines.items[2]? = some b ∧ ¬b.InOrder "UTILITY") ∧
      ∀ i < 2, ∀ b, contactLines.items[i]? = some b → b.InOrder "UTILITY" := by
  have hrun : Template.validate { category := "UTILITY", buttons := some contactLines }
      (.ofNat Step.buttons.number) =
        .ok ⟨false, [⟨"buttons.items[2].text", "Button 3 text is required"⟩],
          [⟨"buttons",
            "Mixing quick reply with URL/phone buttons may affect user experience"⟩]⟩ := by
    decide +kernel
  obtain ⟨r, hr, hshown, _⟩ := buttons_decided { category := "UTILITY", buttons := contactLines }
  obtain rfl := Except.ok.inj (hrun.symm.trans hr)
  obtain ⟨hvalid, hblame⟩ := hshown contactLines rfl rfl nofun
  refine ⟨_, hrun, rfl, fun h => absurd (hvalid.mpr h) nofun, (hblame 2).mp (by decide +kernel),
    ?_⟩
  intro i hi b hb
  have hquiet : ∀ i < 2, Report.errorsFor ⟨false,
      [⟨"buttons.items[2].text", "Button 3 text is required"⟩], []⟩
        ("buttons.items[" ++ toString i ++ "]") = [] := by decide +kernel
  by_contra hbad
  exact (hblame i).mpr ⟨b, hb, hbad⟩ (hquiet i hi)

end Template

end MessageTemplate
