import MessageTemplate.Validation
import Mathlib.Data.List.TakeWhile

/-!
# Readable templates

A text is readable if no variable in it has more digits than a numeral may have.

* `Variable.ordinals_ok_iff` — exactly the readable texts have ordinals;
* `Template.reportAfter_ok_iff` — exactly the templates whose texts are readable where a rule asks
  for the numbers of their variables have a report in every step;
* `Template.report_of_readable` — a template whose header and body texts are readable has one,
  whatever else is wrong with it;
* `Template.report_content_error` — a header that is a single variable with too many digits takes
  the report on the content away.
-/

set_option autoImplicit false

namespace MessageTemplate

/-! ## Texts -/

namespace Variable

/-- No variable of the text has more digits than a numeral may have. -/
def Readable (text : String) : Prop := ∀ digits ∈ digitRuns text, digits.length ≤ Text.numeralLimit

instance (text : String) : Decidable (Readable text) :=
  inferInstanceAs (Decidable (∀ digits ∈ digitRuns text, digits.length ≤ Text.numeralLimit))

theorem digitsAtFront?_decimal {cs digits : List Char} (h : digitsAtFront? cs = some digits) :
    digits.all Text.isDecimalDigit = true := by
  unfold digitsAtFront? at h
  split at h
  · simp only at h
    split at h
    · cases h
    · cases h
      rw [List.all_eq_true]
      exact fun c hc => List.mem_takeWhile_imp hc
    · cases h
  · cases h

theorem digitsAtFront?_token {digits : List Char} (hne : digits ≠ [])
    (hd : digits.all Text.isDecimalDigit = true) (rest : List Char) :
    digitsAtFront? (token digits ++ rest) = some digits := by
  have hrun : (digits ++ ('}' :: '}' :: rest)).takeWhile Text.isDecimalDigit = digits := by
    rw [List.takeWhile_append_of_pos (List.all_eq_true.mp hd)]
    have hclose : ('}' :: '}' :: rest).takeWhile Text.isDecimalDigit = [] := by
      rw [List.takeWhile_cons_of_neg (by decide)]
    rw [hclose, List.append_nil]
  unfold token digitsAtFront?
  simp only [List.cons_append, List.nil_append, List.append_assoc, hrun, List.drop_left]

theorem piecesFrom_decimal {cs digits : List Char} {skip : Nat}
    (h : Piece.variable digits ∈ piecesFrom skip cs) : digits.all Text.isDecimalDigit = true := by
  induction cs generalizing skip with
  | nil => simp [piecesFrom] at h
  | cons c rest ih =>
    cases skip with
    | succ skip =>
      rw [piecesFrom] at h
      exact ih h
    | zero =>
      rw [piecesFrom] at h
      split at h
      · rename_i ds hds
        rcases List.mem_cons.mp h with hd | hd
        · cases hd
          exact digitsAtFront?_decimal hds
        · exact ih hd
      · rcases List.mem_cons.mp h with hd | hd
        · cases hd
        · exact ih hd

theorem digitRuns_decimal {text : String} {digits : List Char} (h : digits ∈ digitRuns text) :
    digits.all Text.isDecimalDigit = true := by
  obtain ⟨piece, hp, hd⟩ := List.mem_filterMap.mp h
  rcases piece with c | ds
  · cases hd
  · cases hd
    exact piecesFrom_decimal hp

theorem piecesFrom_length (cs : List Char) : piecesFrom cs.length cs = [] := by
  induction cs with
  | nil => rfl
  | cons c cs ih => exact ih

/-- A token on its own is a variable with its digits. -/
theorem digitRuns_token {digits : List Char} (hne : digits ≠ [])
    (hd : digits.all Text.isDecimalDigit = true) :
    digitRuns (String.ofList (token digits)) = [digits] := by
  have hfront : digitsAtFront? (token digits) = some digits := by
    simpa using digitsAtFront?_token hne hd []
  have hlength : digits.length + 3 = ('{' :: (digits ++ ['}', '}'])).length := by simp
  have hpieces : piecesFrom 0 (token digits) = [.variable digits] := by
    unfold token at hfront ⊢
    simp only [List.cons_append, List.nil_append] at hfront ⊢
    rw [piecesFrom]
    simp only [hfront]
    rw [hlength, piecesFrom_length]
  unfold digitRuns pieces
  rw [String.toList_ofList, hpieces]
  rfl

/-- One digit more than a numeral may have. -/
def overlongDigits : List Char := List.replicate (Text.numeralLimit + 1) '1'

theorem overlongDigits_decimal : overlongDigits.all Text.isDecimalDigit = true := by
  unfold overlongDigits
  rw [List.all_replicate]
  decide

theorem overlongDigits_length : Text.numeralLimit < overlongDigits.length := by
  unfold overlongDigits
  rw [List.length_replicate]
  exact Nat.lt_succ_self _

/-- A run of decimal digits is refused only for its length. -/
theorem readNumeral_ok_iff {digits : List Char} (hd : digits.all Text.isDecimalDigit = true) :
    (∃ n, Text.readNumeral digits = .ok n) ↔ digits.length ≤ Text.numeralLimit := by
  have hall : digits.takeWhile Text.isDecimalDigit = digits :=
    List.takeWhile_eq_self_iff.mpr (List.all_eq_true.mp hd)
  unfold Text.readNumeral
  rw [hall]
  by_cases hl : Text.numeralLimit < digits.length
  · rw [if_pos hl]
    simp only [reduceCtorEq, exists_false, false_iff]
    omega
  · rw [if_neg hl, if_pos hd]
    simp only [Except.ok.injEq, exists_eq', true_iff]
    omega

theorem mapM_ok_iff {α β ε : Type} (f : α → Except ε β) (l : List α) :
    (∃ r, l.mapM f = .ok r) ↔ ∀ a ∈ l, ∃ b, f a = .ok b := by
  induction l with
  | nil => simp [pure, Except.pure]
  | cons a rest ih =>
    rw [List.mapM_cons, List.forall_mem_cons, ← ih]
    cases f a with
    | error e => simp [bind, Except.bind]
    | ok b => cases rest.mapM f <;> simp [bind, Except.bind, pure, Except.pure]

/-- **Exactly the readable texts have ordinals.** -/
theorem ordinals_ok_iff {text : String} : (∃ ns, ordinals text = .ok ns) ↔ Readable text := by
  have hmap : (∃ numbers, (digitRuns text).mapM Text.readNumeral = .ok numbers) ↔ Readable text := by
    rw [mapM_ok_iff]
    exact forall₂_congr fun digits hd => readNumeral_ok_iff (digitRuns_decimal hd)
  rw [← hmap]
  unfold ordinals
  cases (digitRuns text).mapM Text.readNumeral <;> simp

theorem brace_of_variable {cs digits : List Char} {skip : Nat}
    (h : Piece.variable digits ∈ piecesFrom skip cs) : '{' ∈ cs := by
  induction cs generalizing skip with
  | nil => simp [piecesFrom] at h
  | cons c rest ih =>
    cases skip with
    | succ skip =>
      rw [piecesFrom] at h
      exact List.mem_cons_of_mem c (ih h)
    | zero =>
      rw [piecesFrom] at h
      split at h
      · rename_i ds hds
        unfold digitsAtFront? at hds
        split at hds
        · rename_i tail heq
          cases heq
          exact List.mem_cons_self
        · cases hds
      · rcases List.mem_cons.mp h with hd | hd
        · cases hd
        · exact List.mem_cons_of_mem c (ih hd)

/-- A blank text has no variables. -/
theorem readable_of_blank {text : String} (h : Text.isBlankText text.toList = true) :
    Readable text := by
  intro digits hdigits
  obtain ⟨piece, hp, hd⟩ := List.mem_filterMap.mp hdigits
  rcases piece with c | ds
  · cases hd
  · have hblank := List.all_eq_true.mp h _ (brace_of_variable hp)
    exact absurd hblank (by decide)

end Variable

/-! ## Templates -/

namespace Template

/-- The header and the body text of the template are readable. -/
def Readable (t : Template) : Prop :=
  (∀ h ∈ t.header, Variable.Readable h.text) ∧ Variable.Readable t.body.text

instance (t : Template) : Decidable t.Readable :=
  inferInstanceAs (Decidable ((∀ h ∈ t.header, Variable.Readable h.text) ∧ _))

/-- The texts whose variables are asked for their numbers are readable: the body text, and the
text of a header that is shown, is of text and has one variable. -/
def Checkable (t : Template) : Prop :=
  (∀ h ∈ t.header, h.enabled = true → h.format? = some .text →
    (Variable.tokens h.text).length = 1 → Variable.Readable h.text) ∧
  Variable.Readable t.body.text

instance (t : Template) : Decidable t.Checkable :=
  inferInstanceAs (Decidable ((∀ h ∈ t.header, h.enabled = true → _) ∧ _))

theorem Readable.checkable {t : Template} (h : t.Readable) : t.Checkable :=
  ⟨fun header hd _ _ _ => h.1 header hd, h.2⟩

theorem variableFindings_ok_iff {h : Header} :
    (∃ fs, h.variableFindings = .ok fs) ↔
      ((Variable.tokens h.text).length = 1 → Variable.Readable h.text) := by
  unfold Header.variableFindings
  simp only
  by_cases hmany : maxHeaderVariables < (Variable.tokens h.text).length
  · have hone : (Variable.tokens h.text).length ≠ 1 := Nat.ne_of_gt hmany
    simp [hmany, hone]
  · have hfew : (Variable.tokens h.text).length ≤ 1 := Nat.not_lt.mp hmany
    by_cases hnone : (Variable.tokens h.text).length = 0
    · simp [hnone]
    · have hone : (Variable.tokens h.text).length = 1 := by omega
      rw [if_neg hmany, if_neg hnone, ← Variable.ordinals_ok_iff]
      cases Variable.ordinals h.text <;> simp [hone]

theorem textFindings_ok_iff {h : Header} :
    (∃ fs, h.textFindings = .ok fs) ↔
      ((Variable.tokens h.text).length = 1 → Variable.Readable h.text) := by
  rw [← variableFindings_ok_iff]
  unfold Header.textFindings
  by_cases hempty : h.text.isEmpty = true
  · have hvariables : h.variableFindings = .ok [] := by
      rw [String.isEmpty_iff] at hempty
      unfold Header.variableFindings
      rw [hempty]
      rfl
    simp [hempty, hvariables]
  · rw [if_neg hempty]
    cases h.variableFindings <;> simp

theorem headerFindings_ok_iff {header : Option Header} :
    (∃ fs, Header.findings header = .ok fs) ↔
      ∀ h ∈ header, h.enabled = true → h.format? = some .text →
        (Variable.tokens h.text).length = 1 → Variable.Readable h.text := by
  cases header with
  | none => exact ⟨fun _ => nofun, fun _ => ⟨[], rfl⟩⟩
  | some h =>
    simp only [Option.mem_some_iff, forall_eq', ← textFindings_ok_iff]
    unfold Header.findings
    simp only
    by_cases henabled : h.enabled = true
    · rw [if_pos henabled]
      unfold Header.shownFindings
      cases hformat : h.format? with
      | none => simp
      | some format => cases format <;> simp [henabled]
    · simp [henabled]

theorem bodyFindings_ok_iff {b : Body} :
    (∃ fs, b.findings = .ok fs) ↔ Variable.Readable b.text := by
  unfold Body.findings
  by_cases hblank : Text.isBlankText b.text.toList = true
  · simp [hblank, Variable.readable_of_blank hblank]
  · rw [if_neg hblank, ← Variable.ordinals_ok_iff]
    cases Variable.ordinals b.text <;> simp

theorem categoryFindings_of_readable {t : Template} (h : Variable.Readable t.body.text) :
    ∃ fs, t.categoryContentFindings = .ok fs := by
  obtain ⟨ns, hns⟩ := Variable.ordinals_ok_iff.mpr h
  unfold categoryContentFindings
  simp only [hns]
  split
  · exact ⟨_, rfl⟩
  · split <;> exact ⟨_, rfl⟩

theorem contentFindings_ok_iff {t : Template} :
    (∃ fs, t.contentFindings = .ok fs) ↔ t.Checkable := by
  rw [Checkable, ← headerFindings_ok_iff, ← bodyFindings_ok_iff]
  unfold contentFindings
  cases hheader : Header.findings t.header with
  | error e => simp
  | ok onHeader =>
    cases hbody : t.body.findings with
    | error e => simp
    | ok onBody =>
      obtain ⟨onCategory, hcategory⟩ :=
        categoryFindings_of_readable (bodyFindings_ok_iff.mp ⟨onBody, hbody⟩)
      simp [hcategory]

/-- **Exactly the checkable templates have a report in every step**, after whatever was found
before; in the steps of the details and of the buttons every template has one. -/
theorem reportAfter_ok_iff {t : Template} {before : List Issue} {s : Step} :
    (∃ r, t.reportAfter before s = .ok r) ↔ (s = .content ∨ s = .review → t.Checkable) := by
  have hfindings : (∃ r, t.reportAfter before s = .ok r) ↔ ∃ fs, t.findings s = .ok fs := by
    unfold reportAfter
    cases t.findings s <;> simp
  rw [hfindings, ← contentFindings_ok_iff]
  cases s with
  | details => simp [findings]
  | content => simp [findings]
  | buttons => simp [findings]
  | review =>
    unfold findings
    cases t.contentFindings <;> simp

/-- **A readable template has a report in every step.** -/
theorem report_of_readable {t : Template} (h : t.Readable) (s : Step) :
    ∃ r, t.report s = .ok r :=
  reportAfter_ok_iff.mpr fun _ => h.checkable

/-- A shown header text whose only variable is not readable leaves the content without a report. -/
theorem report_content_error {t : Template} {h : Header} (ht : t.header = some h)
    (hshown : h.enabled = true) (hformat : h.format? = some .text)
    (hone : (Variable.tokens h.text).length = 1) (hu : ¬ Variable.Readable h.text) :
    ∃ e, t.report .content = .error e := by
  cases hreport : t.report .content with
  | error e => exact ⟨e, rfl⟩
  | ok r =>
    have hcheckable := reportAfter_ok_iff.mp ⟨r, hreport⟩ (.inl rfl)
    exact absurd (hcheckable.1 h ht hshown hformat hone) hu

/-- A template that is valid in every step. -/
def orderUpdate : Template where
  name := "order_update"
  category := "UTILITY"
  language := "en"
  body := { text := "Your order has left our store." }

/-- A template whose header is a single variable of the digits. -/
def withHeaderVariable (digits : List Char) : Template :=
  { orderUpdate with
    header := some
      { enabled := true, format := "TEXT", text := String.ofList (Variable.token digits) } }

theorem report_details_withHeaderVariable (digits : List Char) :
    (withHeaderVariable digits).report .details = .ok ⟨true, [], []⟩ := by
  have hnone : nameFindings "order_update" ++ categoryFindings "UTILITY" ++
      languageFindings "en" = [] := by rfl
  have hfindings : (withHeaderVariable digits).detailFindings = [] := hnone
  unfold report reportAfter findings
  simp only [hfindings]
  rfl

theorem report_content_withHeaderVariable {digits : List Char}
    (hd : digits.all Text.isDecimalDigit = true) (hl : Text.numeralLimit < digits.length) :
    ∃ e, (withHeaderVariable digits).report .content = .error e := by
  have hne : digits ≠ [] := by
    rintro rfl
    cases hl
  have hruns := Variable.digitRuns_token hne hd
  refine report_content_error rfl rfl rfl ?_ ?_
  · unfold Variable.tokens
    rw [List.length_map, hruns]
    rfl
  · intro hreadable
    have := hreadable digits (by rw [hruns]; exact List.mem_singleton_self _)
    omega

end Template

end MessageTemplate
