import MessageTemplate.Proofs.Validation.Addressed
import MessageTemplate.Proofs.Validation.Content
import MessageTemplate.Proofs.Variable.Appending

/-!
# Gaps in the numbers of a body text

* `Variable.firstGap_eq_some_iff` — which number is named as missing from ascending ordinals;
* `Body.gapError`, `Body.gapError_inj` — the error about a gap, which tells the missing number and
  the numbers that were found;
* `Report.OnContent`, `gapError_mem_iff` — a report in the content step has this error exactly for
  the gap and the ordinals of the body text;
* `Variable.gap_named` — when the named number is the least one that is missing.

Numbers are counted from one, but a variable may have the number zero. In front of the others it
takes the place of the first, which is then named as missing even if it is there.
-/

set_option autoImplicit false

namespace MessageTemplate

/-! ## The gap of ascending ordinals -/

namespace Variable

/-- The least positive number that no variable of the text denotes. -/
structure IsLeastMissing (text : String) (n : Nat) : Prop where
  positive : 1 ≤ n
  missing : ¬Uses text n
  least : ∀ m, 1 ≤ m → m < n → Uses text m

/-- From the first number on, a gap is the least number that ascending ordinals leave out. -/
theorem gapFrom_least {first gap : Nat} {ns : List Nat} (hascending : ns.Pairwise (· < ·))
    (hfrom : ∀ n ∈ ns, first ≤ n) (h : gapFrom first (ns.map Int.ofNat) = some gap) :
    first ≤ gap ∧ gap ∉ ns ∧ ∀ m, first ≤ m → m < gap → m ∈ ns := by
  induction ns generalizing first with
  | nil => cases h
  | cons n rest ih =>
    obtain ⟨hbehind, hrest⟩ := List.pairwise_cons.mp hascending
    have hn : first ≤ n := hfrom n List.mem_cons_self
    rw [List.map_cons, gapFrom] at h
    split at h
    · rename_i heq
      obtain rfl : n = first := Int.ofNat.inj heq
      obtain ⟨hle, hnot, hleast⟩ := ih hrest (fun m hm => hbehind m hm) h
      refine ⟨by omega, ?_, fun m hlow hhigh => ?_⟩
      · rw [List.mem_cons]
        rintro (rfl | hmem)
        · omega
        · exact hnot hmem
      · rcases Nat.eq_or_lt_of_le hlow with rfl | hlt
        · exact List.mem_cons_self
        · exact List.mem_cons_of_mem _ (hleast m hlt hhigh)
    · rename_i hne
      obtain rfl := Option.some.inj h
      have hlt : first < n := lt_of_le_of_ne hn fun heq => hne (congrArg Int.ofNat heq.symm)
      refine ⟨le_rfl, ?_, fun m hlow hhigh => by omega⟩
      rw [List.mem_cons]
      rintro (rfl | hmem)
      · exact lt_irrefl _ hlt
      · exact absurd (hbehind _ hmem) (by omega)

/-- A zero stands first, in the place of the one. -/
theorem firstGap_of_zero {ns : List Nat} (hascending : ns.Pairwise (· < ·)) (hzero : 0 ∈ ns) :
    firstGap (ns.map Int.ofNat) = some 1 := by
  cases ns with
  | nil => cases hzero
  | cons n rest =>
    have hn : n = 0 := by
      rcases List.mem_cons.mp hzero with h | h
      · exact h.symm
      · exact absurd ((List.pairwise_cons.mp hascending).1 0 h) (Nat.not_lt_zero n)
    subst hn
    rfl

/-- **The gap of ascending ordinals** is one if there is a zero among them, and otherwise the least
positive number that they leave out. -/
theorem firstGap_eq_some {ns : List Nat} (hascending : ns.Pairwise (· < ·)) {gap : Nat}
    (h : firstGap (ns.map Int.ofNat) = some gap) :
    (0 ∈ ns → gap = 1) ∧
      (0 ∉ ns → 1 ≤ gap ∧ gap ∉ ns ∧ ∀ m, 1 ≤ m → m < gap → m ∈ ns) := by
  constructor
  · intro hzero
    rw [firstGap_of_zero hascending hzero] at h
    exact (Option.some.inj h).symm
  · intro hzero
    have hfrom : ∀ n ∈ ns, 1 ≤ n := by
      intro n hn
      exact Nat.one_le_iff_ne_zero.mpr fun h0 => hzero (h0 ▸ hn)
    exact gapFrom_least hascending hfrom h

section Text

variable {text : String} {ns : List Nat}

/-- There is no gap exactly if the text uses the numbers from one up to some number. -/
theorem firstGap_eq_none_iff (h : ordinals text = .ok ns) :
    firstGap (ns.map Int.ofNat) = none ↔ ∃ k, ∀ n, Uses text n ↔ 1 ≤ n ∧ n ≤ k := by
  simp only [← ordinals_consecutive_iff h]
  refine gapFrom_eq_none_iff.trans ⟨fun hrange => ⟨_, hrange⟩, ?_⟩
  rintro ⟨k, rfl⟩
  rw [List.length_range']

/-- The named number is used exactly if the zero and the one are. -/
theorem uses_gap_iff (h : ordinals text = .ok ns) {gap : Nat}
    (hgap : firstGap (ns.map Int.ofNat) = some gap) :
    Uses text gap ↔ Uses text 0 ∧ Uses text 1 := by
  obtain ⟨hzero, hnonzero⟩ := firstGap_eq_some (ordinals_eq_ok h).1 hgap
  simp only [← mem_ordinals_iff h]
  constructor
  · intro hmem
    have h0 : 0 ∈ ns := by
      by_contra h0
      exact (hnonzero h0).2.1 hmem
    obtain rfl := hzero h0
    exact ⟨h0, hmem⟩
  · rintro ⟨h0, h1⟩
    obtain rfl := hzero h0
    exact h1

/-- **The named number is the least missing one** unless both the zero and the one are used. -/
theorem isLeastMissing_gap_iff (h : ordinals text = .ok ns) {gap : Nat}
    (hgap : firstGap (ns.map Int.ofNat) = some gap) :
    IsLeastMissing text gap ↔ ¬(Uses text 0 ∧ Uses text 1) := by
  have huses := uses_gap_iff h hgap
  refine ⟨fun hleast hboth => hleast.missing (huses.mpr hboth), fun hnot => ?_⟩
  obtain ⟨hzero, hnonzero⟩ := firstGap_eq_some (ordinals_eq_ok h).1 hgap
  by_cases h0 : 0 ∈ ns
  · obtain rfl := hzero h0
    exact ⟨le_rfl, mt huses.mp hnot, fun m hlow hhigh => by omega⟩
  · obtain ⟨hpos, _, hleast⟩ := hnonzero h0
    refine ⟨hpos, mt huses.mp hnot, fun m hlow hhigh => ?_⟩
    exact (mem_ordinals_iff h).mp (hleast m hlow hhigh)

end Text

end Variable

/-! ## The error about a gap -/

namespace Variable

theorem digitRuns_of_no_brace {text : String} (h : '{' ∉ text.toList) : digitRuns text = [] := by
  refine List.filterMap_eq_nil_iff.mpr fun piece hpiece => ?_
  rcases piece with c | digits
  · rfl
  · exact absurd (brace_of_variable hpiece) h

/-- A token in plain digits is a variable between those before and behind it. -/
theorem digitRuns_around (before : String) (n : Nat) (behind : String) :
    digitRuns (before ++ plainToken n ++ behind) =
      digitRuns before ++ Nat.toDigits 10 n :: digitRuns behind := by
  have hpieces := piecesFrom_append_token Nat.toDigits_ne_nil (Text.toDigits_decimal n)
    (Nat.zero_le before.toList.length) behind.toList
  unfold digitRuns pieces plainToken
  rw [String.toList_append, String.toList_append, String.toList_ofList, List.append_assoc, hpieces,
    List.filterMap_append]
  rfl

/-- Enumerated tokens are the variables of the enumeration, behind words without variables. -/
theorem digitRuns_enumerate {words : String} (h : '{' ∉ words.toList) (ns : List Nat) :
    digitRuns (words ++ enumerate (ns.map plainToken) ++ ")") = ns.map (Nat.toDigits 10) := by
  induction ns generalizing words with
  | nil =>
    refine digitRuns_of_no_brace ?_
    simpa [enumerate] using h
  | cons n rest ih =>
    cases rest with
    | nil =>
      have hsingle : enumerate ([n].map plainToken) = plainToken n := String.intercalate_singleton
      rw [hsingle, digitRuns_around, digitRuns_of_no_brace h, digitRuns_of_no_brace (by decide)]
      rfl
    | cons m rest =>
      have hcons : words ++ enumerate ((n :: m :: rest).map plainToken) ++ ")" =
          words ++ plainToken n ++ (", " ++ enumerate ((m :: rest).map plainToken) ++ ")") := by
        simp only [enumerate, List.map_cons, String.intercalate_cons_cons, String.append_assoc]
      rw [hcons, digitRuns_around, digitRuns_of_no_brace h, ih (by decide)]
      rfl

end Variable

namespace Body

/-- The error that names one number as missing and tells the others as found. -/
def gapError (missing : Nat) (found : List Nat) : Issue :=
  ⟨"body.text", "Variables must be sequential starting from " ++ Variable.plainToken 1 ++ ": " ++
    Variable.plainToken missing ++ " is missing (found " ++
    enumerate (found.map Variable.plainToken) ++ ")"⟩

theorem digitRuns_gapError (missing : Nat) (found : List Nat) :
    Variable.digitRuns (gapError missing found).message =
      (1 :: missing :: found).map (Nat.toDigits 10) := by
  have hwords : (gapError missing found).message =
      "Variables must be sequential starting from " ++ Variable.plainToken 1 ++
        (": " ++ Variable.plainToken missing ++
          (" is missing (found " ++ enumerate (found.map Variable.plainToken) ++ ")")) := by
    simp only [gapError, String.append_assoc]
  rw [hwords, Variable.digitRuns_around, Variable.digitRuns_around,
    Variable.digitRuns_enumerate (by decide), Variable.digitRuns_of_no_brace (by decide),
    Variable.digitRuns_of_no_brace (by decide)]
  rfl

/-- The error tells which number is missing and which were found. -/
theorem gapError_inj {missing missing' : Nat} {found found' : List Nat} :
    gapError missing found = gapError missing' found' ↔ missing = missing' ∧ found = found' := by
  constructor
  · intro h
    have hruns := digitRuns_gapError missing found
    rw [h, digitRuns_gapError] at hruns
    have hdigits : Function.Injective (Nat.toDigits 10) :=
      Function.LeftInverse.injective fun n => Nat.ofDigitChars_ten_toDigits
    have hnumbers := List.map_injective_iff.mpr hdigits hruns
    simpa [eq_comm] using hnumbers
  · rintro ⟨rfl, rfl⟩
    rfl

theorem sequenceFindings_eq (ns : List Nat) : sequenceFindings ns =
    ((Variable.firstGap (ns.map Int.ofNat)).map fun gap => ⟨.error, gapError gap ns⟩).toList := by
  unfold sequenceFindings
  cases Variable.firstGap (ns.map Int.ofNat) <;> rfl

end Body

/-! ## Reports in the content step -/

namespace Finding

/-- None of the findings looks like the error about a gap: on the body text, and with this first
letter. -/
def OffGap (findings : List Finding) : Prop :=
  ∀ f ∈ findings, f.issue.field = "body.text" → f.issue.message.toList.head? ≠ some 'V'

variable {fs gs : List Finding} {field message : String} {condition : Bool}

@[simp] theorem offGap_nil : OffGap [] := List.forall_mem_nil _

@[simp] theorem offGap_append : OffGap (fs ++ gs) ↔ OffGap fs ∧ OffGap gs := List.forall_mem_append

@[simp] theorem offGap_error : OffGap [error field message] ↔
    (field = "body.text" → message.toList.head? ≠ some 'V') := by simp [OffGap, error]

@[simp] theorem offGap_warning : OffGap [warning field message] ↔
    (field = "body.text" → message.toList.head? ≠ some 'V') := by simp [OffGap, warning]

theorem OffGap.onlyIf (h : OffGap fs) : OffGap (onlyIf condition fs) :=
  fun f hf => h f (mem_of_mem_onlyIf hf)

theorem OffGap.of_within {fields : List String} (h : Within fields fs)
    (hfields : "body.text" ∉ fields := by decide) : OffGap fs :=
  fun f hf hfield => absurd (hfield ▸ h f hf) hfields

theorem OffGap.not_mem (h : OffGap fs) {severity : Severity} {missing : Nat} {found : List Nat} :
    ⟨severity, Body.gapError missing found⟩ ∉ fs := by
  intro hmem
  refine h _ hmem rfl ?_
  simp [Body.gapError]

end Finding

open Finding

theorem Template.offGap_category {t : Template} {fs : List Finding}
    (h : t.categoryContentFindings = .ok fs) : OffGap fs := by
  have hwords : ∀ (c : Category) (more : String),
      (c.title ++ more).toList.head? ≠ some 'V' := by
    intro c more
    cases c <;> simp [Category.title]
  unfold categoryContentFindings at h
  split at h
  · cases h
    exact offGap_nil
  · simp only at h
    split at h
    · cases h
      exact OffGap.onlyIf (by simp)
    · split at h
      · cases h
      · cases h
        refine offGap_append.mpr ⟨OffGap.onlyIf (by simp), OffGap.onlyIf ?_⟩
        rw [String.append_assoc, String.append_assoc]
        exact offGap_error.mpr fun _ => hwords _ _

/-- Among the findings on a body is the error about the gap of its ordinals, and no other. -/
theorem Body.gapError_mem_findings_iff {b : Body} {fs : List Finding} (h : b.findings = .ok fs)
    {ns : List Nat} (hns : Variable.ordinals b.text = .ok ns) {missing : Nat} {found : List Nat} :
    ⟨.error, gapError missing found⟩ ∈ fs ↔
      found = ns ∧ Variable.firstGap (ns.map Int.ofNat) = some missing := by
  unfold findings at h
  split at h
  · rename_i hblank
    cases h
    -- A blank text has no variables, and so no gap.
    have hnone : Variable.tokens b.text = [] := by
      rw [Variable.tokens, List.map_eq_nil_iff]
      refine Variable.digitRuns_of_no_brace fun hbrace => ?_
      exact absurd (List.all_eq_true.mp hblank _ hbrace) (by decide)
    obtain rfl := (Variable.ordinals_eq_nil_iff hns).mpr hnone
    constructor
    · intro hmem
      exact absurd hmem (OffGap.not_mem (by simp))
    · rintro ⟨_, hgap⟩
      cases hgap
  · rw [hns] at h
    cases h
    -- What comes before and behind the finding on the sequence looks different.
    have hbehind : ∀ {fs gs : List Finding}, OffGap gs →
        (⟨.error, gapError missing found⟩ ∈ fs ++ gs ↔ ⟨.error, gapError missing found⟩ ∈ fs) := by
      intro fs gs hgs
      rw [List.mem_append, or_iff_left hgs.not_mem]
    have hsamples : OffGap (sampleFindings ns.length b.samples.length) := OffGap.onlyIf (by simp)
    have hlength : OffGap (onlyIf (maxBodyLength < b.text.length)
        [.error "body.text" ("Body exceeds " ++ toString maxBodyLength ++ " characters")]) :=
      OffGap.onlyIf (by simp)
    refine Iff.trans (hbehind ?_) ((hbehind hsamples).trans ?_)
    · simp only [discouraged, List.flatMap_cons, List.flatMap_nil, offGap_append]
      exact ⟨OffGap.onlyIf (by simp), OffGap.onlyIf (by simp), OffGap.onlyIf (by simp), offGap_nil⟩
    · rw [List.mem_append, or_iff_right hlength.not_mem, sequenceFindings_eq]
      simp only [Option.mem_toList, Option.map_eq_some_iff, Finding.mk.injEq, true_and,
        gapError_inj]
      constructor
      · rintro ⟨gap, hgap, rfl, rfl⟩
        exact ⟨rfl, hgap⟩
      · rintro ⟨rfl, hgap⟩
        exact ⟨missing, hgap, rfl, rfl⟩

theorem Report.mem_issues_iff {severity : Severity} {fs : List Finding} {i : Issue} :
    i ∈ issues severity fs ↔ ⟨severity, i⟩ ∈ fs := by
  unfold issues issueOf?
  rw [List.mem_filterMap]
  constructor
  · rintro ⟨f, hf, hi⟩
    split at hi
    · rename_i hseverity
      cases hi
      exact hseverity ▸ hf
    · cases hi
  · intro hf
    exact ⟨_, hf, if_pos rfl⟩

/-- After issues that say something else, a report in the content step has the error about the gap
in the body text, and no other. -/
theorem Template.gapError_mem_iff {t : Template} {before : List Issue} {r : Report}
    (hbefore : ∀ i ∈ before, i.message.toList.head? ≠ some 'V')
    (h : t.reportAfter before .content = .ok r) {ns : List Nat}
    (hns : Variable.ordinals t.body.text = .ok ns) {missing : Nat} {found : List Nat} :
    Body.gapError missing found ∈ r.errors ↔
      found = ns ∧ Variable.firstGap (ns.map Int.ofNat) = some missing := by
  have hother : Body.gapError missing found ∉ before := fun hmem =>
    hbefore _ hmem (by simp [Body.gapError])
  unfold reportAfter findings at h
  cases hcontent : t.contentFindings with
  | error e =>
    rw [hcontent] at h
    cases h
  | ok fs =>
    obtain ⟨onHeader, onBody, onCategory, hheader, hbody, hcategory, rfl⟩ :=
      contentFindings_eq_ok hcontent
    rw [hcontent] at h
    cases h
    rw [Report.errors_ofFindings, List.mem_append, or_iff_right hother, Report.mem_issues_iff,
      ← Body.gapError_mem_findings_iff hbody hns]
    have hoffHeader := OffGap.of_within (Header.within_findings hheader)
    have hoffFooter := OffGap.of_within (Footer.within_findings t.footer)
    simp only [List.mem_append, hoffHeader.not_mem, hoffFooter.not_mem,
      (offGap_category hcategory).not_mem, false_or, or_false]

/-! ## What is read first -/

theorem head_append {a b : String} {c : Char} (h : a.toList.head? = some c) :
    (a ++ b).toList.head? = some c := by
  rw [String.toList_append, List.head?_append, h]
  rfl

theorem Mismatch.head_message (m : Mismatch) : m.message.toList.head? ≠ some 'V' := by
  have hwords : ∀ {a : String}, a.toList.head? = some 'I' ∨ a.toList.head? = some 'U' →
      ∀ b, (a ++ b).toList.head? ≠ some 'V' := by
    rintro a (h | h) b
    · rw [head_append h]
      decide
    · rw [head_append h]
      decide
  cases m with
  | belowMinimum bound => exact hwords (.inl (by decide)) _
  | noPart part => exact hwords (.inl (by decide)) _
  | otherWord admitted => exact hwords (.inl (by decide)) _
  | noTag member => exact hwords (.inr (head_append (by decide))) _
  | otherTag member given admitted =>
    exact hwords (.inl (head_append (head_append (head_append (head_append (by decide)))))) _
  | _ => exact ne_of_beq_false (by decide +kernel)

/-- What repeated reading reports are faults. -/
theorem Template.exists_fault_of_mem_readRepeatedly {n : Nat} {d : Data} {i : Issue}
    (h : i ∈ (readRepeatedly n d).2) : ∃ f : Fault, f.toIssue = i := by
  induction n generalizing d with
  | zero => cases h
  | succ n ih =>
    rw [readRepeatedly] at h
    cases hread : Template.read d with
    | value t =>
      rw [hread] at h
      cases h
    | faulty faults =>
      rw [hread] at h
      simp only at h
      split at h
      · rcases List.mem_append.mp h with hfirst | hlater
        · obtain ⟨f, _, rfl⟩ := List.mem_map.mp hfirst
          exact ⟨f, rfl⟩
        · exact ih hlater
      · obtain ⟨f, _, rfl⟩ := List.mem_map.mp h
        exact ⟨f, rfl⟩

theorem Template.head_of_mem_recover {d : Data} {t? : Option Template} {issues : List Issue}
    (h : recover d = .ok (t?, issues)) {i : Issue} (hi : i ∈ issues) :
    i.message.toList.head? ≠ some 'V' := by
  rcases Data.recover_cases d with ⟨_, _, _, hdeep⟩ | ⟨_, hrecover⟩
  · rw [hdeep] at h
    cases h
  · rw [hrecover] at h
    cases d with
    | object ms =>
      have hissues : (readRepeatedly readingAttempts (.object ms)).2 = issues :=
        congrArg Prod.snd (Except.ok.inj h)
      obtain ⟨f, rfl⟩ := exists_fault_of_mem_readRepeatedly (hissues ▸ hi)
      exact Mismatch.head_message f.mismatch
    | _ =>
      cases h
      obtain rfl := List.mem_singleton.mp hi
      decide

/-- A report in the content step on a body text: on a template that has it, or on a value of which
lenient reading makes such a template. -/
inductive Report.OnContent (text : String) (r : Report) : Prop where
  | template (t : Template) (hreport : t.validate (.ofNat Step.content.number) = .ok r)
      (htext : t.body.text = text)
  | value (d : Data) (t : Template) (issues : List Issue)
      (hread : Template.recover d = .ok (some t, issues))
      (hreport : d.validate (.ofNat Step.content.number) = .ok r) (htext : t.body.text = text)

theorem Report.OnContent.gapError_mem_iff {text : String} {r : Report} (h : r.OnContent text)
    {ns : List Nat} (hns : Variable.ordinals text = .ok ns) {missing : Nat} {found : List Nat} :
    Body.gapError missing found ∈ r.errors ↔
      found = ns ∧ Variable.firstGap (ns.map Int.ofNat) = some missing := by
  cases h with
  | template t hreport htext =>
    subst htext
    rw [Template.validate_number] at hreport
    exact Template.gapError_mem_iff (List.forall_mem_nil _) hreport hns
  | value d t issues hread hreport htext =>
    subst htext
    rw [Data.validate_number, Data.report, hread] at hreport
    refine Template.gapError_mem_iff (fun i hi => ?_) hreport hns
    exact Template.head_of_mem_recover hread (List.mem_of_mem_filter hi)

/-! ## The number that is named -/

namespace Variable

/-- **The number that is named as missing.** A text without overlong variables has ordinals. They
have no gap exactly if they are the numbers from one up to some number. Otherwise the least missing
number is named, unless the zero and the one are both used: then the one is named. A report in the
content step has the error about this gap, which lists the ordinals as found and so names one of
them exactly if the zero and the one are used. -/
theorem gap_named (text : String) (h : Readable text) :
    ∃ ns, ordinals text = .ok ns ∧ (∀ n, n ∈ ns ↔ Uses text n) ∧
      (firstGap (ns.map Int.ofNat) = none ↔ ∃ k, ∀ n, Uses text n ↔ 1 ≤ n ∧ n ≤ k) ∧
      (∀ gap, firstGap (ns.map Int.ofNat) = some gap →
        (IsLeastMissing text gap ↔ ¬(Uses text 0 ∧ Uses text 1)) ∧
        (Uses text 0 ∧ Uses text 1 → gap = 1)) ∧
      ∀ r, Report.OnContent text r → ∀ missing found,
        (Body.gapError missing found ∈ r.errors ↔
          found = ns ∧ firstGap (ns.map Int.ofNat) = some missing) ∧
        (Body.gapError missing found ∈ r.errors →
          (missing ∈ found ↔ Uses text 0 ∧ Uses text 1)) := by
  obtain ⟨ns, hns⟩ := ordinals_ok_iff.mpr h
  refine ⟨ns, hns, fun n => mem_ordinals_iff hns, firstGap_eq_none_iff hns, ?_, ?_⟩
  · intro gap hgap
    refine ⟨isLeastMissing_gap_iff hns hgap, fun hboth => ?_⟩
    exact (firstGap_eq_some (ordinals_eq_ok hns).1 hgap).1 ((mem_ordinals_iff hns).mpr hboth.1)
  · intro r hr missing found
    refine ⟨hr.gapError_mem_iff hns, fun hmem => ?_⟩
    obtain ⟨rfl, hgap⟩ := (hr.gapError_mem_iff hns).mp hmem
    rw [mem_ordinals_iff hns, uses_gap_iff hns hgap]

/-- An order of which the numbers two and four are left out. -/
def partsList : Data :=
  .object [("name", .str "parts_list"), ("language", .str "en"), ("category", .str "UTILITY"),
    ("body", .object [("text", .str "Parts {{5}}, {{1}}, {{3}}"),
      ("examples", .list [.str "A", .str "B", .str "C"])])]

theorem gap_named_partsList :
    ∃ r, partsList.validate (.ofNat Step.content.number) = .ok r ∧
      Body.gapError 2 [1, 3, 5] ∈ r.errors ∧
      IsLeastMissing "Parts {{5}}, {{1}}, {{3}}" 2 := by
  have hrun : partsList.validate (.ofNat Step.content.number) =
      .ok ⟨false, [Body.gapError 2 [1, 3, 5]], []⟩ := by decide +kernel
  have hordinals : ordinals "Parts {{5}}, {{1}}, {{3}}" = .ok [1, 3, 5] := by
    decide +kernel
  obtain ⟨ns, hns, huses, _, hgap, _⟩ :=
    gap_named "Parts {{5}}, {{1}}, {{3}}" (by decide +kernel)
  obtain rfl := Except.ok.inj (hordinals.symm.trans hns)
  refine ⟨_, hrun, List.mem_singleton_self _, (hgap 2 (by decide)).1.mpr ?_⟩
  rintro ⟨hzero, _⟩
  exact absurd ((huses 0).mpr hzero) (by decide)

/-- A body that counts from zero, with a sample for each variable. -/
def countedFromZero : Template where
  name := "order_update"
  language := "en"
  category := "UTILITY"
  body := { text := "{{0}} {{1}}", samples := ["a", "b"] }

/-- Of a body that counts from zero, the one is named as missing and listed as found. The number
that is missing is the two. -/
theorem one_missing_and_found :
    Readable countedFromZero.body.text ∧
    ordinals countedFromZero.body.text = .ok [0, 1] ∧
    firstGap ([0, 1].map Int.ofNat) = some 1 ∧
    IsLeastMissing countedFromZero.body.text 2 ∧
    countedFromZero.validate (.ofNat Step.content.number) =
      .ok ⟨false, [Body.gapError 1 [0, 1]], []⟩ := by
  have hns : ordinals countedFromZero.body.text = .ok [0, 1] := by decide +kernel
  have huses : ∀ n, Uses countedFromZero.body.text n ↔ n ∈ [0, 1] :=
    fun n => (mem_ordinals_iff hns).symm
  refine ⟨by decide +kernel, hns, by decide, ⟨by decide, ?_, fun m hlow hhigh => ?_⟩,
    by decide +kernel⟩
  · rw [huses]
    decide
  · rw [huses]
    simp
    omega

end Variable

end MessageTemplate
