import MessageTemplate.Proofs.Validation.Admissible
import MessageTemplate.Proofs.Service.Validation
import MessageTemplate.Proofs.Variable.Ordinals
import Mathlib.Data.List.Sort

/-!
# What the content step decides

* `Variable.Uses` — a variable of a text denotes a number;
* `Variable.ordinals_consecutive_iff` — ordinals without a gap are those of a text that uses the
  numbers from one up to some number;
* `Header.InOrder`, `Body.InOrder`, `Template.ContentInOrder` — what the platform asks of the parts
  of a message, in its own limits and words;
* `Template.content_decided` — the report in the content step is valid exactly if they are in order.
-/

set_option autoImplicit false

namespace MessageTemplate

/-! ## Numbers of variables -/

namespace Variable

/-- A variable of the text denotes the number. -/
def Uses (text : String) (n : Nat) : Prop := ∃ digits ∈ digitRuns text, Text.Denotes digits n

theorem mem_ordinals_iff {text : String} {ns : List Nat} {n : Nat} (h : ordinals text = .ok ns) :
    n ∈ ns ↔ Uses text n :=
  (ordinals_eq_ok h).2 n

/-- **The ordinals are 1, 2, …, k exactly if these are the numbers that the text uses**: they
ascend, so that no other list has the same members. -/
theorem ordinals_consecutive_iff {text : String} {ns : List Nat} (h : ordinals text = .ok ns)
    {k : Nat} : ns = List.range' 1 k ↔ ∀ n, Uses text n ↔ 1 ≤ n ∧ n ≤ k := by
  have hrange : ∀ n, n ∈ List.range' 1 k ↔ 1 ≤ n ∧ n ≤ k := by
    intro n
    rw [List.mem_range'_1]
    omega
  constructor
  · rintro rfl n
    rw [← mem_ordinals_iff h, hrange]
  · intro huses
    refine (ordinals_eq_ok h).1.eq_of_mem_iff List.pairwise_lt_range' fun n => ?_
    rw [mem_ordinals_iff h, huses, hrange]

/-- A text with one variable uses one number. -/
theorem Uses.unique {text : String} {n m : Nat} (hone : (tokens text).length = 1)
    (hn : Uses text n) (hm : Uses text m) : n = m := by
  rw [tokens, List.length_map, List.length_eq_one_iff] at hone
  obtain ⟨digits, hdigits⟩ := hone
  obtain ⟨ds, hds, hn⟩ := hn
  obtain ⟨ds', hds', hm⟩ := hm
  rw [hdigits, List.mem_singleton] at hds hds'
  subst hds hds'
  exact hn.unique hm

end Variable

/-! ## Parts in order -/

/-- A header that the platform takes: a short text without variables or with the first one and a
sample for it, or media from a secure address or none. -/
inductive Header.InOrder (h : Header) : Prop where
  | plain (format : h.format = "TEXT") (length : 1 ≤ h.text.length ∧ h.text.length ≤ 60)
      (tokens : Variable.tokens h.text = [])
  | sampled (format : h.format = "TEXT") (length : 1 ≤ h.text.length ∧ h.text.length ≤ 60)
      (tokens : (Variable.tokens h.text).length = 1 ∧ Variable.Uses h.text 1)
      (sample : ∃ s, h.sample = some s ∧ s ≠ "")
  | media (format : h.format ∈ ["IMAGE", "VIDEO", "DOCUMENT"])
      (address : ∀ url, h.mediaUrl = some url → url = "" ∨ "https://".toList <+: url.toList)

/-- A body that the platform takes: its variables use the numbers from one up to some number, and
there are as many samples. -/
structure Body.InOrder (b : Body) : Prop where
  notBlank : ∃ c ∈ b.text.toList, Text.isBlank c = false
  short : b.text.length ≤ 1024
  sampled : ∃ k, (∀ n, Variable.Uses b.text n ↔ 1 ≤ n ∧ n ≤ k) ∧ k ≤ b.samples.length

/-- Content that the platform takes. -/
structure Template.ContentInOrder (t : Template) : Prop where
  header : ∀ h, t.header = some h → h.enabled = true → h.InOrder
  body : t.body.InOrder
  footer : ∀ f, t.footer = some f → f.enabled = true →
    f.text.length ≤ 60 ∧ Variable.tokens f.text = []
  authentication : t.category = "AUTHENTICATION" →
    (∀ h, t.header = some h → h.enabled = false) ∧ Variable.Uses t.body.text 1

/-! ## What the rules accept -/

/-- A value is given if it is there and not empty. -/
theorem given?_eq_some_iff {value : Option String} {s : String} :
    given? value = some s ↔ value = some s ∧ s ≠ "" := by
  unfold given?
  rw [Option.filter_eq_some_iff]
  simp

theorem isSecureAddress_iff {url : String} :
    isSecureAddress url = true ↔ "https://".toList <+: url.toList := by
  rw [isSecureAddress, List.isPrefixOf_iff_prefix]

theorem Text.isBlankText_eq_false_iff {cs : List Char} :
    isBlankText cs = false ↔ ∃ c ∈ cs, isBlank c = false := by
  simp [isBlankText]

theorem Header.sampledOnce_iff {h : Header} (hr : Variable.Readable h.text) :
    h.SampledOnce ↔ ((Variable.tokens h.text).length = 1 ∧ Variable.Uses h.text 1) ∧
      ∃ s, h.sample = some s ∧ s ≠ "" := by
  obtain ⟨ns, hns⟩ := Variable.ordinals_ok_iff.mpr hr
  have hsample : (given? h.sample).isSome = true ↔ ∃ s, h.sample = some s ∧ s ≠ "" := by
    simp only [Option.isSome_iff_exists, given?_eq_some_iff]
  have hfirst : (Variable.tokens h.text).length = 1 →
      (Variable.ordinals h.text = .ok [1] ↔ Variable.Uses h.text 1) := by
    intro hone
    have hcount := Variable.ordinals_consecutive_iff hns (k := 1)
    rw [hns, Except.ok.injEq]
    refine hcount.trans ⟨fun huses => (huses 1).mpr ⟨le_rfl, le_rfl⟩, fun huse n => ?_⟩
    constructor
    · intro hn
      obtain rfl := hn.unique hone huse
      exact ⟨le_rfl, le_rfl⟩
    · rintro ⟨hlow, hhigh⟩
      obtain rfl := le_antisymm hhigh hlow
      exact huse
  unfold SampledOnce
  rw [hsample, and_assoc]
  exact and_congr_right fun hone => and_congr_left' (hfirst hone)

theorem Header.admissible_iff {h : Header} (hr : Variable.Readable h.text) :
    h.Admissible ↔ h.InOrder := by
  have hformat : ∀ f : HeaderFormat, h.format? = some f ↔ h.format = f.word :=
    fun _ => HeaderFormat.ofWord?_eq_some_iff
  have haddress : (∀ url ∈ given? h.mediaUrl, isSecureAddress url = true) ↔
      ∀ url, h.mediaUrl = some url → url = "" ∨ "https://".toList <+: url.toList := by
    simp only [Option.mem_def, given?_eq_some_iff, isSecureAddress_iff, and_imp, ne_eq,
      or_iff_not_imp_left]
  constructor
  · intro hadmissible
    unfold Admissible at hadmissible
    split at hadmissible
    · rename_i htext
      obtain ⟨hlow, hhigh, hplain | hsampled⟩ := hadmissible
      · exact .plain ((hformat .text).mp htext) ⟨hlow, hhigh⟩ hplain
      · obtain ⟨hone, hsample⟩ := (sampledOnce_iff hr).mp hsampled
        exact .sampled ((hformat .text).mp htext) ⟨hlow, hhigh⟩ hone hsample
    · rename_i f hmedia hf
      have hword : f.word ∈ ["IMAGE", "VIDEO", "DOCUMENT"] := by
        cases f with
        | text => exact (hmedia rfl).elim
        | _ => decide
      exact .media ((hformat f).mp hf ▸ hword) (haddress.mp hadmissible)
    · exact hadmissible.elim
  · have hmedium : h.format ∈ ["IMAGE", "VIDEO", "DOCUMENT"] →
        ∃ f, h.format? = some f ∧ f ≠ .text := by
      simp only [hformat, List.mem_cons, List.not_mem_nil, or_false]
      rintro (hword | hword | hword)
      · exact ⟨.image, hword, nofun⟩
      · exact ⟨.video, hword, nofun⟩
      · exact ⟨.document, hword, nofun⟩
    unfold Admissible
    rintro (⟨hword, ⟨hlow, hhigh⟩, hplain⟩ | ⟨hword, ⟨hlow, hhigh⟩, hone, hsample⟩ |
      ⟨hword, hurl⟩)
    · rw [(hformat .text).mpr hword]
      exact ⟨hlow, hhigh, .inl hplain⟩
    · rw [(hformat .text).mpr hword]
      exact ⟨hlow, hhigh, .inr ((sampledOnce_iff hr).mpr ⟨hone, hsample⟩)⟩
    · obtain ⟨f, hf, hmedia⟩ := hmedium hword
      rw [hf]
      cases f with
      | text => exact absurd rfl hmedia
      | _ => exact haddress.mpr hurl

theorem Body.admissible_iff {b : Body} (hr : Variable.Readable b.text) :
    b.Admissible ↔ b.InOrder := by
  obtain ⟨ns, hns⟩ := Variable.ordinals_ok_iff.mpr hr
  have hsampled : (∃ k, Variable.ordinals b.text = .ok (List.range' 1 k) ∧ k ≤ b.samples.length) ↔
      ∃ k, (∀ n, Variable.Uses b.text n ↔ 1 ≤ n ∧ n ≤ k) ∧ k ≤ b.samples.length := by
    simp only [hns, Except.ok.injEq, Variable.ordinals_consecutive_iff hns]
  constructor
  · intro h
    exact ⟨Text.isBlankText_eq_false_iff.mp h.notBlank, h.short, hsampled.mp h.sampled⟩
  · intro h
    exact ⟨Text.isBlankText_eq_false_iff.mpr h.notBlank, h.short, hsampled.mpr h.sampled⟩

namespace Template

theorem admissibleContent_iff {t : Template} (hr : t.Readable) :
    t.AdmissibleContent ↔ t.ContentInOrder := by
  obtain ⟨hheader, hbody⟩ := hr
  obtain ⟨ns, hns⟩ := Variable.ordinals_ok_iff.mpr hbody
  have hcode : (∃ ordinals, Variable.ordinals t.body.text = .ok ordinals ∧ 1 ∈ ordinals) ↔
      Variable.Uses t.body.text 1 := by
    simp [hns, Variable.mem_ordinals_iff hns]
  constructor
  · intro h
    refine ⟨fun header ht hshown => ?_, (Body.admissible_iff hbody).mp h.body, ?_, ?_⟩
    · exact (Header.admissible_iff (hheader header ht)).mp (h.header header ht hshown)
    · intro f ht hshown
      exact ⟨(h.footer f ht hshown).short, (h.footer f ht hshown).plain⟩
    · intro hcategory
      exact ⟨(h.authentication hcategory).1, hcode.mp (h.authentication hcategory).2⟩
  · intro h
    refine ⟨fun header ht hshown => ?_, (Body.admissible_iff hbody).mpr h.body, ?_, ?_⟩
    · exact (Header.admissible_iff (hheader header ht)).mpr (h.header header ht hshown)
    · intro f ht hshown
      exact ⟨(h.footer f ht hshown).1, (h.footer f ht hshown).2⟩
    · intro hcategory
      exact ⟨(h.authentication hcategory).1, hcode.mpr (h.authentication hcategory).2⟩

/-- **The content step decides whether the content is in order**: a template whose texts are
readable has a report in it, and this is valid exactly if the header, the body, the footer and what
the category asks of them are in order. -/
theorem content_decided (t : Template) (h : t.Readable) :
    ∃ r, t.validate (.ofNat Step.content.number) = .ok r ∧ (r.valid = true ↔ t.ContentInOrder) := by
  obtain ⟨r, hr⟩ := report_of_readable h .content
  refine ⟨r, by rw [validate_number, hr], ?_⟩
  rw [valid_iff_passes hr, findings, content_passes_iff, admissibleContent_iff h]

/-- A header variable in digits of another script and with a leading zero, a body whose variables
come in another order and more than once, and a footer that is off and holds a variable. -/
def seasonSale : Template where
  name := "season_sale"
  category := "MARKETING"
  language := "en"
  header := some
    { enabled := true, text := "\x7b\x7b\u0660\u0661\x7d\x7d off", sample := some "20%" }
  body :=
    { text := "\x7b\x7b2\x7d\x7d, \x7b\x7b1\x7d\x7d and \x7b\x7b2\x7d\x7d again",
      samples := ["shoes", "hats"] }
  footer := some { text := "\x7b\x7b1\x7d\x7d" }

theorem content_decided_seasonSale :
    seasonSale.validate (.ofNat Step.content.number) = .ok ⟨true, [], []⟩ ∧
      seasonSale.ContentInOrder := by
  have hvalid : seasonSale.validate (.ofNat Step.content.number) = .ok ⟨true, [], []⟩ := by
    decide +kernel
  obtain ⟨r, hr, hdecides⟩ := content_decided seasonSale (by decide +kernel)
  obtain rfl := Except.ok.inj (hvalid.symm.trans hr)
  exact ⟨hvalid, hdecides.mp rfl⟩

end Template

end MessageTemplate
