import MessageTemplate.Proofs.Component.WellFormed
import MessageTemplate.Proofs.Validation.Buttons
import MessageTemplate.Proofs.Variable.Appending

/-!
# How a valid template spells its numbers

The rules read numbers in digits of any script and with zeros before them; the platform gets the
texts as they are written.

* `Text.IsPlain` — ASCII digits without a leading zero;
* `Text.isPlain_iff` — these are the digits in which the library writes a number;
* `Variable.Canonical`, `Variable.canonical_iff` — the tokens of a text are those of 1, 2, …, k in
  plain digits, exactly if its digits are plain;
* `Data.Spelled`, `Template.sent_spelled` — what is sent for a valid template has canonical tokens
  and plain telephone numbers exactly where the digits of its texts are plain;
* `Template.spelled_otherwise` — they need not be.
-/

set_option autoImplicit false

namespace MessageTemplate

/-! ## Plain digits -/

namespace Text

/-- ASCII digits without a zero before them. -/
def IsPlain (digits : List Char) : Prop :=
  (∀ c ∈ digits, c.isDigit = true) ∧ digits.head? ≠ some '0'

-- The digits are looked at one by one: there are too many characters to try all of them.
instance (digits : List Char) : Decidable (IsPlain digits) :=
  decidable_of_iff (digits.all Char.isDigit = true ∧ digits.head? ≠ some '0')
    (and_congr_left' List.all_eq_true)

theorem digitChar_of_isDigit {c : Char} (h : c.isDigit = true) :
    c.toNat - '0'.toNat < 10 ∧ (c.toNat - '0'.toNat).digitChar = c := by
  have hcode : 48 ≤ c.toNat ∧ c.toNat ≤ 57 := Char.isDigit_iff_toNat.mp h
  have hvalue : c.toNat - '0'.toNat < 10 := by
    show c.toNat - 48 < 10
    omega
  refine ⟨hvalue, Char.toNat_inj.mp ?_⟩
  rw [Nat.toNat_digitChar_of_lt_ten hvalue]
  show 48 + (c.toNat - 48) = c.toNat
  omega

/-- Digits behind those of a positive number are the last ones of the number that they make. -/
theorem toDigits_append {cs : List Char} (hcs : ∀ c ∈ cs, c.isDigit = true) {n : Nat}
    (hn : 0 < n) : Nat.toDigits 10 n ++ cs = Nat.toDigits 10 (Nat.ofDigitChars 10 cs n) := by
  induction cs generalizing n with
  | nil => rw [List.append_nil, Nat.ofDigitChars_nil]
  | cons c cs ih =>
    obtain ⟨hc, hcs⟩ := List.forall_mem_cons.mp hcs
    obtain ⟨hvalue, hchar⟩ := digitChar_of_isDigit hc
    have hnext := Nat.toDigits_append_toDigits (by decide : 1 < 10) hn hvalue
    rw [Nat.toDigits_of_lt_base hvalue, hchar] at hnext
    rw [Nat.ofDigitChars_cons, ← ih hcs (by omega), ← hnext, List.append_assoc]
    rfl

/-- Plain digits are the ones that the library writes for their number. -/
theorem IsPlain.eq_toDigits {digits : List Char} {n : Nat} (h : IsPlain digits)
    (hne : digits ≠ []) (hn : Denotes digits n) : digits = Nat.toDigits 10 n := by
  obtain ⟨hdigits, hzero⟩ := h
  have hvalue : n = Nat.ofDigitChars 10 digits 0 := by
    rw [← digitsValue_of_isDigit hdigits]
    exact hn.unique (denotes_digitsValue hn.decimal)
  rw [hvalue]
  cases digits with
  | nil => exact absurd rfl hne
  | cons c cs =>
    obtain ⟨hc, hcs⟩ := List.forall_mem_cons.mp hdigits
    obtain ⟨hfirst, hchar⟩ := digitChar_of_isDigit hc
    have hpos : 0 < c.toNat - '0'.toNat := by
      refine Nat.pos_of_ne_zero fun h => hzero ?_
      rw [← hchar, h]
      rfl
    rw [Nat.ofDigitChars_cons, Nat.mul_zero, Nat.zero_add, ← toDigits_append hcs hpos,
      Nat.toDigits_of_lt_base hfirst, hchar]
    rfl

/-- The library writes no zero before a positive number. -/
theorem isPlain_toDigits {n : Nat} (hn : 0 < n) : IsPlain (Nat.toDigits 10 n) := by
  refine ⟨fun c hc => Nat.isDigit_of_mem_toDigits (by decide) (by decide) hc, ?_⟩
  induction n using Nat.base_induction 10 (by decide) with
  | single n hlt =>
    rw [Nat.toDigits_of_lt_base hlt, List.head?_cons, ne_eq, Option.some.injEq,
      Nat.digitChar_eq_zero]
    exact Nat.ne_of_gt hn
  | digit m d hd hm ih =>
    rw [← Nat.toDigits_append_toDigits (by decide) hm hd,
      List.head?_append_of_ne_nil _ Nat.toDigits_ne_nil]
    exact ih hm

/-- **Digits of a positive number are plain exactly if the library writes it with them.** -/
theorem isPlain_iff {digits : List Char} {n : Nat} (hne : digits ≠ []) (hpos : 0 < n)
    (hn : Denotes digits n) : digits = Nat.toDigits 10 n ↔ IsPlain digits := by
  refine ⟨?_, fun h => h.eq_toDigits hne hn⟩
  rintro rfl
  exact isPlain_toDigits hpos

end Text

/-! ## Tokens -/

namespace Variable

/-- The digits of all variables are plain. -/
def PlainDigits (text : String) : Prop := ∀ digits ∈ digitRuns text, Text.IsPlain digits

/-- The tokens of the text are those of 1, 2, …, k in plain digits. -/
def Canonical (text : String) (k : Nat) : Prop :=
  ∀ s, s ∈ tokens text ↔ ∃ n, 1 ≤ n ∧ n ≤ k ∧ s = plainToken n

/-- Variables that denote the same number are spelt the same. -/
def OneSpelling (text : String) : Prop :=
  ∀ digits ∈ digitRuns text, ∀ digits' ∈ digitRuns text, ∀ n,
    Text.Denotes digits n → Text.Denotes digits' n → digits = digits'

theorem ne_nil_of_mem_digitRuns {text : String} {digits : List Char}
    (h : digits ∈ digitRuns text) : digits ≠ [] := by
  obtain ⟨_, hstands⟩ := mem_digitRuns_iff.mp h
  exact hstands.nonempty

theorem exists_denotes {text : String} {digits : List Char} (h : digits ∈ digitRuns text) :
    ∃ n, Text.Denotes digits n :=
  ⟨_, Text.denotes_digitsValue (List.all_eq_true.mp (digitRuns_decimal h))⟩

theorem mem_tokens_iff {text s : String} :
    s ∈ tokens text ↔ ∃ digits ∈ digitRuns text, String.ofList (token digits) = s :=
  List.mem_map

theorem PlainDigits.oneSpelling {text : String} (h : PlainDigits text) : OneSpelling text := by
  intro digits hdigits digits' hdigits' n hn hn'
  calc digits = Nat.toDigits 10 n :=
        (h digits hdigits).eq_toDigits (ne_nil_of_mem_digitRuns hdigits) hn
    _ = digits' :=
        ((h digits' hdigits').eq_toDigits (ne_nil_of_mem_digitRuns hdigits') hn').symm

theorem token_inj {digits digits' : List Char} (h : token digits = token digits') :
    digits = digits' :=
  List.append_cancel_left (List.append_cancel_right h)

/-- A token is the plain one of its number exactly if its digits are plain. -/
theorem token_eq_plainToken_iff {text : String} {digits : List Char} {n : Nat}
    (h : digits ∈ digitRuns text) (hpos : 0 < n) (hn : Text.Denotes digits n) :
    String.ofList (token digits) = plainToken n ↔ Text.IsPlain digits := by
  rw [← Text.isPlain_iff (ne_nil_of_mem_digitRuns h) hpos hn]
  constructor
  · intro h
    exact token_inj (String.ofList_injective h)
  · intro h
    rw [plainToken, h]

/-- **The tokens of numbered variables are canonical exactly if their digits are plain.** -/
theorem canonical_iff {text : String} {k : Nat} (h : ordinals text = .ok (List.range' 1 k)) :
    Canonical text k ↔ PlainDigits text := by
  have huses := (ordinals_consecutive_iff h).mp rfl
  constructor
  · intro hcanonical digits hdigits
    obtain ⟨n, hpos, _, hn⟩ := (hcanonical _).mp (mem_tokens_iff.mpr ⟨digits, hdigits, rfl⟩)
    rw [token_inj (String.ofList_injective hn)]
    exact Text.isPlain_toDigits hpos
  · intro hplain s
    rw [mem_tokens_iff]
    constructor
    · rintro ⟨digits, hdigits, rfl⟩
      obtain ⟨n, hn⟩ := exists_denotes hdigits
      obtain ⟨hpos, hle⟩ := (huses n).mp ⟨digits, hdigits, hn⟩
      exact ⟨n, hpos, hle, (token_eq_plainToken_iff hdigits hpos hn).mpr (hplain digits hdigits)⟩
    · rintro ⟨n, hpos, hle, rfl⟩
      obtain ⟨digits, hdigits, hn⟩ := (huses n).mpr ⟨hpos, hle⟩
      exact ⟨digits, hdigits,
        (token_eq_plainToken_iff hdigits hpos hn).mpr (hplain digits hdigits)⟩

/-- Variables that all denote one are all the token of one exactly if their digits are plain. -/
theorem tokens_first_iff {text : String} (h : ∀ digits ∈ digitRuns text, Text.Denotes digits 1) :
    (∀ s ∈ tokens text, s = "{{1}}") ↔ PlainDigits text := by
  simp only [tokens, List.forall_mem_map]
  exact forall₂_congr fun digits hdigits =>
    token_eq_plainToken_iff hdigits Nat.one_pos (h digits hdigits)

end Variable

/-! ## Telephone numbers -/

/-- The number without white space, hyphens and parentheses. -/
def bareNumber (phone : String) : List Char :=
  phone.toList.filter fun c => !Text.isBlank c && c ∉ ['-', '(', ')']

/-- Without separators the number is a plus sign and ASCII digits. -/
def IsPlainNumber (phone : String) : Prop :=
  ∃ digits, bareNumber phone = '+' :: digits ∧ ∀ c ∈ digits, c.isDigit = true

/-- **An international number is plain exactly if it has no digits of another script.** -/
theorem IsInternational.plain_iff {phone : String} (h : IsInternational phone) :
    IsPlainNumber phone ↔
      ∀ c ∈ bareNumber phone, Text.isDecimalDigit c = true → c.isDigit = true := by
  constructor
  · rintro ⟨digits, hbare, hdigits⟩ c hc hdecimal
    rw [hbare] at hc
    rcases List.mem_cons.mp hc with rfl | hc
    · exact absurd hdecimal (by decide)
    · exact hdigits c hc
  · intro hplain
    obtain ⟨first, digits, hbare, hlow, hhigh, hdecimal, _⟩ := h
    have hbare : bareNumber phone = '+' :: first :: digits := hbare
    rw [hbare] at hplain
    refine ⟨first :: digits, hbare, List.forall_mem_cons.mpr ⟨?_, fun c hc => ?_⟩⟩
    · exact Char.isDigit_iff_toNat.mpr ⟨Nat.le_trans (by decide) hlow, hhigh⟩
    · exact hplain c (by simp [hc]) (hdecimal c hc)

/-! ## Components -/

/-- How a component spells the numbers in it: the variables of a body count from one up, and those
of a text header denote one, but their tokens are the plain ones only if all digits are plain. So it
is with the telephone numbers of buttons. -/
structure Data.Spelled (d : Data) : Prop where
  body : d.OfKind .body → ∃ text k, d.HasText text ∧
    Variable.ordinals text = .ok (List.range' 1 k) ∧
    (Variable.Canonical text k ↔ Variable.PlainDigits text) ∧
    (Variable.PlainDigits text → Variable.OneSpelling text)
  header : d.OfKind .header → d.get? "format" = some (.str "TEXT") → ∃ text, d.HasText text ∧
    (∀ digits ∈ Variable.digitRuns text, Text.Denotes digits 1) ∧
    ((∀ s ∈ Variable.tokens text, s = "{{1}}") ↔ Variable.PlainDigits text)
  phones : d.OfKind .buttons → ∀ entries, d.get? "buttons" = some (.list entries) →
    ∀ entry ∈ entries, ∀ v, entry.get? "phone_number" = some v →
      ∃ phone, v = .str phone ∧ IsInternational phone ∧
        (IsPlainNumber phone ↔
          ∀ c ∈ bareNumber phone, Text.isDecimalDigit c = true → c.isDigit = true)

theorem Header.spelled {h : Header} (hadmissible : h.Admissible) :
    (component .header (("format", .str h.format) :: h.content)).Spelled := by
  refine ⟨by simp, fun _ hformat => ?_, by simp⟩
  have hf : h.format? = some .text := HeaderFormat.ofWord?_eq_some_iff.mpr
    (Data.str.inj (Option.some.inj hformat))
  unfold Admissible at hadmissible
  rw [hf] at hadmissible
  have hfirst : ∀ digits ∈ Variable.digitRuns h.text, Text.Denotes digits 1 := by
    intro digits hdigits
    rcases hadmissible.2.2 with hnone | ⟨_, hordinals, _⟩
    · rw [List.map_eq_nil_iff.mp hnone] at hdigits
      cases hdigits
    · obtain ⟨n, hn⟩ := Variable.exists_denotes hdigits
      have hmem := (Variable.mem_ordinals_iff hordinals).mpr ⟨digits, hdigits, hn⟩
      rwa [List.mem_singleton.mp hmem] at hn
  refine ⟨h.text, ?_, hfirst, Variable.tokens_first_iff hfirst⟩
  show Members.get? h.members "text" = _
  simp [members, content, hf, Members.get?, List.lookup_cons]

theorem Body.spelled {b : Body} (hb : b.Admissible) : b.component.Spelled := by
  obtain ⟨k, hordinals, _⟩ := hb.sampled
  exact ⟨fun _ => ⟨b.text, k, rfl, hordinals, Variable.canonical_iff hordinals,
    Variable.PlainDigits.oneSpelling⟩, by simp [Body.component], by simp [Body.component]⟩

theorem Button.entry_phoneNumber {b : Button} {v : Data}
    (h : b.entry.get? "phone_number" = some v) :
    b.kind = some "PHONE_NUMBER" ∧ v = .ofText? b.phoneNumber := by
  have haction : Members.get? b.action "phone_number" = some v := h
  unfold action at haction
  split at haction
  · cases haction
  · rename_i hkind
    exact ⟨kind?_eq_some_iff.mp hkind, (Option.some.inj haction).symm⟩
  · split at haction <;> cases haction
  · cases haction

theorem ButtonSet.spelled {items : List Button} {category : String}
    (hitems : Admissible category items) :
    (component .buttons [("buttons", .list (items.map Button.entry))]).Spelled := by
  refine ⟨by simp, by simp, fun _ entries hentries entry hentry v hv => ?_⟩
  have hmap : .list (items.map Button.entry) = Data.list entries := Option.some.inj hentries
  obtain rfl := Data.list.inj hmap
  obtain ⟨b, hb, rfl⟩ := List.mem_map.mp hentry
  obtain ⟨hkind, rfl⟩ := Button.entry_phoneNumber hv
  obtain ⟨phone, hphone, hinternational⟩ :=
    (Button.admissible_iff.mp (hitems.each b hb)).phone hkind
  refine ⟨phone, ?_, hinternational, hinternational.plain_iff⟩
  rw [hphone]
  rfl

namespace Template

variable {t : Template}

/-- **What is sent for a valid template spells its numbers as its texts do.** The variables of the
body have the ordinals from one up, and their tokens are canonical exactly if their digits are
plain. So it is with the variable of a header, and with the telephone numbers of the buttons. -/
theorem sent_spelled (h : t.Valid) : ∀ d ∈ t.components, d.Spelled := by
  obtain ⟨_, hcontent, hbuttons⟩ := valid_review_iff.mp h
  refine forall_components (fun h hh hon => ?_) (Body.spelled hcontent.body)
    (fun f _ _ _ => ⟨by simp, by simp, by simp⟩) (fun set hset hon _ => ?_)
  · exact Header.spelled (hcontent.header h hh hon)
  · exact ButtonSet.spelled (hbuttons set hset hon ‹_›)

/-- The digits of the sale are plain, so that its tokens are those of one and two. -/
theorem sent_spelled_summerSale :
    summerSale.Valid ∧ Variable.PlainDigits summerSale.body.text ∧
      Variable.Canonical summerSale.body.text 2 := by
  have hvalid : summerSale.Valid := ⟨_, rfl, by decide +kernel⟩
  have hplain : Variable.PlainDigits summerSale.body.text := by
    unfold Variable.PlainDigits
    decide +kernel
  have hbody : summerSale.body.component ∈ summerSale.components := by simp [components]
  obtain ⟨text, k, htext, hordinals, hcanonical, _⟩ := (sent_spelled hvalid _ hbody).body rfl
  obtain rfl : summerSale.body.text = text := Data.str.inj (Option.some.inj htext)
  obtain rfl : k = 2 := by
    have htwo : Variable.ordinals summerSale.body.text = .ok (List.range' 1 2) := by
      decide +kernel
    simpa using congrArg List.length (Except.ok.inj (hordinals.symm.trans htwo))
  exact ⟨hvalid, hplain, hcanonical.mpr hplain⟩

/-- The header and the body spell one with a zero before it, the body also without, and the
telephone number has digits of another script. -/
def winterSale : Template where
  name := "winter_sale"
  language := "en"
  category := Category.utility.word
  header := some { enabled := true, text := "Hi {{01}}", sample := some "Ana" }
  body := ⟨"For {{1}}, and again for {{01}}.", ["Ana"]⟩
  buttons := some ⟨true, [
    { kind := some ButtonKind.phoneNumber.word, text := some "Call",
      phoneNumber := some "+1\u0662\u0663\u0664\u0665" }]⟩

/-- **A valid template need not spell its numbers plainly**, neither in the header nor in the body,
where one number may have two spellings, nor in a telephone number. -/
theorem spelled_otherwise : winterSale.Valid ∧
    (∃ d ∈ winterSale.components, d.OfKind .header ∧ d.get? "format" = some (.str "TEXT") ∧
      ∃ text, d.HasText text ∧ ∃ s ∈ Variable.tokens text, s ≠ "{{1}}") ∧
    (∃ d ∈ winterSale.components, d.OfKind .body ∧
      ∃ text, d.HasText text ∧ ∀ k, ¬Variable.Canonical text k) ∧
    ∃ d ∈ winterSale.components, ∃ entries, d.get? "buttons" = some (.list entries) ∧
      ∃ entry ∈ entries, ∃ phone, entry.get? "phone_number" = some (.str phone) ∧
        ¬IsPlainNumber phone := by
  have hcomponents : winterSale.components.length = 3 := by decide
  refine ⟨⟨_, rfl, by decide +kernel⟩, ?header, ?body, ?phone⟩
  case header =>
    exact ⟨winterSale.components[0], List.getElem_mem _, rfl, rfl, _, rfl, "{{01}}",
      by decide +kernel, by decide⟩
  case body =>
    refine ⟨winterSale.components[1], List.getElem_mem _, rfl, _, rfl, fun k hcanonical => ?_⟩
    have hmem : "{{01}}" ∈ Variable.tokens winterSale.body.text := by decide +kernel
    obtain ⟨n, hpos, _, hn⟩ := (hcanonical _).mp hmem
    have hdigits : ['0', '1'] = Nat.toDigits 10 n :=
      Variable.token_inj (String.ofList_injective hn)
    have hplain := Text.isPlain_toDigits hpos
    rw [← hdigits] at hplain
    exact hplain.2 rfl
  case phone =>
    refine ⟨winterSale.components[2], List.getElem_mem _, _, rfl, _, List.mem_cons_self, _, rfl, ?_⟩
    rintro ⟨digits, hbare, hplain⟩
    have hdigits : digits = ['1', '\u0662', '\u0663', '\u0664', '\u0665'] := by
      have hnumber : bareNumber "+1\u0662\u0663\u0664\u0665" =
          ['+', '1', '\u0662', '\u0663', '\u0664', '\u0665'] := by decide +kernel
      exact (List.cons.inj (hbare.symm.trans hnumber)).2
    rw [hdigits] at hplain
    exact absurd (hplain '\u0662' (by decide)) (by decide)

end Template

end MessageTemplate
