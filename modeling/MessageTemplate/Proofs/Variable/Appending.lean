import MessageTemplate.Edit
import MessageTemplate.Proofs.Variable.Occurrences

/-!
# The next variable behind a text

* `Text.readNumeral_toDigits` — a number that is written in plain digits is read back;
* `Variable.digitRuns_append_token` — a token behind a text is one more variable, whatever the text
  ends in;
* `Variable.ordinals_append_plainToken` — a greater number becomes the last of the ordinals;
* `withNextVariable_eq_ok`, `withNextVariable_error_iff` — what the next variable makes of a text,
  and when there is none.
-/

set_option autoImplicit false

namespace MessageTemplate

/-! ## Plain digits -/

namespace Text

theorem digitValue?_of_isDigit {c : Char} (h : c.isDigit = true) :
    digitValue? c = some (c.toNat - '0'.toNat) := by
  have hrange : 48 ≤ c.toNat ∧ c.toNat < 58 := by
    have hcode := Char.isDigit_iff_toNat.mp h
    exact ⟨hcode.1, Nat.lt_succ_of_le hcode.2⟩
  have hfirst : scriptZeros.find? (fun z => z ≤ c.toNat && c.toNat < z + 10) = some 0x30 := by
    unfold scriptZeros
    rw [List.find?_cons_of_pos]
    simpa using hrange
  unfold digitValue?
  rw [hfirst]
  rfl

theorem toDigits_decimal (n : Nat) : (Nat.toDigits 10 n).all isDecimalDigit = true := by
  rw [List.all_eq_true]
  intro c hc
  have hdigit := Nat.isDigit_of_mem_toDigits (by decide) (by decide) hc
  rw [isDecimalDigit, digitValue?_of_isDigit hdigit]
  rfl

/-- Plain digits have the value that the library gives them. -/
theorem digitsValue_of_isDigit {cs : List Char} (h : ∀ c ∈ cs, c.isDigit = true) :
    digitsValue cs = Nat.ofDigitChars 10 cs 0 := by
  rw [digitsValue, Nat.ofDigitChars_eq_foldl]
  refine List.foldl_ext _ _ _ fun value c hc => ?_
  rw [digitValue?_of_isDigit (h c hc)]
  rfl

theorem digitsValue_toDigits (n : Nat) : digitsValue (Nat.toDigits 10 n) = n := by
  have hplain : ∀ c ∈ Nat.toDigits 10 n, c.isDigit = true :=
    fun c hc => Nat.isDigit_of_mem_toDigits (by decide) (by decide) hc
  rw [digitsValue_of_isDigit hplain, Nat.ofDigitChars_ten_toDigits]

/-- A number whose numeral is not too long is read from its plain digits. -/
theorem readNumeral_toDigits {n : Nat} (h : (Nat.toDigits 10 n).length ≤ numeralLimit) :
    readNumeral (Nat.toDigits 10 n) = .ok n := by
  have hall := toDigits_decimal n
  have hleading : (Nat.toDigits 10 n).takeWhile isDecimalDigit = Nat.toDigits 10 n :=
    List.takeWhile_eq_self_iff.mpr (List.all_eq_true.mp hall)
  unfold readNumeral
  rw [hleading, if_neg (Nat.not_lt.mpr h), if_pos hall, digitsValue_toDigits]

theorem length_toDigits_le_limit_iff {n : Nat} :
    (Nat.toDigits 10 n).length ≤ numeralLimit ↔ n < Nat.pow 10 numeralLimit := by
  rw [Nat.length_toDigits_le_iff (by decide) (by decide), Nat.pow_eq]

/-- Exactly the numerals that are not too long are written. -/
theorem writeInteger_ok_iff {n : Nat} :
    (∃ s, writeInteger n = .ok s) ↔ (Nat.toDigits 10 n).length ≤ numeralLimit := by
  rw [length_toDigits_le_limit_iff, writeInteger, Int.natAbs_natCast]
  by_cases h : n < Nat.pow 10 numeralLimit
  · rw [if_pos h]
    exact iff_of_true ⟨_, rfl⟩ h
  · rw [if_neg h]
    exact iff_of_false (fun ⟨_, hs⟩ => nomatch hs) h

end Text

/-! ## One more token -/

namespace Variable

/-- **A token behind a text is one more variable**, and no other one is found. -/
theorem digitRuns_append_token (text : String) {digits : List Char} (hne : digits ≠ [])
    (hd : digits.all Text.isDecimalDigit = true) :
    digitRuns (text ++ String.ofList (token digits)) = digitRuns text ++ [digits] := by
  have hpieces := piecesFrom_append_token hne hd (Nat.zero_le text.toList.length) []
  unfold digitRuns pieces
  rw [String.toList_append, String.toList_ofList, ← List.append_nil (token digits), hpieces,
    List.filterMap_append]
  rfl

theorem digitRuns_append_plainToken (text : String) (n : Nat) :
    digitRuns (text ++ plainToken n) = digitRuns text ++ [Nat.toDigits 10 n] :=
  digitRuns_append_token text Nat.toDigits_ne_nil (Text.toDigits_decimal n)

theorem tokens_append_plainToken (text : String) (n : Nat) :
    tokens (text ++ plainToken n) = tokens text ++ [plainToken n] := by
  unfold tokens
  rw [digitRuns_append_plainToken, List.map_append]
  rfl

/-! ## Ordinals -/

theorem insertOrdinal_greatest {n : Nat} {ns : List Nat} (h : ∀ m ∈ ns, m < n) :
    insertOrdinal n ns = ns ++ [n] := by
  induction ns with
  | nil => rfl
  | cons m rest ih =>
    obtain ⟨hfirst, hrest⟩ := List.forall_mem_cons.mp h
    rw [insertOrdinal, if_neg (Nat.not_lt.mpr hfirst.le), if_neg hfirst.ne', ih hrest]
    rfl

/-- A number in plain digits, greater than all ordinals of a text, becomes the last of them. -/
theorem ordinals_append_plainToken {text : String} {ns : List Nat} {n : Nat}
    (hns : ordinals text = .ok ns) (hgreatest : ∀ m ∈ ns, m < n)
    (hlength : (Nat.toDigits 10 n).length ≤ Text.numeralLimit) :
    ordinals (text ++ plainToken n) = .ok (ns ++ [n]) := by
  unfold ordinals at hns ⊢
  rw [digitRuns_append_plainToken, List.mapM_append]
  cases hread : (digitRuns text).mapM Text.readNumeral with
  | error e =>
    rw [hread] at hns
    cases hns
  | ok numbers =>
    rw [hread] at hns
    cases hns
    simp only [List.mapM_cons, List.mapM_nil, Text.readNumeral_toDigits hlength]
    show Except.ok ((numbers ++ [n]).foldl (fun sorted n => insertOrdinal n sorted) []) = _
    rw [List.foldl_append, List.foldl_cons, List.foldl_nil, insertOrdinal_greatest hgreatest]

end Variable

/-! ## The next variable -/

/-- **The next variable is behind the text** and is its last token, and its number the last of the
ordinals. -/
theorem withNextVariable_eq_ok {text after : String} (h : withNextVariable text = .ok after) :
    ∃ n ns, Variable.nextOrdinal text = .ok n ∧ Variable.ordinals text = .ok ns ∧
      after = text ++ Variable.plainToken n ∧
      Variable.tokens after = Variable.tokens text ++ [Variable.plainToken n] ∧
      Variable.ordinals after = .ok (ns ++ [n]) := by
  unfold withNextVariable at h
  cases hns : Variable.ordinals text with
  | error e =>
    rw [Variable.nextOrdinal, hns] at h
    cases h
  | ok ns =>
    obtain ⟨n, hn, _, hgreatest⟩ := Variable.nextOrdinal_eq hns
    simp only [hn] at h
    cases hwritten : Text.writeInteger n with
    | error e =>
      rw [hwritten] at h
      cases h
    | ok numeral =>
      rw [hwritten] at h
      obtain rfl := Except.ok.inj h
      have hlength := Text.writeInteger_ok_iff.mp ⟨numeral, hwritten⟩
      exact ⟨n, ns, hn, rfl, rfl, Variable.tokens_append_plainToken text n,
        Variable.ordinals_append_plainToken hns hgreatest hlength⟩

/-- There is no next variable exactly if a numeral is too long: one in the text, or the next one. -/
theorem withNextVariable_error_iff {text : String} : (∃ e, withNextVariable text = .error e) ↔
    (∃ digits ∈ Variable.digitRuns text, Text.numeralLimit < digits.length) ∨
      ∃ n, Variable.nextOrdinal text = .ok n ∧ Text.numeralLimit < (Nat.toDigits 10 n).length := by
  rw [← Variable.ordinals_error_iff]
  unfold withNextVariable
  cases hns : Variable.ordinals text with
  | error e => simp [Variable.nextOrdinal, hns]
  | ok ns =>
    obtain ⟨n, hn, _⟩ := Variable.nextOrdinal_eq hns
    have hlength := @Text.writeInteger_ok_iff n
    simp only [hn, Except.ok.injEq, exists_eq_left', reduceCtorEq, exists_false, false_or,
      ← Nat.not_le, ← hlength]
    cases Text.writeInteger n <;> simp

end MessageTemplate
