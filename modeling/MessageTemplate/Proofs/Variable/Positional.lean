import MessageTemplate.Proofs.Variable.Occurrences

/-!
# Substitution by position

* `Variable.Gaps.unique` — a text splits at its variables in one way only;
* `Variable.FillsPosition` — what stands for the variable at a position: the value there, or the
  placeholder;
* `Variable.substitute_positional` — substitution keeps what stands between the variables and
  depends on nothing else but the values at their positions.
-/

set_option autoImplicit false

namespace MessageTemplate.Variable

/-! ## Splitting at the variables -/

theorem tokens_ofList_eq_nil_iff {cs : List Char} :
    tokens (String.ofList cs) = [] ↔ ∀ p digits, ¬ StandsAt cs p digits := by
  rw [tokens, List.map_eq_nil_iff, List.eq_nil_iff_forall_not_mem]
  simp only [mem_digitRuns_iff, String.toList_ofList, not_exists]
  exact forall_comm

theorem gapsBetween_variable (digits : List Char) (before behind : List Piece) :
    gapsBetween (before ++ .variable digits :: behind) =
      gapsBetween before ++ gapsBetween behind := by
  induction before with
  | nil => rfl
  | cons p before ih =>
    rcases p with c | ds
    · obtain ⟨gap, gaps, hbefore⟩ := gapsBetween_eq_cons before
      rw [List.cons_append, gapsBetween, gapsBetween, ih, hbefore]
      rfl
    · rw [List.cons_append, gapsBetween, gapsBetween, ih]
      rfl

theorem gapsBetween_of_plain {gap : List Char} (hplain : ∀ p ds, ¬ StandsAt gap p ds) :
    gapsBetween (piecesFrom 0 gap) = [gap] := by
  have hnone : (piecesFrom 0 gap).filterMap Piece.digits? = [] := by
    have := tokens_ofList_eq_nil_iff.mpr hplain
    rwa [tokens, List.map_eq_nil_iff, digitRuns, pieces, String.toList_ofList] at this
  have hone := length_gapsBetween (piecesFrom 0 gap)
  have hall := weave_piecesFrom 0 gap
  rw [hnone] at hone hall
  obtain ⟨g, hg⟩ := List.length_eq_one_iff.mp hone
  rw [hg] at hall ⊢
  have : g = gap := by simpa [weave] using hall
  rw [this]

/-- What is free of tokens, in front of a token, is a gap. -/
theorem gapsBetween_append {gap digits : List Char} (hplain : ∀ p ds, ¬ StandsAt gap p ds)
    (hne : digits ≠ []) (hd : digits.all Text.isDecimalDigit = true) (rest : List Char) :
    gapsBetween (piecesFrom 0 (gap ++ (token digits ++ rest))) =
      gap :: gapsBetween (piecesFrom 0 rest) := by
  rw [piecesFrom_append_token hne hd (Nat.zero_le _), gapsBetween_variable,
    gapsBetween_of_plain hplain, List.singleton_append]

/-- Gaps without tokens are found again between the tokens that they are woven with. -/
theorem gapsBetween_weave {gaps runs : List (List Char)} (hlength : gaps.length = runs.length + 1)
    (hplain : ∀ gap ∈ gaps, ∀ p ds, ¬ StandsAt gap p ds)
    (hruns : ∀ digits ∈ runs, digits ≠ [] ∧ digits.all Text.isDecimalDigit = true) :
    gapsBetween (piecesFrom 0 (weave gaps (runs.map token))) = gaps := by
  induction runs generalizing gaps with
  | nil =>
    obtain ⟨gap, rfl⟩ := List.length_eq_one_iff.mp hlength
    have hweave : weave [gap] ([].map token) = gap := List.append_nil gap
    rw [hweave]
    exact gapsBetween_of_plain (hplain gap (List.mem_singleton_self gap))
  | cons digits runs ih =>
    obtain ⟨gap, gaps, rfl⟩ := List.exists_cons_of_length_eq_add_one hlength
    obtain ⟨hgap, hgaps⟩ := List.forall_mem_cons.mp hplain
    obtain ⟨⟨hne, hd⟩, hrest⟩ := List.forall_mem_cons.mp hruns
    rw [List.map_cons, weave, List.append_assoc, gapsBetween_append hgap hne hd,
      ih (Nat.succ.inj hlength) hgaps hrest]

/-- **A text splits at its variables in one way only.** -/
theorem Gaps.unique {text : String} {gaps : List (List Char)} (h : Gaps text gaps) :
    gaps = gapsBetween (pieces text.toList) := by
  have hlength : gaps.length = (digitRuns text).length + 1 := by
    rw [h.length, tokens, List.length_map]
  have hruns : ∀ digits ∈ digitRuns text,
      digits ≠ [] ∧ digits.all Text.isDecimalDigit = true := by
    intro digits hmem
    obtain ⟨_, hstands⟩ := mem_digitRuns_iff.mp hmem
    exact ⟨hstands.nonempty, List.all_eq_true.mpr hstands.decimal⟩
  have hgaps := gapsBetween_weave hlength
    (fun gap hgap => tokens_ofList_eq_nil_iff.mp (h.plain gap hgap)) hruns
  rw [← map_toList_tokens, h.text] at hgaps
  exact hgaps.symm

/-! ## Values -/

/-- What stands for the variable at a position, counted from zero: the value there if it is not
empty, and else the placeholder with the number of the position, counted from one. -/
structure FillsPosition (values : List String) (i : Nat) (filling : String) : Prop where
  value : ∀ v ∈ values[i]?, v ≠ "" → filling = v
  placeholder : (∀ v ∈ values[i]?, v = "") → filling = "[Variable " ++ toString (i + 1) ++ "]"

theorem fillsPosition_slotText (values : List String) (i : Nat) :
    FillsPosition values i (slotText values i) := by
  unfold slotText
  constructor
  · intro v hv hne
    have hempty : v.isEmpty = false := by rwa [Bool.eq_false_iff, ne_eq, String.isEmpty_iff]
    simp [Option.mem_def.mp hv, hempty]
  · intro hnone
    split
    · rename_i v hv
      obtain rfl := hnone v hv
      rfl
    · rfl

/-- Values behind the last variable are not used. -/
theorem slotTexts_take (text : String) (values : List String) :
    slotTexts text (values.take (tokens text).length) = slotTexts text values := by
  refine List.map_congr_left fun i hi => ?_
  unfold slotText
  rw [List.getElem?_take_of_lt (List.mem_range.mp hi)]

/-- **Substitution goes by position.** A text splits at its tokens, in one way only, into gaps
without tokens; whatever the values are, substitution keeps the gaps and puts, for the i-th token, the
i-th value as it is, or the placeholder if there is none or an empty one. Texts that differ only in
the digits of their tokens, and values that differ only behind the last token, give the same
result. -/
theorem substitute_positional (text : String) :
    ∃ gaps, Gaps text gaps ∧ (∀ gaps', Gaps text gaps' → gaps' = gaps) ∧
      (∀ values, ∃ fillings : List String,
        fillings.length = (tokens text).length ∧
        (∀ i filling, fillings[i]? = some filling → FillsPosition values i filling) ∧
        (substitute text values).toList = weave gaps (fillings.map String.toList)) ∧
      ∀ text' values values', Gaps text' gaps →
        values.take (tokens text).length = values'.take (tokens text).length →
        substitute text values = substitute text' values' := by
  have hgaps := gaps_gapsBetween text
  refine ⟨gapsBetween (pieces text.toList), hgaps, fun gaps' h => h.unique, fun values => ?_, ?_⟩
  · refine ⟨slotTexts text values, by simp [slotTexts], fun i filling h => ?_,
      toList_substitute text values⟩
    rw [getElem?_slotTexts h]
    exact fillsPosition_slotText values i
  · intro text' values values' hgaps' htake
    have hcount : (tokens text').length = (tokens text).length :=
      Nat.succ.inj (hgaps'.length.symm.trans hgaps.length)
    have hslots : slotTexts text values = slotTexts text' values' := by
      rw [← slotTexts_take text values, htake, ← hcount, ← slotTexts_take text' values']
      unfold slotTexts
      rw [hcount]
    rw [← String.toList_inj, toList_substitute, toList_substitute, hslots, ← hgaps'.unique]

/-- A repeated ordinal takes the next value, and a value that looks like a token stays as it is. -/
theorem substitute_positional_repeated :
    Gaps "Hi {{7}}, your order {{2}} shipped"
        (gapsBetween (pieces "Hi {{1}}, your order {{1}} shipped".toList)) ∧
      substitute "Hi {{1}}, your order {{1}} shipped" ["{{2}}", "B", "C"] =
        substitute "Hi {{7}}, your order {{2}} shipped" ["{{2}}", "B"] := by
  have hpieces : gapsBetween (pieces "Hi {{1}}, your order {{1}} shipped".toList) =
      gapsBetween (pieces "Hi {{7}}, your order {{2}} shipped".toList) := by
    decide +kernel
  have hgaps : Gaps "Hi {{7}}, your order {{2}} shipped"
      (gapsBetween (pieces "Hi {{1}}, your order {{1}} shipped".toList)) := by
    rw [hpieces]
    exact gaps_gapsBetween _
  have htake : ["{{2}}", "B", "C"].take (tokens "Hi {{1}}, your order {{1}} shipped").length =
      ["{{2}}", "B"].take (tokens "Hi {{1}}, your order {{1}} shipped").length := by
    decide +kernel
  obtain ⟨gaps, _, hunique, _, hsame⟩ :=
    substitute_positional "Hi {{1}}, your order {{1}} shipped"
  obtain rfl := hunique _ (gaps_gapsBetween _)
  exact ⟨hgaps, hsame _ _ _ hgaps htake⟩

end MessageTemplate.Variable
