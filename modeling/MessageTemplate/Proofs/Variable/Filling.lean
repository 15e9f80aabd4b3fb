import MessageTemplate.Proofs.Readable

/-!
# Filling in variables

* `Variable.digitsAtFront?_eq_some_iff` — the digits at the front of a text are those of a token;
* `Variable.weave` — gaps with texts between them;
* `Variable.Gaps` — the gaps between the variables of a text, in which there are none;
* `Variable.FilledWith` — a text in which other texts stand for the variables, and nothing else is
  changed;
* `Variable.substitute_filledWith` — substitution fills in the texts of the slots.
-/

set_option autoImplicit false

namespace MessageTemplate.Variable

/-! ## Tokens -/

theorem token_of_digitsAtFront? {cs digits : List Char} (h : digitsAtFront? cs = some digits) :
    digits ≠ [] ∧ ∃ rest, cs = token digits ++ rest := by
  unfold digitsAtFront? at h
  split at h
  · rename_i rest
    simp only at h
    split at h
    · cases h
    · rename_i after hdrop hne
      cases h
      refine ⟨fun hnil => hne hnil, after, ?_⟩
      have hrest : rest = rest.takeWhile Text.isDecimalDigit ++ '}' :: '}' :: after := by
        have htaken := List.prefix_iff_eq_append.mp (List.takeWhile_prefix (l := rest)
          Text.isDecimalDigit)
        rw [hdrop] at htaken
        exact htaken.symm
      unfold token
      simp only [List.append_assoc, List.cons_append, List.nil_append]
      rw [← hrest]
    · cases h
  · cases h

/-- **The digits at the front of a text are those of a token there.** -/
theorem digitsAtFront?_eq_some_iff {cs digits : List Char} :
    digitsAtFront? cs = some digits ↔
      digits ≠ [] ∧ digits.all Text.isDecimalDigit = true ∧ ∃ rest, cs = token digits ++ rest := by
  constructor
  · intro h
    obtain ⟨hne, hrest⟩ := token_of_digitsAtFront? h
    exact ⟨hne, digitsAtFront?_decimal h, hrest⟩
  · rintro ⟨hne, hd, rest, rfl⟩
    exact digitsAtFront?_token hne hd rest

/-- What stands behind a token does not matter. -/
theorem digitsAtFront?_mono {cs more digits : List Char} (hfront : cs <+: more)
    (h : digitsAtFront? cs = some digits) : digitsAtFront? more = some digits := by
  obtain ⟨behind, rfl⟩ := hfront
  obtain ⟨hne, hd, rest, rfl⟩ := digitsAtFront?_eq_some_iff.mp h
  rw [List.append_assoc]
  exact digitsAtFront?_token hne hd _

/-! ## Gaps -/

/-- Gaps with texts between them: the first gap, the first text, the second gap, and so on. -/
def weave : List (List Char) → List (List Char) → List Char
  | gap :: gaps, s :: rest => gap ++ s ++ weave gaps rest
  | gaps, [] => gaps.flatten
  | [], rest => rest.flatten

theorem length_weave (gaps inner : List (List Char)) :
    (weave gaps inner).length = gaps.flatten.length + inner.flatten.length := by
  induction gaps generalizing inner with
  | nil => cases inner <;> simp [weave]
  | cons gap gaps ih =>
    cases inner with
    | nil => simp [weave]
    | cons s rest =>
      simp only [weave, List.length_append, ih, List.flatten_cons]
      omega

/-- What stands before, between and behind the variables of a text. -/
structure Gaps (text : String) (gaps : List (List Char)) : Prop where
  length : gaps.length = (tokens text).length + 1
  plain : ∀ gap ∈ gaps, tokens (String.ofList gap) = []
  text : weave gaps ((tokens text).map String.toList) = text.toList

/-- The result is the text with the fillings in place of its variables, one by one. -/
def FilledWith (text : String) (fillings : List String) (result : String) : Prop :=
  fillings.length = (tokens text).length ∧
    ∃ gaps, Gaps text gaps ∧ result.toList = weave gaps (fillings.map String.toList)

/-- The gaps between pieces that are variables. -/
def gapsBetween : List Piece → List (List Char)
  | [] => [[]]
  | .char c :: rest => (gapsBetween rest).modifyHead (c :: ·)
  | .variable _ :: rest => [] :: gapsBetween rest

theorem gapsBetween_eq_cons (ps : List Piece) : ∃ gap gaps, gapsBetween ps = gap :: gaps := by
  induction ps with
  | nil => exact ⟨_, _, rfl⟩
  | cons p rest ih =>
    rcases p with c | digits
    · obtain ⟨gap, gaps, h⟩ := ih
      exact ⟨c :: gap, gaps, by rw [gapsBetween, h]; rfl⟩
    · exact ⟨_, _, rfl⟩

theorem length_gapsBetween (ps : List Piece) :
    (gapsBetween ps).length = (ps.filterMap Piece.digits?).length + 1 := by
  induction ps with
  | nil => rfl
  | cons p rest ih =>
    cases p <;> simpa [gapsBetween, List.filterMap_cons, Piece.digits?] using ih

/-- A character in front belongs to the first gap. -/
theorem weave_char (c : Char) (ps : List Piece) (inner : List (List Char)) :
    weave (gapsBetween (.char c :: ps)) inner = c :: weave (gapsBetween ps) inner := by
  obtain ⟨gap, gaps, h⟩ := gapsBetween_eq_cons ps
  rw [gapsBetween, h]
  cases inner <;> rfl

theorem weave_variable (digits s : List Char) (ps : List Piece) (inner : List (List Char)) :
    weave (gapsBetween (.variable digits :: ps)) (s :: inner) =
      s ++ weave (gapsBetween ps) inner := by
  rw [gapsBetween, weave, List.nil_append]

/-- The pieces of a text are all of it. -/
theorem weave_piecesFrom (skip : Nat) (cs : List Char) :
    weave (gapsBetween (piecesFrom skip cs))
      (((piecesFrom skip cs).filterMap Piece.digits?).map token) = cs.drop skip := by
  induction cs generalizing skip with
  | nil => cases skip <;> rfl
  | cons c rest ih =>
    cases skip with
    | succ skip => exact ih skip
    | zero =>
      rw [piecesFrom]
      cases hfront : digitsAtFront? (c :: rest) with
      | none =>
        simp only [List.filterMap_cons, Piece.digits?]
        rw [weave_char, ih 0]
        rfl
      | some digits =>
        obtain ⟨_, behind, hcs⟩ := token_of_digitsAtFront? hfront
        have hlength : (token digits).length = digits.length + 4 := by simp [token]
        have hdrop : rest.drop (digits.length + 3) = behind := by
          have : (c :: rest).drop (digits.length + 4) = behind := by
            rw [hcs, ← hlength, List.drop_left]
          exact this
        simp only [List.filterMap_cons, Piece.digits?, List.map_cons]
        rw [weave_variable, ih, hdrop, ← hcs]
        rfl

/-- The first gap of a text stands at its front. -/
theorem firstGap_atFront {cs gap : List Char} {gaps : List (List Char)}
    (h : gapsBetween (piecesFrom 0 cs) = gap :: gaps) : gap <+: cs := by
  induction cs generalizing gap gaps with
  | nil =>
    cases h
    exact List.nil_prefix
  | cons c rest ih =>
    rw [piecesFrom] at h
    split at h
    · cases h
      exact List.nil_prefix
    · obtain ⟨first, others, hrest⟩ := gapsBetween_eq_cons (piecesFrom 0 rest)
      rw [gapsBetween, hrest] at h
      cases h
      exact List.cons_prefix_cons.mpr ⟨rfl, ih hrest⟩

/-- There is no variable in a gap: one would have been found in the text itself. -/
theorem gapsBetween_plain {skip : Nat} {cs gap : List Char}
    (h : gap ∈ gapsBetween (piecesFrom skip cs)) :
    (piecesFrom 0 gap).filterMap Piece.digits? = [] := by
  induction cs generalizing skip gap with
  | nil =>
    cases skip <;>
    · obtain rfl := List.mem_singleton.mp h
      rfl
  | cons c rest ih =>
    cases skip with
    | succ skip => exact ih h
    | zero =>
      rw [piecesFrom] at h
      split at h
      · rcases List.mem_cons.mp h with rfl | h
        · rfl
        · exact ih h
      · rename_i hnone
        obtain ⟨first, others, hrest⟩ := gapsBetween_eq_cons (piecesFrom 0 rest)
        rw [gapsBetween, hrest] at h
        rcases List.mem_cons.mp h with rfl | h
        · have hfront : digitsAtFront? (c :: first) = none := by
            rw [Option.eq_none_iff_forall_ne_some]
            intro digits hdigits
            have hatFront : c :: first <+: c :: rest :=
              List.cons_prefix_cons.mpr ⟨rfl, firstGap_atFront hrest⟩
            rw [digitsAtFront?_mono hatFront hdigits] at hnone
            cases hnone
          rw [piecesFrom, hfront]
          exact ih (by rw [hrest]; exact List.mem_cons_self)
        · exact ih (by rw [hrest]; exact List.mem_cons_of_mem _ h)

theorem map_toList_tokens (text : String) :
    (tokens text).map String.toList = (digitRuns text).map token := by
  unfold tokens
  rw [List.map_map]
  exact List.map_congr_left fun digits _ => String.toList_ofList

theorem gaps_gapsBetween (text : String) : Gaps text (gapsBetween (pieces text.toList)) := by
  refine ⟨?_, fun gap hgap => ?_, ?_⟩
  · rw [length_gapsBetween, tokens, List.length_map]
    rfl
  · unfold tokens digitRuns pieces
    rw [String.toList_ofList, gapsBetween_plain hgap]
    rfl
  · rw [map_toList_tokens]
    exact weave_piecesFrom 0 text.toList

/-! ## Substitution -/

/-- The texts of the slots of a text, in order. -/
def slotTexts (text : String) (values : List String) : List String :=
  (List.range (tokens text).length).map (slotText values)

theorem fillFrom_eq_weave (values : List String) (position : Nat) (ps : List Piece) :
    fillFrom values position ps = weave (gapsBetween ps)
      ((List.range' position (ps.filterMap Piece.digits?).length).map
        fun i => (slotText values i).toList) := by
  induction ps generalizing position with
  | nil => rfl
  | cons p rest ih =>
    rcases p with c | digits
    · rw [fillFrom, ih, weave_char]
      rfl
    · rw [fillFrom, ih]
      simp only [List.filterMap_cons, Piece.digits?, List.length_cons, List.range'_succ,
        List.map_cons]
      rw [weave_variable]

theorem toList_substitute (text : String) (values : List String) :
    (substitute text values).toList =
      weave (gapsBetween (pieces text.toList)) ((slotTexts text values).map String.toList) := by
  unfold substitute
  rw [String.toList_ofList, fillFrom_eq_weave, slotTexts, List.map_map, List.range_eq_range',
    tokens, List.length_map]
  rfl

/-- **Substitution puts the texts of the slots in place of the variables** and changes nothing
else. -/
theorem substitute_filledWith (text : String) (values : List String) :
    FilledWith text (slotTexts text values) (substitute text values) :=
  ⟨by simp [slotTexts], _, gaps_gapsBetween text, toList_substitute text values⟩

/-- A text without variables takes no values. -/
theorem substitute_of_tokens_eq_nil {text : String} (h : tokens text = [])
    (values values' : List String) : substitute text values = substitute text values' := by
  rw [← String.toList_inj, toList_substitute, toList_substitute, slotTexts, slotTexts, h]
  rfl

theorem getElem?_slotTexts {text filling : String} {values : List String} {i : Nat}
    (h : (slotTexts text values)[i]? = some filling) : filling = slotText values i := by
  rw [slotTexts, List.getElem?_map, Option.map_eq_some_iff] at h
  obtain ⟨j, hj, rfl⟩ := h
  obtain ⟨_, rfl⟩ := List.getElem?_eq_some_iff.mp hj
  rw [List.getElem_range]

end MessageTemplate.Variable
