import MessageTemplate.Proofs.Variable.Filling
import MessageTemplate.Proofs.Variable.Ordinals

/-!
# Occurrences of tokens in a text

* `Variable.StandsAt` — a token stands in a text, behind a number of characters;
* `Variable.StandsAt.length_le` — no token begins inside another one;
* `Variable.piecesFrom_append_token` — a token parts the text before it from the text behind it;
* `Variable.mem_located_iff` — the variables found from left to right are all tokens in the text;
* `Variable.tokens_exact` — the tokens of a text are those that stand in it, and its ordinals the
  numbers that they denote.
-/

set_option autoImplicit false

namespace MessageTemplate.Variable

/-! ## Places of tokens -/

/-- Behind the first `p` characters of the text stand two opening braces, one or more decimal digits
and two closing braces. -/
structure StandsAt (cs : List Char) (p : Nat) (digits : List Char) : Prop where
  nonempty : digits ≠ []
  decimal : ∀ c ∈ digits, Text.isDecimalDigit c = true
  inText : token digits <+: cs.drop p

theorem standsAt_iff {cs digits : List Char} {p : Nat} :
    StandsAt cs p digits ↔ digitsAtFront? (cs.drop p) = some digits := by
  rw [digitsAtFront?_eq_some_iff, List.all_eq_true]
  constructor
  · rintro ⟨hne, hd, rest, hrest⟩
    exact ⟨hne, hd, rest, hrest.symm⟩
  · rintro ⟨hne, hd, rest, hrest⟩
    exact ⟨hne, hd, rest, hrest.symm⟩

theorem standsAt_drop {cs digits : List Char} {p q : Nat} :
    StandsAt (cs.drop p) q digits ↔ StandsAt cs (p + q) digits := by
  rw [standsAt_iff, standsAt_iff, List.drop_drop]

theorem length_token (digits : List Char) : (token digits).length = digits.length + 4 := by
  simp [token]

/-- Behind its second opening brace, a token has no opening brace. -/
theorem not_brace_of_inner {digits : List Char}
    (hd : ∀ c ∈ digits, Text.isDecimalDigit c = true) : '{' ∉ digits ++ ['}', '}'] := by
  intro h
  rcases List.mem_append.mp h with h | h
  · exact absurd (hd _ h) (by decide)
  · exact absurd h (by decide)

/-- No token begins inside a token at the front of a text. -/
theorem StandsAt.length_le {cs digits others : List Char} {q : Nat} (h : StandsAt cs 0 digits)
    (h' : StandsAt cs q others) (hq : q ≠ 0) : (token digits).length ≤ q := by
  obtain ⟨_, hd, rest, hrest⟩ := h
  obtain ⟨_, _, behind, hbehind⟩ := h'
  have hinner : ∀ i < digits.length + 2, cs[i + 2]? ≠ some '{' := by
    intro i hi hbrace
    have hat : cs[i + 2]? = (digits ++ ['}', '}'])[i]? := by
      rw [← List.drop_zero (l := cs), ← hrest, List.getElem?_append_left (by
        rw [length_token]
        omega)]
      rfl
    rw [hat] at hbrace
    exact not_brace_of_inner hd (List.mem_of_getElem? hbrace)
  have hfirst : cs[q]? = some '{' := by
    rw [← Nat.add_zero q, ← List.getElem?_drop, ← hbehind]
    rfl
  have hsecond : cs[q + 1]? = some '{' := by
    rw [← List.getElem?_drop, ← hbehind]
    rfl
  rw [length_token]
  by_contra hlt
  -- The other token has its first brace inside, unless that is the second one in front.
  by_cases hone : q = 1
  · subst hone
    exact hinner 0 (by omega) hsecond
  · obtain ⟨i, rfl⟩ := Nat.exists_eq_add_of_le' (show 2 ≤ q by omega)
    exact hinner i (by omega) hfirst

/-! ## Seams -/

theorem piecesFrom_drop (skip : Nat) (cs : List Char) :
    piecesFrom skip cs = piecesFrom 0 (cs.drop skip) := by
  induction cs generalizing skip with
  | nil => cases skip <;> rfl
  | cons c rest ih =>
    cases skip with
    | zero => rfl
    | succ skip => exact ih skip

theorem piecesFrom_token {digits : List Char} (hne : digits ≠ [])
    (hd : digits.all Text.isDecimalDigit = true) (rest : List Char) :
    piecesFrom 0 (token digits ++ rest) = .variable digits :: piecesFrom 0 rest := by
  have hfront := digitsAtFront?_token hne hd rest
  have hcons : token digits ++ rest = '{' :: ((token digits).tail ++ rest) := rfl
  rw [hcons] at hfront ⊢
  have hlength : digits.length + 3 = (token digits).tail.length := by
    rw [List.length_tail, length_token]
    rfl
  simp only [piecesFrom, hfront]
  rw [piecesFrom_drop, hlength, List.drop_left]

/-- A token further behind changes nothing at the front: no token can begin there and end behind the
seam. -/
theorem digitsAtFront?_append_token {cs digits : List Char} (hcs : cs ≠ []) (hne : digits ≠ [])
    (hd : digits.all Text.isDecimalDigit = true) (rest : List Char) :
    digitsAtFront? (cs ++ (token digits ++ rest)) = digitsAtFront? cs := by
  cases hfront : digitsAtFront? (cs ++ (token digits ++ rest)) with
  | none =>
    cases hbefore : digitsAtFront? cs with
    | none => rfl
    | some found =>
      rw [digitsAtFront?_mono (List.prefix_append _ _) hbefore] at hfront
      cases hfront
  | some found =>
    have hhere : StandsAt (cs ++ (token digits ++ rest)) 0 found := standsAt_iff.mpr hfront
    have hthere : StandsAt (cs ++ (token digits ++ rest)) cs.length digits :=
      ⟨hne, List.all_eq_true.mp hd, by rw [List.drop_left]; exact List.prefix_append _ _⟩
    have hends := hhere.length_le hthere (mt List.length_eq_zero_iff.mp hcs)
    have hin : token found <+: cs :=
      List.prefix_of_prefix_length_le hhere.inText (List.prefix_append _ _) hends
    have hstands : StandsAt cs 0 found := ⟨hhere.nonempty, hhere.decimal, hin⟩
    exact (standsAt_iff.mp hstands).symm

/-- A text in front of a token is cut as it is cut alone. -/
theorem piecesFrom_append_token {skip : Nat} {cs digits : List Char} (hne : digits ≠ [])
    (hd : digits.all Text.isDecimalDigit = true) (hskip : skip ≤ cs.length) (rest : List Char) :
    piecesFrom skip (cs ++ (token digits ++ rest)) =
      piecesFrom skip cs ++ .variable digits :: piecesFrom 0 rest := by
  induction cs generalizing skip with
  | nil =>
    obtain rfl := Nat.le_zero.mp hskip
    exact piecesFrom_token hne hd rest
  | cons c cs ih =>
    cases skip with
    | succ skip => exact ih (Nat.le_of_succ_le_succ hskip)
    | zero =>
      have hfront := digitsAtFront?_append_token (List.cons_ne_nil c cs) hne hd rest
      rw [List.cons_append] at hfront ⊢
      rw [piecesFrom, piecesFrom, hfront]
      cases hfound : digitsAtFront? (c :: cs) with
      | none => exact congrArg (Piece.char c :: ·) (ih (Nat.zero_le _))
      | some found =>
        have hlength := (standsAt_iff.mpr hfound : StandsAt (c :: cs) 0 found).inText.length_le
        rw [length_token, List.drop_zero, List.length_cons] at hlength
        exact congrArg (Piece.variable found :: ·) (ih (by omega))

/-! ## Variables found from left to right -/

/-- Variables among pieces, each with the number of characters before it, of which `p` stand before
the pieces. -/
def located (p : Nat) : List Piece → List (Nat × List Char)
  | [] => []
  | .char _ :: rest => located (p + 1) rest
  | .variable digits :: rest => (p, digits) :: located (p + (token digits).length) rest

theorem map_snd_located (p : Nat) (ps : List Piece) :
    (located p ps).map Prod.snd = ps.filterMap Piece.digits? := by
  induction ps generalizing p with
  | nil => rfl
  | cons piece rest ih =>
    rcases piece with c | digits
    · exact ih (p + 1)
    · exact congrArg (digits :: ·) (ih _)

theorem le_of_mem_located {p : Nat} {ps : List Piece} {o : Nat × List Char}
    (h : o ∈ located p ps) : p ≤ o.1 := by
  induction ps generalizing p with
  | nil => cases h
  | cons piece rest ih =>
    rcases piece with c | digits
    · exact (Nat.le_succ p).trans (ih h)
    · rcases List.mem_cons.mp h with rfl | h
      · exact le_rfl
      · exact (Nat.le_add_right p _).trans (ih h)

/-- Each variable ends before the next one begins. -/
theorem located_apart (p : Nat) (ps : List Piece) :
    (located p ps).Pairwise fun o o' => o.1 + (token o.2).length ≤ o'.1 := by
  induction ps generalizing p with
  | nil => exact List.Pairwise.nil
  | cons piece rest ih =>
    rcases piece with c | digits
    · exact ih (p + 1)
    · exact List.pairwise_cons.mpr ⟨fun o ho => le_of_mem_located ho, ih _⟩

/-- **The variables found are the tokens that stand in the text.** None is missed, as none begins
inside the token that the search has just gone past. -/
theorem mem_located_iff {skip p k : Nat} {cs digits : List Char} :
    (p + k, digits) ∈ located p (piecesFrom skip cs) ↔ StandsAt (cs.drop skip) k digits := by
  induction cs generalizing skip p k with
  | nil =>
    rw [standsAt_iff]
    cases skip <;> simp [piecesFrom, located, digitsAtFront?]
  | cons c rest ih =>
    cases skip with
    | succ skip => exact ih
    | zero =>
      have hnotBefore : ∀ {n : Nat} {ps : List Piece}, k < n →
          (p + k, digits) ∉ located (p + n) ps := by
        intro n ps hlt hmem
        have : p + n ≤ p + k := le_of_mem_located hmem
        omega
      rw [piecesFrom, List.drop_zero]
      cases hfront : digitsAtFront? (c :: rest) with
      | none =>
        rw [located]
        cases k with
        | zero =>
          rw [standsAt_iff, List.drop_zero, hfront]
          exact iff_of_false (hnotBefore Nat.one_pos) (Option.some_ne_none digits).symm
        | succ k => rw [Nat.add_comm k 1, ← Nat.add_assoc, ih, List.drop_zero, ← standsAt_drop]; rfl
      | some found =>
        have hfound : StandsAt (c :: rest) 0 found := standsAt_iff.mpr hfront
        rw [located, List.mem_cons]
        rcases Nat.lt_or_ge k (token found).length with hlt | hge
        · rw [or_iff_left (hnotBefore hlt), Prod.mk.injEq, Nat.add_eq_left]
          constructor
          · rintro ⟨rfl, rfl⟩
            exact hfound
          · intro h
            have hzero : k = 0 := by
              by_contra hne
              exact absurd (hfound.length_le h hne) (Nat.not_le.mpr hlt)
            subst hzero
            rw [standsAt_iff, List.drop_zero, hfront] at h
            exact ⟨rfl, (Option.some.inj h).symm⟩
        · obtain ⟨j, rfl⟩ := Nat.exists_eq_add_of_le hge
          have hbehind : rest.drop (found.length + 3) = (c :: rest).drop (token found).length := by
            rw [length_token]
            rfl
          have hpast : p + ((token found).length + j) ≠ p := by
            rw [length_token]
            omega
          rw [or_iff_right (fun h => hpast (congrArg Prod.fst h)), ← Nat.add_assoc, ih, hbehind,
            standsAt_drop]

/-- The variables of a text, each with the number of characters before it. -/
def occurrences (text : String) : List (Nat × List Char) :=
  located 0 (pieces text.toList)

theorem mem_occurrences_iff {text : String} {p : Nat} {digits : List Char} :
    (p, digits) ∈ occurrences text ↔ StandsAt text.toList p digits := by
  have h : (0 + p, digits) ∈ located 0 (piecesFrom 0 text.toList) ↔
      StandsAt (text.toList.drop 0) p digits := mem_located_iff
  rwa [Nat.zero_add, List.drop_zero] at h

theorem map_snd_occurrences (text : String) : (occurrences text).map Prod.snd = digitRuns text :=
  map_snd_located 0 _

theorem mem_digitRuns_iff {text : String} {digits : List Char} :
    digits ∈ digitRuns text ↔ ∃ p, StandsAt text.toList p digits := by
  rw [← map_snd_occurrences, List.mem_map]
  constructor
  · rintro ⟨⟨p, _⟩, ho, rfl⟩
    exact ⟨p, mem_occurrences_iff.mp ho⟩
  · rintro ⟨p, hp⟩
    exact ⟨(p, digits), mem_occurrences_iff.mpr hp, rfl⟩

/-- What is true of the digits of some variable is true of those of some token in the text. -/
theorem exists_digitRuns_iff {text : String} {P : List Char → Prop} :
    (∃ digits ∈ digitRuns text, P digits) ↔
      ∃ p digits, StandsAt text.toList p digits ∧ P digits := by
  simp only [mem_digitRuns_iff]
  constructor
  · rintro ⟨digits, ⟨p, hp⟩, h⟩
    exact ⟨p, digits, hp, h⟩
  · rintro ⟨p, digits, hp, h⟩
    exact ⟨digits, ⟨p, hp⟩, h⟩

/-- **Tokens are recognised exactly by their grammar.** The tokens of a text, from left to right,
are those of all places where two opening braces, decimal digits of any script and two closing braces
stand, and no two of them overlap. Exactly a run of too many digits leaves the text without
ordinals; ordinals ascend strictly and are the numbers that the digits denote, and the next ordinal
is one if there is no token, and greater than all of them. -/
theorem tokens_exact (text : String) :
    ∃ occurrences : List (Nat × List Char),
      tokens text = occurrences.map (fun o => String.ofList (token o.2)) ∧
      (∀ p digits, (p, digits) ∈ occurrences ↔ StandsAt text.toList p digits) ∧
      occurrences.Pairwise (fun o o' => o.1 + (token o.2).length ≤ o'.1) ∧
      ((∃ e, ordinals text = .error e) ↔
        ∃ p digits, StandsAt text.toList p digits ∧ Text.numeralLimit < digits.length) ∧
      ∀ ns, ordinals text = .ok ns →
        ns.Pairwise (· < ·) ∧
        (∀ n, n ∈ ns ↔ ∃ p digits, StandsAt text.toList p digits ∧ Text.Denotes digits n) ∧
        ∃ next, nextOrdinal text = .ok next ∧ (tokens text = [] → next = 1) ∧
          ∀ n ∈ ns, n < next := by
  refine ⟨occurrences text, ?_, fun p digits => mem_occurrences_iff, located_apart 0 _, ?_, ?_⟩
  · rw [tokens, ← map_snd_occurrences, List.map_map]
    rfl
  · rw [ordinals_error_iff, exists_digitRuns_iff]
  · intro ns hns
    obtain ⟨hascending, hnumbers⟩ := ordinals_eq_ok hns
    refine ⟨hascending, fun n => ?_, nextOrdinal_eq hns⟩
    rw [hnumbers, exists_digitRuns_iff]

/-- A token in an Arabic digit amid further braces, a token, and one cut short. -/
def amidBraces : String :=
  "\x7b\x7b\x7b\u0662\x7d\x7d\x7d \x7b\x7b1\x7d\x7d \x7b\x7b3\x7d"

/-- Further braces and a token cut short disturb nothing. -/
theorem tokens_exact_amidBraces :
    ordinals amidBraces = .ok [1, 2] ∧
      (∀ n, n ∈ [1, 2] ↔
        ∃ p digits, StandsAt amidBraces.toList p digits ∧ Text.Denotes digits n) ∧
      ∃ next, nextOrdinal amidBraces = .ok next ∧ ∀ n ∈ [1, 2], n < next := by
  obtain ⟨_, _, _, _, _, hordinals⟩ := tokens_exact amidBraces
  have hns : ordinals amidBraces = .ok [1, 2] := by rfl
  obtain ⟨_, hmem, next, hnext, _, hgreater⟩ := hordinals [1, 2] hns
  exact ⟨hns, hmem, next, hnext, hgreater⟩

end MessageTemplate.Variable
