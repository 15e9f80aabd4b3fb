import MessageTemplate.Proofs.Readable
import Mathlib.Data.List.Basic
import Mathlib.Data.List.Induction
import Mathlib.Data.Nat.Digits.Defs

/-!
# The ordinals of a text

* `Text.Denotes` — digits of any script denote a number, by their places;
* `Variable.ordinals_eq_ok` — the ordinals ascend, and are the numbers that the variables denote;
* `Variable.nextOrdinal_eq` — the next ordinal is one, or greater than all of them.
-/

set_option autoImplicit false

namespace MessageTemplate

/-! ## Numerals -/

namespace Text

/-- The digits, of any script, denote the number: each has a value, and counts ten times as much as
the one behind it. -/
def Denotes (digits : List Char) (n : Nat) : Prop :=
  ∃ values : List Nat, digits.map digitValue? = values.map some ∧ n = Nat.ofDigits 10 values.reverse

theorem digitsValue_concat (cs : List Char) (c : Char) :
    digitsValue (cs ++ [c]) = 10 * digitsValue cs + (digitValue? c).getD 0 := by
  simp [digitsValue, List.foldl_append]

/-- Decimal digits denote their value. -/
theorem denotes_digitsValue {digits : List Char} (hd : ∀ c ∈ digits, isDecimalDigit c = true) :
    Denotes digits (digitsValue digits) := by
  induction digits using List.reverseRecOn with
  | nil => exact ⟨[], rfl, rfl⟩
  | append_singleton cs c ih =>
    obtain ⟨values, hvalues, hvalue⟩ := ih fun d hmem => hd d (List.mem_append_left _ hmem)
    obtain ⟨v, hv⟩ := Option.isSome_iff_exists.mp (hd c (by simp))
    refine ⟨values ++ [v], by simp [hvalues, hv], ?_⟩
    rw [digitsValue_concat, hv, hvalue, List.reverse_append, List.reverse_singleton,
      List.singleton_append, Nat.ofDigits_cons]
    exact Nat.add_comm _ _

/-- Digits denote one number at most. -/
theorem Denotes.unique {digits : List Char} {n m : Nat} (hn : Denotes digits n)
    (hm : Denotes digits m) : n = m := by
  obtain ⟨values, hvalues, rfl⟩ := hn
  obtain ⟨others, hothers, rfl⟩ := hm
  have hsame : values = others :=
    List.map_injective_iff.mpr (Option.some_injective Nat) (hvalues.symm.trans hothers)
  rw [hsame]

/-- What denotes a number has decimal digits only. -/
theorem Denotes.decimal {digits : List Char} {n : Nat} (h : Denotes digits n) :
    ∀ c ∈ digits, isDecimalDigit c = true := by
  obtain ⟨values, hvalues, _⟩ := h
  intro c hc
  have hmem : digitValue? c ∈ values.map some := hvalues ▸ List.mem_map_of_mem hc
  obtain ⟨v, _, hv⟩ := List.mem_map.mp hmem
  rw [isDecimalDigit, ← hv]
  rfl

/-- What a run of decimal digits is read as is what it denotes. -/
theorem denotes_of_readNumeral {digits : List Char} {n : Nat}
    (hd : ∀ c ∈ digits, isDecimalDigit c = true) (h : readNumeral digits = .ok n) :
    Denotes digits n := by
  unfold readNumeral at h
  simp only [List.all_eq_true.mpr hd, if_true] at h
  split at h
  · cases h
  · cases h
    exact denotes_digitsValue hd

end Text

namespace Variable

/-! ## Ascending lists -/

theorem mem_insertOrdinal {m n : Nat} {ns : List Nat} :
    m ∈ insertOrdinal n ns ↔ m = n ∨ m ∈ ns := by
  induction ns with
  | nil => simp [insertOrdinal]
  | cons k ns ih =>
    rw [insertOrdinal]
    split
    · exact List.mem_cons
    · split
      · rename_i heq
        subst heq
        simp
      · rw [List.mem_cons, ih, List.mem_cons]
        tauto

theorem insertOrdinal_ascending {n : Nat} {ns : List Nat} (h : ns.Pairwise (· < ·)) :
    (insertOrdinal n ns).Pairwise (· < ·) := by
  induction ns with
  | nil => exact List.pairwise_singleton _ _
  | cons k ns ih =>
    obtain ⟨hfirst, hrest⟩ := List.pairwise_cons.mp h
    rw [insertOrdinal]
    split
    · rename_i hlt
      refine List.pairwise_cons.mpr ⟨fun m hm => ?_, h⟩
      rcases List.mem_cons.mp hm with rfl | hm
      · exact hlt
      · exact hlt.trans (hfirst m hm)
    · split
      · exact h
      · refine List.pairwise_cons.mpr ⟨fun m hm => ?_, ih hrest⟩
        rcases mem_insertOrdinal.mp hm with rfl | hm
        · omega
        · exact hfirst m hm

theorem mem_foldl_insertOrdinal {m : Nat} {numbers sorted : List Nat} :
    m ∈ numbers.foldl (fun sorted n => insertOrdinal n sorted) sorted ↔
      m ∈ numbers ∨ m ∈ sorted := by
  induction numbers generalizing sorted with
  | nil => simp
  | cons n numbers ih =>
    rw [List.foldl_cons, ih, mem_insertOrdinal, List.mem_cons]
    tauto

theorem foldl_insertOrdinal_ascending (numbers : List Nat) {sorted : List Nat}
    (h : sorted.Pairwise (· < ·)) :
    (numbers.foldl (fun sorted n => insertOrdinal n sorted) sorted).Pairwise (· < ·) := by
  induction numbers generalizing sorted with
  | nil => exact h
  | cons n numbers ih => exact ih (insertOrdinal_ascending h)

/-! ## Ordinals -/

theorem mem_of_mapM_ok {α β ε : Type} {f : α → Except ε β} {l : List α} {r : List β}
    (h : l.mapM f = .ok r) (b : β) : b ∈ r ↔ ∃ a ∈ l, f a = .ok b := by
  induction l generalizing r with
  | nil =>
    cases h
    simp
  | cons a rest ih =>
    rw [List.mapM_cons] at h
    cases hfirst : f a with
    | error e =>
      rw [hfirst] at h
      cases h
    | ok first =>
      cases hrest : rest.mapM f with
      | error e =>
        rw [hfirst, hrest] at h
        cases h
      | ok others =>
        rw [hfirst, hrest] at h
        cases h
        rw [List.mem_cons, ih hrest, List.exists_mem_cons_iff, hfirst, Except.ok.injEq, eq_comm]

/-- **The ordinals of a text ascend, and are the numbers that its variables denote.** -/
theorem ordinals_eq_ok {text : String} {ns : List Nat} (h : ordinals text = .ok ns) :
    ns.Pairwise (· < ·) ∧ ∀ n, n ∈ ns ↔ ∃ digits ∈ digitRuns text, Text.Denotes digits n := by
  unfold ordinals at h
  split at h
  · rename_i numbers hnumbers
    cases h
    refine ⟨foldl_insertOrdinal_ascending numbers List.Pairwise.nil, fun n => ?_⟩
    rw [mem_foldl_insertOrdinal, mem_of_mapM_ok hnumbers]
    simp only [List.not_mem_nil, or_false]
    constructor
    · rintro ⟨digits, hmem, hread⟩
      have hd := List.all_eq_true.mp (digitRuns_decimal hmem)
      exact ⟨digits, hmem, Text.denotes_of_readNumeral hd hread⟩
    · rintro ⟨digits, hmem, hn⟩
      have hd := List.all_eq_true.mp (digitRuns_decimal hmem)
      obtain ⟨m, hm⟩ := (mapM_ok_iff _ _).mp ⟨numbers, hnumbers⟩ digits hmem
      obtain rfl := hn.unique (Text.denotes_of_readNumeral hd hm)
      exact ⟨digits, hmem, hm⟩
  · cases h

/-- Exactly a variable with too many digits leaves a text without ordinals. -/
theorem ordinals_error_iff {text : String} :
    (∃ e, ordinals text = .error e) ↔
      ∃ digits ∈ digitRuns text, Text.numeralLimit < digits.length := by
  have hnot : (∃ e, ordinals text = .error e) ↔ ¬ ∃ ns, ordinals text = .ok ns := by
    cases ordinals text <;> simp
  rw [hnot, ordinals_ok_iff, Readable]
  simp only [not_forall, Nat.not_le, exists_prop]

/-- A text without variables, and no other, has no ordinals. -/
theorem ordinals_eq_nil_iff {text : String} {ns : List Nat} (h : ordinals text = .ok ns) :
    ns = [] ↔ tokens text = [] := by
  obtain ⟨_, hmem⟩ := ordinals_eq_ok h
  rw [tokens, List.map_eq_nil_iff]
  constructor
  · rintro rfl
    rw [List.eq_nil_iff_forall_not_mem]
    intro digits hdigits
    have hd := List.all_eq_true.mp (digitRuns_decimal hdigits)
    exact List.not_mem_nil ((hmem _).mpr ⟨digits, hdigits, Text.denotes_digitsValue hd⟩)
  · intro hnone
    rw [List.eq_nil_iff_forall_not_mem]
    intro n hn
    obtain ⟨digits, hdigits, _⟩ := (hmem n).mp hn
    rw [hnone] at hdigits
    cases hdigits

/-- **The next ordinal is one in a text without variables, and greater than all ordinals in every
other text.** -/
theorem nextOrdinal_eq {text : String} {ns : List Nat} (h : ordinals text = .ok ns) :
    ∃ next, nextOrdinal text = .ok next ∧ (tokens text = [] → next = 1) ∧ ∀ n ∈ ns, n < next := by
  unfold nextOrdinal
  rw [h]
  refine ⟨_, rfl, fun hnone => ?_, fun n hn => ?_⟩
  · obtain rfl := (ordinals_eq_nil_iff h).mpr hnone
    rfl
  · obtain ⟨hascending, _⟩ := ordinals_eq_ok h
    rcases ns.eq_nil_or_concat' with rfl | ⟨front, last, rfl⟩
    · cases hn
    · rw [List.getLast?_concat]
      rcases List.mem_append.mp hn with hfront | hlast
      · have := (List.pairwise_append.mp hascending).2.2 n hfront last (List.mem_singleton_self _)
        exact this.trans (Nat.lt_succ_self last)
      · obtain rfl := List.mem_singleton.mp hlast
        exact Nat.lt_succ_self n

end Variable

end MessageTemplate
