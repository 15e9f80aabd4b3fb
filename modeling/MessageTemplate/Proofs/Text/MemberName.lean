import MessageTemplate.Text.MemberName

/-!
# What the spelling of a member name keeps out

* `Text.mem_mapCase` — a character that no row of a case table leads to comes only from itself;
* `Text.not_mem_camel` — the spelling without underscores has a point or a bracket only if the name
  has one.
-/

set_option autoImplicit false

namespace MessageTemplate.Text

/-- No row of the table and no expansion leads to the character. -/
def OutOfReach (rows : List CaseRow) (expansions : List (Nat × List Nat)) (c : Char) : Prop :=
  (∀ row ∈ rows, ¬(row.1 + row.2.2.2 ≤ (c.toNat : Int) ∧ (c.toNat : Int) ≤ row.2.1 + row.2.2.2)) ∧
    ∀ e ∈ expansions, c.toNat ∉ e.2

instance (rows : List CaseRow) (expansions : List (Nat × List Nat)) (c : Char) :
    Decidable (OutOfReach rows expansions c) := inferInstanceAs (Decidable (_ ∧ _))

/-- A character other than the null character is the one of its own code point only. -/
theorem eq_toNat_of_ofNat {n : Nat} {c : Char} (hc : c.toNat ≠ 0) (h : Char.ofNat n = c) :
    n = c.toNat := by
  subst h
  unfold Char.ofNat at hc ⊢
  by_cases hvalid : n.isValidChar
  · rw [dif_pos hvalid]
    rfl
  · rw [dif_neg hvalid] at hc
    exact absurd rfl hc

variable {rows : List CaseRow} {expansions : List (Nat × List Nat)} {c d : Char}

/-- A character out of reach of a case table is the image of no other one. -/
theorem mem_mapCase (hc : c.toNat ≠ 0) (hreach : OutOfReach rows expansions c)
    (h : c ∈ mapCase rows expansions d) : c = d := by
  obtain ⟨hrows, hexpansions⟩ := hreach
  unfold mapCase at h
  split at h
  · rename_i image himage
    obtain ⟨n, hn, hnc⟩ := List.mem_map.mp h
    have hmem : (d.toNat, image) ∈ expansions := by
      obtain ⟨before, after, rfl, _⟩ := List.lookup_eq_some_iff.mp himage
      exact List.mem_append_right _ List.mem_cons_self
    exact absurd (eq_toNat_of_ofNat hc hnc ▸ hn) (hexpansions _ hmem)
  · split at h
    · rename_i first last stride shift hrow
      have hmem := List.mem_of_find?_eq_some hrow
      have hinside := List.find?_some hrow
      simp only [Bool.and_eq_true, decide_eq_true_eq] at hinside
      have hshift := eq_toNat_of_ofNat hc (List.mem_singleton.mp h).symm
      refine absurd ?_ (hrows _ hmem)
      simp only
      omega
    · exact List.mem_singleton.mp h

/-- The characters that join the steps of a dotted name. -/
def IsJoint (c : Char) : Prop := c = '.' ∨ c = '['

instance (c : Char) : Decidable (IsJoint c) := inferInstanceAs (Decidable (_ ∨ _))

theorem outOfReach_of_isJoint (h : IsJoint c) :
    OutOfReach lowerRows lowerExpansions c ∧ OutOfReach titleRows titleExpansions c := by
  rcases h with rfl | rfl <;> decide +kernel

theorem IsJoint.toNat_ne (h : IsJoint c) : c.toNat ≠ 0 := by
  rcases h with rfl | rfl <;> decide

theorem mem_lowerBetween (hc : IsJoint c) {before after : List Char}
    (h : c ∈ lowerBetween before d after) : c = d := by
  unfold lowerBetween at h
  split at h
  · -- Neither of the two small sigmas is such a character.
    split at h <;> rcases hc with rfl | rfl <;> exact absurd (List.mem_singleton.mp h) (by decide)
  · exact mem_mapCase hc.toNat_ne (outOfReach_of_isJoint hc).1 h

theorem mem_titledFrom (hc : IsJoint c) {before cs : List Char} (h : c ∈ titledFrom before cs) :
    c ∈ cs := by
  induction cs generalizing before with
  | nil => cases h
  | cons d rest ih =>
    rw [titledFrom, List.mem_append] at h
    rcases h with hfirst | hrest
    · refine List.mem_cons.mpr (.inl ?_)
      split at hfirst
      · exact mem_lowerBetween hc hfirst
      · exact mem_mapCase hc.toNat_ne (outOfReach_of_isJoint hc).2 hfirst
    · exact List.mem_cons_of_mem _ (ih hrest)

theorem mem_joinWords {cs : List Char} (h : c ∈ joinWords cs) : c ∈ cs := by
  induction cs using joinWords.induct with
  | case1 => exact h
  | case2 _ => exact h
  | case3 _ _ => exact h
  | case4 a b e rest hseam ih =>
    rw [joinWords, if_pos hseam, List.mem_cons] at h
    rcases h with rfl | hrest
    · exact List.mem_cons_self
    · exact List.mem_cons_of_mem _ (List.mem_cons_of_mem _ (ih hrest))
  | case5 a b e rest hseam ih =>
    rw [joinWords, if_neg hseam, List.mem_cons] at h
    rcases h with rfl | hrest
    · exact List.mem_cons_self
    · exact List.mem_cons_of_mem _ (ih hrest)

theorem not_isJoint_toLower (hd : isCapital d = true) : ¬IsJoint d.toLower := by
  have hall : ∀ n ∈ List.range' 65 26, ¬IsJoint (Char.ofNat n).toLower := by decide
  simp only [isCapital, Bool.and_eq_true, decide_eq_true_eq, Char.le_def,
    UInt32.le_iff_toNat_le] at hd
  have hletter := hall d.toNat (List.mem_range'_1.mpr ⟨hd.1, Nat.lt_succ_of_le hd.2⟩)
  rwa [Char.ofNat_toNat] at hletter

theorem mem_lowerInitial (hc : IsJoint c) {cs : List Char} (h : c ∈ lowerInitial cs) : c ∈ cs := by
  induction cs with
  | nil => cases h
  | cons d rest ih =>
    rw [lowerInitial] at h
    split at h
    · rcases List.mem_cons.mp h with rfl | hrest
      · exact List.mem_cons_self
      · exact List.mem_cons_of_mem _ (ih hrest)
    · split at h
      · rename_i hcapital
        rcases List.mem_cons.mp h with rfl | hrest
        · exact absurd hc (not_isJoint_toLower hcapital)
        · exact List.mem_cons_of_mem _ hrest
      · exact h

/-- **The spelling of a name has a point or a bracket only if the name has one.** -/
theorem not_mem_camel (hc : IsJoint c) {name : List Char} (h : c ∉ name) : c ∉ camel name :=
  fun hmem => h (mem_titledFrom hc (mem_joinWords (mem_lowerInitial hc hmem)))

end MessageTemplate.Text
