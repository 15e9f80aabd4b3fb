import MessageTemplate.Proofs.Editor.Validated
import MessageTemplate.Proofs.Variable.Appending

/-!
# Inserting variables

An insertion appends the next variable to the header text or to the body text.

* `Template.textAt`, `Template.withTextAt` — the text into which a variable is inserted, and the
  template with another one;
* `Template.Inserts` — what an insertion does: the text has one more token behind the others and one
  more ordinal, greater than the others, and nothing else is changed;
* `Template.insertVariable_inserts`, `Template.insertVariable_error_iff` — insertions do this, or
  there is a numeral that is too long;
* `Template.insertions_consecutive` — any number of insertions behind the ordinals 1, 2, …, k goes
  on counting;
* `Template.insertion_extends` — all of it, with what a failure means for an editor.
-/

set_option autoImplicit false

namespace MessageTemplate

/-- The next ordinal goes on counting. -/
theorem Variable.nextOrdinal_of_consecutive {text : String} {k : Nat}
    (h : ordinals text = .ok (List.range' 1 k)) : nextOrdinal text = .ok (k + 1) := by
  rw [nextOrdinal, h]
  cases k with
  | zero => rfl
  | succ k => simp [List.getLast?_range', Nat.add_comm]

namespace Template

/-- The text of a template into which a variable is inserted; a missing header has the text of the
default one. -/
def textAt (t : Template) : Target → String
  | .header => t.headerOrDefault.text
  | .body => t.body.text

/-- The template with another text there; a missing header becomes the default one, which is off. -/
def withTextAt (t : Template) (target : Target) (text : String) : Template :=
  match target with
  | .header => { t with header := some { t.headerOrDefault with text := text } }
  | .body => { t with body := { t.body with text := text } }

variable {t after : Template} {target : Target}

@[simp] theorem textAt_withTextAt (text : String) :
    (t.withTextAt target text).textAt target = text := by
  cases target <;> rfl

@[simp] theorem withTextAt_withTextAt (text text' : String) :
    (t.withTextAt target text).withTextAt target text' = t.withTextAt target text' := by
  cases target <;> rfl

/-! ## One insertion -/

theorem apply_insertVariable (t : Template) (target : Target) :
    t.apply (.insertVariable target) =
      Failure.ofNumeral ((withNextVariable (t.textAt target)).map (t.withTextAt target)) := by
  cases target <;>
  · unfold apply insertVariable textAt
    simp only
    cases withNextVariable _ <;> rfl

/-- The template afterwards has the variable of the number behind its text at the target. -/
structure Inserts (t : Template) (target : Target) (n : Nat) (after : Template) : Prop where
  next : Variable.nextOrdinal (t.textAt target) = .ok n
  elsewhere : after = t.withTextAt target (t.textAt target ++ Variable.plainToken n)
  tokens : Variable.tokens (after.textAt target) =
    Variable.tokens (t.textAt target) ++ [Variable.plainToken n]
  ordinals : ∃ ns, Variable.ordinals (t.textAt target) = .ok ns ∧
    Variable.ordinals (after.textAt target) = .ok (ns ++ [n])

/-- Behind consecutive ordinals the new one is consecutive. -/
theorem Inserts.consecutive {n k : Nat} (h : t.Inserts target n after)
    (hk : Variable.ordinals (t.textAt target) = .ok (List.range' 1 k)) :
    Variable.ordinals (after.textAt target) = .ok (List.range' 1 (k + 1)) := by
  obtain ⟨ns, hns, hafter⟩ := h.ordinals
  obtain rfl := Except.ok.inj (hns.symm.trans hk)
  obtain rfl := Except.ok.inj (h.next.symm.trans (Variable.nextOrdinal_of_consecutive hk))
  rw [hafter, List.range'_1_concat, Nat.add_comm]

/-- **An insertion appends the next variable** and does nothing else. -/
theorem insertVariable_inserts (h : t.apply (.insertVariable target) = .ok after) :
    ∃ n, t.Inserts target n after := by
  rw [apply_insertVariable] at h
  cases htext : withNextVariable (t.textAt target) with
  | error e =>
    rw [htext] at h
    cases h
  | ok text =>
    rw [htext] at h
    obtain rfl := Except.ok.inj h
    obtain ⟨n, ns, hnext, hns, heq, htokens, hordinals⟩ := withNextVariable_eq_ok htext
    refine ⟨n, hnext, by rw [heq], ?_, ns, hns, ?_⟩
    · rw [textAt_withTextAt, htokens]
    · rw [textAt_withTextAt, hordinals]

/-- **An insertion fails exactly if a numeral is too long**: one in the text, or the next one. -/
theorem insertVariable_error_iff (t : Template) (target : Target) :
    (∃ failure, t.apply (.insertVariable target) = .error failure) ↔
      (∃ digits ∈ Variable.digitRuns (t.textAt target), Text.numeralLimit < digits.length) ∨
        ∃ n, Variable.nextOrdinal (t.textAt target) = .ok n ∧
          Text.numeralLimit < (Nat.toDigits 10 n).length := by
  rw [← withNextVariable_error_iff, apply_insertVariable]
  cases withNextVariable (t.textAt target) <;> simp [Failure.ofNumeral, Except.map]

/-- Behind consecutive ordinals an insertion succeeds if the next number is not too long. -/
theorem insertVariable_ok_iff {k : Nat}
    (hk : Variable.ordinals (t.textAt target) = .ok (List.range' 1 k)) :
    (∃ after, t.apply (.insertVariable target) = .ok after) ↔
      (Nat.toDigits 10 (k + 1)).length ≤ Text.numeralLimit := by
  have hreadable := Variable.ordinals_ok_iff.mp ⟨_, hk⟩
  have hnone : ¬ ∃ digits ∈ Variable.digitRuns (t.textAt target),
      Text.numeralLimit < digits.length :=
    fun ⟨digits, hmem, hlong⟩ => absurd (hreadable digits hmem) (Nat.not_le.mpr hlong)
  have hok : (∃ after, t.apply (.insertVariable target) = .ok after) ↔
      ¬ ∃ failure, t.apply (.insertVariable target) = .error failure := by
    cases t.apply (.insertVariable target) <;> simp
  rw [hok, insertVariable_error_iff, or_iff_right hnone, Variable.nextOrdinal_of_consecutive hk]
  simp

/-- An insertion that fails leaves an editor as it was. -/
theorem dispatch_insertVariable_failed {e : Editor} {c : Command} {failure : Failure}
    (hc : c.edit = .insertVariable target)
    (h : e.template.apply (.insertVariable target) = .error failure) :
    e.dispatch (.ok c) = { editor := e, failure := some failure } := by
  simp only [Editor.dispatch, Editor.edit, hc, h]

/-! ## Any number of insertions -/

/-- The template after insertions, one behind the other. -/
def insertions (t : Template) (target : Target) (m : Nat) : Except Failure Template :=
  (List.replicate m (Edit.insertVariable target)).foldlM apply t

theorem insertions_succ (t : Template) (target : Target) (m : Nat) :
    t.insertions target (m + 1) =
      (t.apply (.insertVariable target)).bind fun after => after.insertions target m := by
  rw [insertions, List.replicate_succ, List.foldlM_cons]
  rfl

/-- A number is not too long if a greater one is not. -/
theorem length_toDigits_mono {n m : Nat} (h : n ≤ m)
    (hm : (Nat.toDigits 10 m).length ≤ Text.numeralLimit) :
    (Nat.toDigits 10 n).length ≤ Text.numeralLimit :=
  Text.length_toDigits_le_limit_iff.mpr (h.trans_lt (Text.length_toDigits_le_limit_iff.mp hm))

/-- **Insertions go on counting**: behind the ordinals 1, 2, …, k any number of them succeeds if the
last number is not too long, and the text is all that they change. -/
theorem insertions_consecutive {k : Nat}
    (hk : Variable.ordinals (t.textAt target) = .ok (List.range' 1 k)) (m : Nat) :
    ((∃ after, t.insertions target m = .ok after) ↔
      m = 0 ∨ (Nat.toDigits 10 (k + m)).length ≤ Text.numeralLimit) ∧
    ∀ after, t.insertions target m = .ok after →
      Variable.ordinals (after.textAt target) = .ok (List.range' 1 (k + m)) ∧
        ∀ text, after.withTextAt target text = t.withTextAt target text := by
  -- Each insertion leaves consecutive ordinals, one more, so that the next one starts from such.
  induction m generalizing t k with
  | zero =>
    refine ⟨iff_of_true ⟨t, rfl⟩ (.inl rfl), fun after h => ?_⟩
    obtain rfl := Except.ok.inj h
    exact ⟨hk, fun _ => rfl⟩
  | succ m ih =>
    have hfirst := insertVariable_ok_iff hk
    have hcount : k + 1 + m = k + (m + 1) := by omega
    rw [insertions_succ]
    cases happly : t.apply (.insertVariable target) with
    | error failure =>
      rw [happly] at hfirst
      have htooLong : ¬ (Nat.toDigits 10 (k + (m + 1))).length ≤ Text.numeralLimit := by
        intro hlast
        obtain ⟨_, h⟩ := hfirst.mpr (length_toDigits_mono (by omega) hlast)
        cases h
      exact ⟨iff_of_false (fun ⟨_, h⟩ => nomatch h) (by simp [htooLong]), fun _ h => nomatch h⟩
    | ok next =>
      obtain ⟨n, hinserts⟩ := insertVariable_inserts happly
      obtain ⟨hrest, hafter⟩ := ih (hinserts.consecutive hk)
      rw [hcount] at hrest hafter
      refine ⟨?_, fun after h => ?_⟩
      · have hnext := hfirst.mp ⟨next, happly⟩
        rw [or_iff_right (Nat.succ_ne_zero m)]
        refine hrest.trans ⟨?_, .inr⟩
        rintro (rfl | hlast)
        · exact hnext
        · exact hlast
      · obtain ⟨hordinals, helsewhere⟩ := hafter after h
        refine ⟨hordinals, fun text => ?_⟩
        rw [helsewhere, hinserts.elsewhere, withTextAt_withTextAt]

/-- **An insertion extends the sequence of the variables.** It succeeds unless a numeral is too
long, which leaves an editor as it was. The new variable is the last token and the last ordinal of
the text, and nothing else is changed. Behind the ordinals 1, 2, …, k any number of insertions goes
on counting. -/
theorem insertion_extends (t : Template) (target : Target) :
    ((∃ failure, t.apply (.insertVariable target) = .error failure) ↔
      (∃ digits ∈ Variable.digitRuns (t.textAt target), Text.numeralLimit < digits.length) ∨
        ∃ n, Variable.nextOrdinal (t.textAt target) = .ok n ∧
          Text.numeralLimit < (Nat.toDigits 10 n).length) ∧
    (∀ (e : Editor) (c : Command) (failure : Failure), e.template = t →
      c.edit = .insertVariable target → t.apply (.insertVariable target) = .error failure →
      (e.dispatch (.ok c)).failure = some failure ∧ (e.dispatch (.ok c)).editor = e) ∧
    (∀ after, t.apply (.insertVariable target) = .ok after →
      (∃ n, t.Inserts target n after) ∧
      ∀ k, Variable.ordinals (t.textAt target) = .ok (List.range' 1 k) →
        Variable.ordinals (after.textAt target) = .ok (List.range' 1 (k + 1))) ∧
    ∀ k m, Variable.ordinals (t.textAt target) = .ok (List.range' 1 k) →
      ((∃ after, t.insertions target m = .ok after) ↔
        m = 0 ∨ (Nat.toDigits 10 (k + m)).length ≤ Text.numeralLimit) ∧
      ∀ after, t.insertions target m = .ok after →
        Variable.ordinals (after.textAt target) = .ok (List.range' 1 (k + m)) ∧
          ∀ text, after.withTextAt target text = t.withTextAt target text := by
  refine ⟨insertVariable_error_iff t target, ?_, ?_, fun k m hk => insertions_consecutive hk m⟩
  · rintro e c failure rfl hc h
    rw [dispatch_insertVariable_failed hc h]
    exact ⟨rfl, rfl⟩
  · intro after h
    obtain ⟨n, hinserts⟩ := insertVariable_inserts h
    exact ⟨⟨n, hinserts⟩, fun k hk => hinserts.consecutive hk⟩

/-- A template whose body text has a variable and ends in one that is cut short. -/
def cutShort : Template :=
  { orderUpdate with body := { text := "\x7b\x7b1\x7d\x7d: parcel \x7b\x7b2\x7d\x7b" } }

/-- Behind the braces of the one cut short three insertions are three more variables. -/
theorem insertion_extends_cutShort :
    ∃ after, cutShort.insertions .body 3 = .ok after ∧
      Variable.ordinals after.body.text = .ok [1, 2, 3, 4] ∧ after.header = none := by
  obtain ⟨_, _, _, hruns⟩ := insertion_extends cutShort .body
  have hone : Variable.ordinals (cutShort.textAt .body) = .ok (List.range' 1 1) := by rfl
  obtain ⟨hok, hafter⟩ := hruns 1 3 hone
  obtain ⟨after, h⟩ := hok.mpr (.inr (by decide))
  obtain ⟨hordinals, helsewhere⟩ := hafter after h
  exact ⟨after, h, hordinals, congrArg Template.header (helsewhere "")⟩

end Template

end MessageTemplate
