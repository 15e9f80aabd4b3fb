import MessageTemplate.Proofs.Edit.Details
import MessageTemplate.Proofs.Edit.Place

/-!
# Edits that put a value at a place

* `Template.rename_eq_ok_iff`, `Template.removeButton_eq_ok_iff`,
  `Template.setButtonField_eq_ok_iff`, `Template.setSample_eq_ok_iff` — when the edits that can fail
  succeed, and what they then make;
* `Template.setSample_eq` — the one way in which the samples cannot be filled up;
* `Place.edit` — the edit for a place and a value;
* `Template.Takes` — the template takes the value there;
* `Template.apply_edit_iff` — the edit succeeds exactly if it does, and puts the value there.
-/

set_option autoImplicit false

namespace MessageTemplate

/-- The names of a button field in edits and paths. -/
def ButtonField.names : ButtonField → List String
  | .kind => ["type"]
  | .text => ["text"]
  | .url => ["url"]
  | .phoneNumber => ["phone_number", "phoneNumber"]
  | .sample => ["example"]

theorem ButtonField.ofName?_eq_some_iff {name : String} {f : ButtonField} :
    ofName? name = some f ↔ name ∈ f.names := by
  constructor
  · intro h
    unfold ofName? at h
    split at h <;> cases h <;> decide
  · cases f <;> simp only [names, List.mem_cons, List.not_mem_nil, or_false]
    case phoneNumber => rintro (rfl | rfl) <;> rfl
    all_goals
      rintro rfl
      rfl

/-- The first name of a button field. -/
def ButtonField.name (f : ButtonField) : String := f.names.headD ""

theorem ButtonField.name_mem (f : ButtonField) : f.name ∈ f.names := by
  cases f <;> decide

theorem ButtonField.eq_of_name_mem {f g : ButtonField} (h : f.name ∈ g.names) : f = g := by
  revert h
  cases f <;> cases g <;> decide

/-- The buttons without one of them; without the last one they are off. -/
def ButtonSet.without (set : ButtonSet) (i : Nat) : ButtonSet :=
  { set with
    items := set.items.eraseIdx i
    enabled := !(set.items.eraseIdx i).isEmpty && set.enabled }

namespace Template

variable {t after : Template}

theorem rename_eq_ok_iff {name : String} :
    t.rename name = .ok after ↔
      (t.id = none ∨ name = t.name) ∧ after = { t with name := name } := by
  constructor
  · intro h
    exact (rename_eq_ok h).symm
  · rintro ⟨hfree, rfl⟩
    refine if_neg fun hfixed => ?_
    simp only [isPersisted, Bool.and_eq_true, Option.isSome_iff_ne_none, bne_iff_ne] at hfixed
    exact hfree.elim hfixed.1 hfixed.2

theorem buttonAt_eq_ok_iff {index : Int} {i : Nat} :
    t.buttonAt index = .ok i ↔ index = i ∧ i < t.buttonsOrDefault.items.length := by
  unfold buttonAt
  simp only [Bool.and_eq_true, decide_eq_true_eq]
  split
  · rw [Except.ok.injEq]
    omega
  · simp only [reduceCtorEq, false_iff]
    omega

/-- A button is removed exactly if the position is one of a button. -/
theorem removeButton_eq_ok_iff {index : Int} : t.removeButton index = .ok after ↔
    ∃ i : Nat, index = i ∧ i < t.buttonsOrDefault.items.length ∧
      after = t.mapButtons (·.without i) := by
  unfold removeButton
  cases hat : t.buttonAt index with
  | error e =>
    simp only [reduceCtorEq, false_iff]
    rintro ⟨i, hindex, hi, _⟩
    rw [buttonAt_eq_ok_iff.mpr ⟨hindex, hi⟩] at hat
    cases hat
  | ok i =>
    obtain ⟨rfl, hi⟩ := buttonAt_eq_ok_iff.mp hat
    rw [Except.ok.injEq]
    constructor
    · rintro rfl
      exact ⟨i, rfl, hi, rfl⟩
    · rintro ⟨j, hij, _, rfl⟩
      cases Int.ofNat.inj hij
      rfl

/-- A field of a button is set exactly if the name is one of a field and the position one of a
button. -/
theorem setButtonField_eq_ok_iff {index : Int} {name : String} {v : Option String} :
    t.setButtonField index name v = .ok after ↔
      ∃ (i : Nat) (f : ButtonField), index = i ∧ i < t.buttonsOrDefault.items.length ∧
        name ∈ f.names ∧ after = t.put (.button i f) v := by
  unfold setButtonField
  simp only [← ButtonField.ofName?_eq_some_iff]
  cases hat : t.buttonAt index with
  | error e =>
    simp only [reduceCtorEq, false_iff]
    rintro ⟨i, f, hindex, hi, _⟩
    rw [buttonAt_eq_ok_iff.mpr ⟨hindex, hi⟩] at hat
    cases hat
  | ok i =>
    obtain ⟨rfl, hi⟩ := buttonAt_eq_ok_iff.mp hat
    cases ButtonField.ofName? name with
    | none => simp
    | some f =>
      simp only [Except.ok.injEq]
      constructor
      · rintro rfl
        exact ⟨i, f, rfl, hi, rfl, rfl⟩
      · rintro ⟨j, g, hij, _, hg, rfl⟩
        cases Int.ofNat.inj hij
        cases hg
        rfl

/-- The samples are filled up exactly if the missing ones can be counted. -/
theorem setSample_eq (samples : List String) (i : Nat) (v : String) : setSample samples i v =
    if i - samples.length < countableLength then .ok (putSample samples i v)
    else .error .uncountable := by
  have hcountable : 0 < countableLength := by decide
  unfold setSample putSample
  dsimp only
  split
  · rename_i hi
    rw [Nat.sub_eq_zero_of_le (Nat.le_of_lt hi), if_pos hcountable]
  · split
    · rename_i hmany
      rw [if_neg (Nat.not_lt.mpr hmany)]
    · rename_i hfew
      rw [if_pos (Nat.not_le.mp hfew)]

theorem setSample_eq_ok_iff {samples samples' : List String} {i : Nat} {v : String} :
    setSample samples i v = .ok samples' ↔
      i - samples.length < countableLength ∧ samples' = putSample samples i v := by
  rw [setSample_eq]
  split
  · rename_i hfew
    rw [Except.ok.injEq, and_iff_right hfew, eq_comm]
  · rename_i hmany
    exact iff_of_false nofun fun h => hmany h.1

end Template

/-- The edit that puts a value at a place. -/
def Place.edit : (p : Place) → p.Value → Edit
  | .name, v => .setName v
  | .language, v => .setLanguage v
  | .category, v => .setCategory v
  | .header .enabled, v => .setHeaderEnabled v
  | .header .format, v => .setHeaderFormat v
  | .header .text, v => .setHeaderText v
  | .header .sample, v => .setHeaderSample v
  | .header .mediaUrl, v => .setHeaderMedia { url := some v }
  | .header .mediaHandle, v => .setHeaderMedia { handle := some v }
  | .header .filename, v => .setHeaderMedia { filename := some v }
  | .bodyText, v => .setBodyText v
  | .sample i, v => .setBodySample i v
  | .footer .enabled, v => .setFooterEnabled v
  | .footer .text, v => .setFooterText v
  | .buttonsEnabled, v => .setButtonsEnabled v
  | .button i f, v => .setButtonField i f.name v

namespace Template

/-- The template takes the value at the place: its name may be fixed, the samples before a position
may be too many, and there may be no button. -/
def Takes (t : Template) : (p : Place) → p.Value → Prop
  | .name, v => t.id = none ∨ v = t.name
  | .sample i, _ => i - t.body.samples.length < countableLength
  | .button i _, _ => i < t.buttonsOrDefault.items.length
  | _, _ => True

variable {t after : Template} {p q : Place}

theorem Takes.hasRoom {v : p.Value} (h : t.Takes p v) : t.HasRoom p := by
  cases p with
  | button i f => exact h
  | _ => trivial

/-- What is put at a place does not keep a template from taking a value at another one. -/
theorem Takes.put {v : p.Value} {w : q.Value} (h : t.Takes q w) (hne : p ≠ q) :
    (t.put p v).Takes q w := by
  cases p <;> cases q <;> try exact h
  case name.name => exact absurd rfl hne
  case sample.sample i j =>
    refine Nat.lt_of_le_of_lt ?_ h
    show j - (putSample t.body.samples i v).length ≤ j - t.body.samples.length
    rw [length_putSample]
    omega
  case button.button i f j g =>
    show j < (t.buttonsOrDefault.items.modify i _).length
    rwa [List.length_modify]

theorem liftEdit_eq_ok_iff {r : Except EditError Template} : liftEdit r = .ok t ↔ r = .ok t := by
  refine ⟨liftEdit_eq_ok, ?_⟩
  rintro rfl
  rfl

/-- **The edit of a place succeeds exactly if the template takes the value, which is put there.** -/
theorem apply_edit_iff (v : p.Value) :
    t.apply (p.edit v) = .ok after ↔ t.Takes p v ∧ after = t.put p v := by
  have hok : ∀ r : Template, (Except.ok r : Except Failure Template) = .ok after ↔
      True ∧ after = r := by
    intro r
    rw [Except.ok.injEq, true_and, eq_comm]
  cases p with
  | name => exact liftEdit_eq_ok_iff.trans rename_eq_ok_iff
  | header f => cases f <;> exact hok _
  | footer f => cases f <;> exact hok _
  | sample i =>
    show (setSample t.body.samples i v).map _ = .ok after ↔ _
    constructor
    · intro h
      cases hset : setSample t.body.samples i v with
      | error e =>
        rw [hset] at h
        cases h
      | ok samples =>
        rw [hset] at h
        obtain ⟨htakes, rfl⟩ := setSample_eq_ok_iff.mp hset
        exact ⟨htakes, (Except.ok.inj h).symm⟩
    · rintro ⟨htakes, rfl⟩
      rw [setSample_eq_ok_iff.mpr ⟨htakes, rfl⟩]
      rfl
  | button i f =>
    refine liftEdit_eq_ok_iff.trans (setButtonField_eq_ok_iff.trans ?_)
    constructor
    · rintro ⟨j, g, hij, hj, hg, rfl⟩
      cases Int.ofNat.inj hij
      obtain rfl := ButtonField.eq_of_name_mem hg
      exact ⟨hj, rfl⟩
    · rintro ⟨hi, rfl⟩
      exact ⟨i, f, rfl, hi, f.name_mem, rfl⟩
  | _ => exact hok _

end Template

end MessageTemplate
