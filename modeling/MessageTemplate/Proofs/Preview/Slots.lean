import MessageTemplate.Preview
import MessageTemplate.Proofs.Edit.WellTyped
import MessageTemplate.Proofs.Validation.Admissible
import MessageTemplate.Proofs.Variable.Filling

/-!
# Samples in the preview of a valid template

The rules count the distinct variables of a text, the preview fills one slot after the other.

* `FilledFrom` — the slots of a text are filled from samples, by their position;
* `Sampled` — all of them are filled with samples;
* `Template.preview_of_valid` — a valid template has a preview, whose texts are filled from its
  samples; where there are samples enough, and none is blank, no placeholder is left;
* `Template.placeholder_left` — a variable that is repeated may leave one.
-/

set_option autoImplicit false

namespace MessageTemplate

/-! ## Slots -/

/-- What stands in the slot at a position: the sample there, and the placeholder if there is none or
an empty one. -/
structure FillsSlot (samples : List String) (position : Nat) (filling : String) : Prop where
  sample : ∀ sample ∈ samples[position]?, Text.isBlankText sample.toList = false → filling = sample
  placeholder : given? samples[position]? = none → filling = Variable.placeholder position

/-- The result is the text with its slots filled from samples, by their position. -/
def FilledFrom (samples : List String) (text result : String) : Prop :=
  ∃ fillings, Variable.FilledWith text fillings result ∧
    ∀ i filling, fillings[i]? = some filling → FillsSlot samples i filling

/-- The result is the text with all its slots filled with samples that are not blank. -/
def Sampled (samples : List String) (text result : String) : Prop :=
  ∃ fillings, Variable.FilledWith text fillings result ∧
    ∀ filling ∈ fillings, filling ∈ samples ∧ Text.isBlankText filling.toList = false

theorem fillsSlot_slotText (values : List String) (position : Nat) :
    FillsSlot values position (Variable.slotText values position) := by
  unfold Variable.slotText
  constructor
  · intro sample hsample hblank
    rw [hsample]
    have hne : sample.isEmpty = false := by
      rw [Bool.eq_false_iff, ne_eq, String.isEmpty_iff]
      rintro rfl
      cases hblank
    simp [hne]
  · intro hnone
    cases hvalue : values[position]? with
    | none => rfl
    | some v =>
      rw [hvalue] at hnone
      have hempty : v.isEmpty = true := by simpa [given?] using hnone
      simp [hempty]

theorem substitute_filledFrom (text : String) (values : List String) :
    FilledFrom values text (Variable.substitute text values) := by
  refine ⟨_, Variable.substitute_filledWith text values, fun i filling h => ?_⟩
  rw [Variable.getElem?_slotTexts h]
  exact fillsSlot_slotText values i

/-- Samples enough that are not blank leave no slot open. -/
theorem FilledFrom.sampled {samples : List String} {text result : String}
    (h : FilledFrom samples text result) (henough : (Variable.tokens text).length ≤ samples.length)
    (hsamples : ∀ sample ∈ samples.take (Variable.tokens text).length,
      Text.isBlankText sample.toList = false) : Sampled samples text result := by
  obtain ⟨fillings, hfilled, hslots⟩ := h
  refine ⟨fillings, hfilled, fun filling hmem => ?_⟩
  obtain ⟨i, hi, rfl⟩ := List.mem_iff_getElem.mp hmem
  have hcount : i < (Variable.tokens text).length := hfilled.1 ▸ hi
  have hsample : i < samples.length := hcount.trans_le henough
  have hblank := hsamples samples[i] (List.mem_take_iff_getElem.mpr
    ⟨i, lt_min hcount hsample, rfl⟩)
  have hsame : fillings[i] = samples[i] := (hslots i _ (List.getElem?_eq_getElem hi)).sample _
    (List.getElem?_eq_getElem hsample) hblank
  rw [hsame]
  exact ⟨List.getElem_mem hsample, hblank⟩

/-- An empty sample fills as if it were not there. -/
theorem FillsSlot.of_given {sample : Option String} {position : Nat} {filling : String}
    (h : FillsSlot (given? sample).toList position filling) :
    FillsSlot sample.toList position filling := by
  cases hgiven : given? sample with
  | some s =>
    obtain ⟨rfl, _⟩ := Option.filter_eq_some_iff.mp hgiven
    rwa [hgiven] at h
  | none =>
    rw [hgiven] at h
    refine ⟨fun s hs hblank => ?_, fun _ => h.placeholder rfl⟩
    obtain rfl : sample = some s := Option.mem_toList.mp (List.mem_of_getElem? hs)
    have hempty : s.isEmpty = true := by simpa [given?] using hgiven
    rw [String.isEmpty_iff.mp hempty] at hblank
    cases hblank

theorem Header.filledFrom_sample (h : Header) :
    FilledFrom h.sample.toList h.text (Variable.substitute h.text (h.valuesFor none)) := by
  obtain ⟨fillings, hfilled, hslots⟩ := substitute_filledFrom h.text (h.valuesFor none)
  exact ⟨fillings, hfilled, fun i filling hfilling => (hslots i filling hfilling).of_given⟩

namespace Header

variable {h : Header}

/-- A text header with which nothing is wrong has a text with one variable at most, and a sample for
it. -/
theorem Admissible.text (ha : h.Admissible) (hformat : h.format? = some .text) :
    h.text.isEmpty = false ∧ (Variable.tokens h.text).length ≤ 1 ∧
      (Variable.tokens h.text ≠ [] → (given? h.sample).isSome = true) := by
  unfold Admissible at ha
  rw [hformat] at ha
  obtain ⟨hpos, _, hvariables⟩ := ha
  refine ⟨?_, ?_, fun hne => (hvariables.resolve_left hne).2.2⟩
  · rw [Bool.eq_false_iff, ne_eq, String.isEmpty_iff, ← String.length_eq_zero_iff]
    omega
  · rcases hvariables with hnone | honce
    · simp [hnone]
    · exact honce.1.le

/-- The only sample of a header is enough for the only variable. -/
theorem sampled_of_text (hfew : (Variable.tokens h.text).length ≤ 1)
    (hsome : Variable.tokens h.text ≠ [] → (given? h.sample).isSome = true)
    (hblank : ∀ sample ∈ h.sample, Text.isBlankText sample.toList = false) :
    Sampled h.sample.toList h.text (Variable.substitute h.text (h.valuesFor none)) := by
  refine h.filledFrom_sample.sampled ?_ fun sample hsample => ?_
  · by_cases hne : Variable.tokens h.text = []
    · simp [hne]
    · obtain ⟨sample, hsample⟩ := Option.isSome_iff_exists.mp (hsome hne)
      obtain ⟨hsample, _⟩ := Option.filter_eq_some_iff.mp hsample
      simpa [hsample] using hfew
  · exact hblank sample (Option.mem_toList.mp (List.mem_of_mem_take hsample))

end Header

/-! ## Previews of valid templates -/

namespace Template

variable {t : Template}

/-- The buttons that an admissible template shows can be shown. -/
theorem AdmissibleButtons.wellTyped (h : t.AdmissibleButtons) :
    ∀ b ∈ t.shownButtons, b.WellTyped := by
  intro b hb
  unfold shownButtons at hb
  split at hb
  · rename_i set hset
    split at hb
    · rename_i hon
      exact ((h set hset hon (List.ne_nil_of_mem hb)).each b hb).wellTyped
    · cases hb
  · cases hb

/-- **The texts of a valid template are filled from its samples.** A slot takes the sample at its
position, and the placeholder only where this is missing or empty. There is a sample for each of the
distinct variables of the body, and one for the only variable of a header. With samples enough for
all slots, none of them blank, every slot holds a sample. -/
theorem preview_of_valid (h : t.Valid) :
    ∃ p, t.preview = .ok p ∧
      FilledFrom t.body.samples t.body.text p.body.text ∧
      (∃ ordinals, Variable.ordinals t.body.text = .ok ordinals ∧
        ordinals.length ≤ t.body.samples.length) ∧
      ((Variable.tokens t.body.text).length ≤ t.body.samples.length →
        (∀ sample ∈ t.body.samples.take (Variable.tokens t.body.text).length,
          Text.isBlankText sample.toList = false) →
        Sampled t.body.samples t.body.text p.body.text) ∧
      ∀ header ∈ t.header, header.enabled = true → header.format? = some .text →
        ∃ text, (∃ shown ∈ p.header, shown.text = some text) ∧
          FilledFrom header.sample.toList header.text text ∧
          (Variable.tokens header.text).length ≤ 1 ∧
          (Variable.tokens header.text ≠ [] → (given? header.sample).isSome = true) ∧
          ((∀ sample ∈ header.sample, Text.isBlankText sample.toList = false) →
            Sampled header.sample.toList header.text text) := by
  obtain ⟨_, hcontent, hbuttons⟩ := valid_review_iff.mp h
  obtain ⟨p, hp⟩ : ∃ p, t.preview = .ok p := preview_ok_iff.mpr hbuttons.wellTyped
  obtain ⟨hheader, hbody, _, _⟩ := preview_parts hp
  have hfilled : FilledFrom t.body.samples t.body.text p.body.text := by
    rw [hbody]
    exact substitute_filledFrom _ _
  obtain ⟨k, hordinals, hk⟩ := hcontent.body.sampled
  refine ⟨p, hp, hfilled, ⟨_, hordinals, List.length_range'.trans_le hk⟩, hfilled.sampled, ?_⟩
  intro header hmem hon hformat
  obtain ⟨hnonempty, hfew, hsome⟩ := (hcontent.header header hmem hon).text hformat
  have hshown : ∃ shown ∈ p.header,
      shown.text = some (Variable.substitute header.text (header.valuesFor none)) := by
    rw [hheader, hmem]
    simp [Header.preview, hon, hformat, Header.textPreview, hnonempty]
  exact ⟨_, hshown, header.filledFrom_sample, hfew, hsome, Header.sampled_of_text hfew hsome⟩

/-- A template with one variable in the header and two in the body. -/
def orderReady : Template :=
  { orderUpdate with
    header := some { enabled := true, text := "Hello {{1}}", sample := some "Ana" }
    body := ⟨"Order {{2}} of {{1}} is ready.", ["#42", "May 3"]⟩ }

theorem preview_of_valid_orderReady :
    orderReady.Valid ∧ ∃ p, orderReady.preview = .ok p ∧
      p.body.text = "Order #42 of May 3 is ready." ∧
      Sampled ["#42", "May 3"] "Order {{2}} of {{1}} is ready." p.body.text ∧
      ∃ shown ∈ p.header, Sampled ["Ana"] "Hello {{1}}" (shown.text.getD "") := by
  have hvalid : orderReady.Valid := ⟨_, rfl, by decide +kernel⟩
  obtain ⟨p, hp, _, _, hbody, hheader⟩ := preview_of_valid hvalid
  have htext : p.body.text = "Order #42 of May 3 is ready." := by
    rw [(preview_parts hp).2.1]
    decide +kernel
  refine ⟨hvalid, p, hp, htext, hbody (by decide +kernel) (by decide +kernel), ?_⟩
  obtain ⟨text, ⟨shown, hshown, hshownText⟩, _, _, _, hsampled⟩ := hheader _ rfl rfl rfl
  refine ⟨shown, hshown, ?_⟩
  rw [hshownText]
  exact hsampled (by decide)

/-! ## Repeated variables -/

/-- A template with one variable that stands twice in the body. -/
def repeatedVariable : Template :=
  { orderUpdate with body := ⟨"{{1}} and {{1}} again", ["a"]⟩ }

/-- **A placeholder is left in the preview of a valid template**: one sample is enough for the
variable, but the second slot finds none. -/
theorem placeholder_left :
    repeatedVariable.Valid ∧ ∃ p, repeatedVariable.preview = .ok p ∧
      p.body.text = "a and " ++ Variable.placeholder 1 ++ " again" ∧
      ¬ Sampled repeatedVariable.body.samples repeatedVariable.body.text p.body.text := by
  refine ⟨⟨_, rfl, by decide +kernel⟩, _, rfl, by decide +kernel, ?_⟩
  rintro ⟨fillings, ⟨hcount, gaps, hgaps, hresult⟩, hsamples⟩
  have htokens : Variable.tokens repeatedVariable.body.text = ["{{1}}", "{{1}}"] := by
    decide +kernel
  rw [htokens] at hcount
  have hfillings : fillings = ["a", "a"] := by
    have hall := List.eq_replicate_of_mem fun filling hmem =>
      List.mem_singleton.mp (hsamples filling hmem).1
    rwa [hcount] at hall
  -- With samples in both slots the text would be shorter.
  have hwritten := congrArg List.length hgaps.text
  have hfilled := congrArg List.length hresult
  rw [htokens, Variable.length_weave] at hwritten
  rw [hfillings, Variable.length_weave] at hfilled
  have hwrittenLength : repeatedVariable.body.text.toList.length = 21 := by decide +kernel
  have hfilledLength : (repeatedVariable.body.preview none).text.toList.length = 24 := by
    decide +kernel
  simp at hwritten hfilled
  omega

end Template

end MessageTemplate
