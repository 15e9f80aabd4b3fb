import MessageTemplate.Proofs.Lenient.Reported
import MessageTemplate.Proofs.Validation.Addressed
import MessageTemplate.Proofs.Validation.Buttons
import MessageTemplate.Proofs.Validation.Locality

/-!
# The entry of a list of buttons that a report blames

* `Button.FoundAtOnce`, `Button.FoundLater` — what is wrong with an entry and is found in the first
  round, and what is found when the entries that do not fit are gone;
* `Template.meets_position_iff`, `Template.breaksRule_position_iff` — the values that do not fit, and
  the buttons that break a rule, under the dotted name of a position;
* `Data.blamed_position` — which entry the errors under a position are about.

What is found later is numbered among the entries that are objects. The position is that of the entry
in the list only if the entries before it all are.
-/

set_option autoImplicit false

namespace MessageTemplate

namespace Button

/-- Something in the entry, or the entry itself, does not fit and is met in the first round. -/
def FoundAtOnce (d : Data) : Prop := ∃ v, Button.shape.Meets d v ∧ v.round = 0

/-- Something in the entry does not fit and is met in a later round, or what is left of the entry
breaks a rule, if rules are applied. -/
def FoundLater (applied : Bool) (category : String) (ms : Members) : Prop :=
  (∃ v, Button.shape.Meets (.object ms) v ∧ v.round ≠ 0) ∨
    (applied = true ∧ ¬(Button.salvage ms).InOrder category)

/-- Something is wrong with the entry: it does not fit, or something in it does not, or what is left
of it breaks a rule. -/
inductive AtFault (category : String) : Data → Prop where
  | misfit {d : Data} {v : Misfit} (h : Button.shape.Meets d v) : AtFault category d
  | rule {ms : Members} (h : ¬(Button.salvage ms).InOrder category) : AtFault category (.object ms)

end Button

/-! ## Values that do not fit -/

/-- A part of which every member has one spelling has the misfits of its members, as they are. -/
theorem Shape.meets_part_iff {name : String} {members : List (List String)}
    {shapeOf : List String → Shape} (hsingle : ∀ names ∈ members, names.length = 1) {ms : Members}
    {v : Misfit} : (Shape.part name members shapeOf).Meets (.object ms) v ↔
      ∃ s d w, [s] ∈ members ∧ ms.counted? s = some d ∧ (shapeOf [s]).Meets d w ∧
        v = w.inMember s := by
  constructor
  · intro h
    cases h with
    | whole h => cases h
    | @member _ _ _ _ before after s d w hmember hbefore hd h =>
      obtain ⟨s', hs'⟩ := List.length_eq_one_iff.mp (hsingle _ hmember)
      obtain ⟨rfl, rfl, rfl⟩ : before = [] ∧ s = s' ∧ after = [] := by
        cases before with
        | nil => simpa using hs'
        | cons first before => simp at hs'
      exact ⟨s, d, w, hmember, hd, h, rfl⟩
  · rintro ⟨s, d, w, hmember, hd, h, rfl⟩
    have hmember' : [] ++ s :: [] ∈ members := hmember
    exact Shape.Meets.member hmember' nofun hd h

namespace Location

/-- The dotted name of a location in an entry goes on from the position of the entry. -/
theorem fieldName_entry (i : Nat) (rest : Location) :
    ∃ more, fieldName (.name "buttons" :: .name "items" :: .index i :: rest) =
        Button.fieldAt i ++ more ∧ GoesOn more := by
  have hstart : [Key.name "items", .index i].foldl extendName "buttons" = Button.fieldAt i := by
    show "buttons" ++ "." ++ reportedName "items" ++ "[" ++ toString (i : Int) ++ "]" = _
    rfl
  have hnonempty : Button.fieldAt i ≠ "" := by
    intro h
    have hchars := congrArg String.toList h
    rw [Button.toList_fieldAt] at hchars
    cases hchars
  obtain ⟨more, hmore, hgoesOn⟩ := foldl_extendName rest hnonempty
  refine ⟨more, ?_, hgoesOn⟩
  rw [fieldName_eq (by decide), ← hmore, ← hstart]
  rfl

/-- The dotted name under a position begins with the name of the list. -/
theorem prefix_of_concerns_fieldAt {i : Nat} {field : String}
    (h : Report.concerns (Button.fieldAt i) field = true) :
    "buttons.items[".toList <+: field.toList := by
  have hprefix := Report.prefix_of_concerns h
  rw [Button.toList_fieldAt] at hprefix
  exact (List.prefix_append _ _).trans hprefix

theorem rootOf_concerns_fieldAt {i : Nat} {field : String}
    (h : Report.concerns (Button.fieldAt i) field = true) : rootOf field = "buttons" := by
  obtain ⟨rest, hrest⟩ := prefix_of_concerns_fieldAt h
  have hmore : (String.ofList ('.' :: ("items[".toList ++ rest))).toList =
      '.' :: ("items[".toList ++ rest) := String.toList_ofList
  have hfield : field = "buttons" ++ String.ofList ('.' :: ("items[".toList ++ rest)) := by
    rw [← String.toList_inj, ← hrest, String.toList_append, hmore]
    rfl
  rw [hfield, rootOf_append "buttons" (goesOn_of_toList hmore (.inl rfl))]
  decide

end Location

section Position

variable {ms bs : Members} {items : List Data} {i : Nat}

/-- A misfit of an entry is under the position where it stands. -/
theorem concerns_entry_iff {j k : Nat} {w : Misfit} :
    Report.concerns (Button.fieldAt i)
        (((w.inEntry j k).inMember "items").inMember "buttons").fault.toIssue.field = true ↔
      i = if w.round = 0 then j else k := by
  have hname : ∀ n : Nat, Report.concerns (Button.fieldAt i) (Location.fieldName
      (.name "buttons" :: .name "items" :: .index n :: w.standing)) = true ↔ i = n := by
    intro n
    obtain ⟨more, hmore, hgoesOn⟩ := Location.fieldName_entry n w.standing
    rw [hmore, Button.concerns_fieldAt_append_iff hgoesOn]
  by_cases hround : w.round = 0
  · rw [if_pos hround, ← hname j]
    simp [Misfit.inMember, Misfit.inEntry, Misfit.fault, Fault.toIssue, hround]
  · rw [if_neg hround, ← hname k]
    simp [Misfit.inMember, Misfit.inEntry, Misfit.fault, Fault.toIssue, hround]

/-- **The values that do not fit under a position** are those of the entry there, if they are met in
the first round, and otherwise those of the entry with as many objects before it. -/
theorem Template.meets_position_iff (hbuttons : ms.lookup "buttons" = some (.object bs))
    (hitems : bs.lookup "items" = some (.list items)) :
    (∃ v, Template.shape.Meets (.object ms) v ∧
      Report.concerns (Button.fieldAt i) v.fault.toIssue.field = true) ↔
    ∃ before d after w, items = before ++ d :: after ∧ Button.shape.Meets d w ∧
      (if w.round = 0 then before.length else before.countP Button.shape.fits) = i := by
  have hsets := Members.counted?_eq_some.mpr ⟨hbuttons, rfl⟩
  have hlists := Members.counted?_eq_some.mpr ⟨hitems, rfl⟩
  constructor
  · rintro ⟨v, hv, hconcerns⟩
    obtain ⟨s, d, w, hs, hd, hw, rfl⟩ := (Shape.meets_part_iff (by decide)).mp hv
    have hmember : s ∈ Template.memberNames := by simpa [Template.memberNames] using hs
    have hroot := Location.rootOf_concerns_fieldAt hconcerns
    obtain rfl : s = "buttons" := (rootOf_fieldName hmember w.standing).symm.trans hroot
    obtain rfl := Option.some.inj (hsets.symm.trans hd)
    obtain ⟨s, d, u, hs, hd, hu, rfl⟩ := (Shape.meets_part_iff (by decide)).mp hw
    have hs : s = "enabled" ∨ s = "items" := by simpa using hs
    rcases hs with rfl | rfl
    · -- What is wrong with the switch of the list is under no position.
      change Shape.truth.Meets d u at hu
      cases hu
      have henabled : Report.concerns (Button.fieldAt i) "buttons.enabled" = true := hconcerns
      exact absurd (Location.prefix_of_concerns_fieldAt henabled) (by decide)
    · obtain rfl := Option.some.inj (hlists.symm.trans hd)
      change (Shape.list Button.shape).Meets (.list items) u at hu
      cases hu with
      | whole h => cases h
      | @entry _ before after d w h =>
        exact ⟨before, d, after, w, rfl, h, (concerns_entry_iff.mp hconcerns).symm⟩
  · rintro ⟨before, d, after, w, rfl, hw, rfl⟩
    have hlist : (Shape.list Button.shape).Meets (.list (before ++ d :: after)) _ :=
      Shape.Meets.entry hw
    have hset : ButtonSet.shape.Meets (.object bs) _ :=
      (Shape.meets_part_iff (by decide)).mpr ⟨"items", _, _, by decide, hlists, hlist, rfl⟩
    have htemplate : Template.shape.Meets (.object ms) _ :=
      (Shape.meets_part_iff (by decide)).mpr ⟨"buttons", _, _, by decide, hsets, hset, rfl⟩
    exact ⟨_, htemplate, concerns_entry_iff.mpr rfl⟩

/-! ## Rules -/

theorem Button.isSome_part? (d : Data) :
    (Data.part? Button.salvage d).isSome = Button.shape.fits d := by
  cases d <;> rfl

/-- The entry at a position among those that come to something has as many of these before it. -/
theorem getElem?_filterMap_iff {α β : Type} {f : α → Option β} {l : List α} {b : β} :
    (l.filterMap f)[i]? = some b ↔ ∃ before a after, l = before ++ a :: after ∧
      before.countP (fun a => (f a).isSome) = i ∧ f a = some b := by
  induction l generalizing i with
  | nil => simp
  | cons first rest ih =>
    cases hfirst : f first with
    | none =>
      rw [List.filterMap_cons_none hfirst, ih]
      constructor
      · rintro ⟨before, a, after, rfl, hcount, ha⟩
        exact ⟨first :: before, a, after, rfl, by simpa [hfirst] using hcount, ha⟩
      · rintro ⟨before, a, after, hl, hcount, ha⟩
        cases before with
        | nil =>
          obtain ⟨rfl, rfl⟩ := List.cons.inj hl
          rw [hfirst] at ha
          cases ha
        | cons head before =>
          obtain ⟨rfl, rfl⟩ := List.cons.inj hl
          exact ⟨before, a, after, rfl, by simpa [hfirst] using hcount, ha⟩
    | some c =>
      rw [List.filterMap_cons_some hfirst]
      constructor
      · intro hb
        cases i with
        | zero =>
          obtain rfl := Option.some.inj hb
          exact ⟨[], first, rest, rfl, rfl, hfirst⟩
        | succ i =>
          obtain ⟨before, a, after, rfl, hcount, ha⟩ := ih.mp hb
          exact ⟨first :: before, a, after, rfl, by simpa [hfirst] using hcount, ha⟩
      · rintro ⟨before, a, after, hl, hcount, ha⟩
        cases before with
        | nil =>
          obtain ⟨rfl, rfl⟩ := List.cons.inj hl
          cases hcount
          exact hfirst.symm.trans ha
        | cons head before =>
          obtain ⟨rfl, rfl⟩ := List.cons.inj hl
          simp only [List.countP_cons, hfirst, Option.isSome_some, if_true] at hcount
          subst hcount
          exact ih.mpr ⟨before, a, after, rfl, rfl, ha⟩

/-- **The rules under a position** are those on the button that is left of the entry with as many
objects before it. -/
theorem Template.breaksRule_position_iff (hbuttons : ms.lookup "buttons" = some (.object bs))
    (hitems : bs.lookup "items" = some (.list items)) :
    (∃ f ∈ (Template.salvage ms).buttonFindings, f.severity = .error ∧
      Report.concerns (Button.fieldAt i) f.issue.field = true) ↔
    (ButtonSet.salvage bs).enabled = true ∧ ∃ before ms' after,
      items = before ++ .object ms' :: after ∧ before.countP Button.shape.fits = i ∧
        ¬(Button.salvage ms').InOrder (Template.salvage ms).category := by
  have hset : (Template.salvage ms).buttons = some (ButtonSet.salvage bs) := by
    simp [Template.salvage, Members.fitting?, hbuttons, Data.part?]
  have hleft : (ButtonSet.salvage bs).items = items.filterMap (Data.part? Button.salvage) := by
    simp [ButtonSet.salvage, Members.fitting?, hitems, Data.list?]
  have hposition : (∃ before ms' after, items = before ++ .object ms' :: after ∧
      before.countP Button.shape.fits = i ∧
        ¬(Button.salvage ms').InOrder (Template.salvage ms).category) ↔
      ∃ b, (ButtonSet.salvage bs).items[i]? = some b ∧
        ¬b.InOrder (Template.salvage ms).category := by
    simp only [hleft, getElem?_filterMap_iff, Button.isSome_part?]
    constructor
    · rintro ⟨before, ms', after, hl, hcount, hrule⟩
      exact ⟨_, ⟨before, _, after, hl, hcount, rfl⟩, hrule⟩
    · rintro ⟨b, ⟨before, d, after, hl, hcount, hd⟩, hrule⟩
      cases d with
      | object ms' =>
        cases hd
        exact ⟨before, ms', after, hl, hcount, hrule⟩
      | _ => cases hd
  rw [hposition]
  unfold buttonFindings
  rw [hset]
  cases henabled : (ButtonSet.salvage bs).enabled with
  | false => simp [Finding.onlyIf, henabled]
  | true =>
    cases hcs : (ButtonSet.salvage bs).items with
    | nil => simp [Finding.onlyIf, hcs]
    | cons b rest =>
      rw [← hcs, ← ButtonSet.errorsFor_shownFindings_iff, Report.errorsFor_ofFindings_ne_nil_iff]
      simp [Finding.onlyIf, henabled, hcs]

/-! ## Reports -/

/-- The rules on the details and on the content say nothing under a position. -/
theorem Template.concerns_findings_iff {t : Template} {step : Step}
    (hstep : step = .buttons ∨ step = .review) {fs : List Finding} (hfs : t.findings step = .ok fs) :
    (∃ f ∈ fs, f.severity = .error ∧
      Report.concerns (Button.fieldAt i) f.issue.field = true) ↔
    ∃ f ∈ t.buttonFindings, f.severity = .error ∧
      Report.concerns (Button.fieldAt i) f.issue.field = true := by
  have hother : ∀ {fields : List String} {gs : List Finding}, Finding.Within fields gs →
      (∀ field ∈ fields, ¬"buttons.items[".toList <+: field.toList) →
        ∀ f ∈ gs, ¬Report.concerns (Button.fieldAt i) f.issue.field = true := by
    intro fields gs hwithin hfields f hf hconcerns
    exact hfields _ (hwithin f hf) (Location.prefix_of_concerns_fieldAt hconcerns)
  rcases hstep with rfl | rfl
  · cases hfs
    rfl
  · cases hcontent : t.contentFindings with
    | error e =>
      rw [findings, hcontent] at hfs
      cases hfs
    | ok onContent =>
      rw [findings, hcontent] at hfs
      cases hfs
      have hdetails := hother (within_detailFindings t) (by decide)
      have honContent := hother (within_contentFindings hcontent) (by decide)
      constructor
      · rintro ⟨f, hf, hseverity, hconcerns⟩
        rcases List.mem_append.mp hf with hf | hf
        · rcases List.mem_append.mp hf with hf | hf
          · exact absurd hconcerns (hdetails f hf)
          · exact absurd hconcerns (honContent f hf)
        · exact ⟨f, hf, hseverity, hconcerns⟩
      · rintro ⟨f, hf, hseverity, hconcerns⟩
        exact ⟨f, List.mem_append_right _ hf, hseverity, hconcerns⟩

/-- The errors under a position are those of values that do not fit and those of rules. -/
theorem Data.errorsFor_position_iff (hnames : (Data.object ms).namesOnce = true) {step : Step}
    (hstep : step = .buttons ∨ step = .review) {r : Report}
    (hr : (Data.object ms).validate (.ofNat step.number) = .ok r) :
    r.errorsFor (Button.fieldAt i) ≠ [] ↔
      (∃ v, Template.shape.Meets (.object ms) v ∧
        Report.concerns (Button.fieldAt i) v.fault.toIssue.field = true) ∨
      ∃ f ∈ (Template.salvage ms).buttonFindings, f.severity = .error ∧
        Report.concerns (Button.fieldAt i) f.issue.field = true := by
  obtain ⟨values, hvalues, hread⟩ := Template.readLenient_misfits hnames
  rw [Data.validate_number, Data.report] at hr
  rcases Data.recover_cases (.object ms) with ⟨_, _, _, hdeep⟩ | ⟨_, hrecover⟩
  · rw [hdeep] at hr
    cases hr
  · rw [hrecover, hread] at hr
    simp only [Template.reportAfter] at hr
    cases hfs : (Template.salvage ms).findings step with
    | error e =>
      rw [hfs] at hr
      cases hr
    | ok fs =>
      rw [hfs] at hr
      cases hr
      rw [Report.errorsFor_ofFindings_ne_nil_iff, ← Template.concerns_findings_iff hstep hfs]
      simp only [List.mem_append, or_and_right, exists_or]
      refine or_congr ?_ Iff.rfl
      constructor
      · rintro ⟨_, hf, _, hconcerns⟩
        obtain ⟨issue, hissue, rfl⟩ := List.mem_map.mp hf
        obtain ⟨v, hv, rfl⟩ := List.mem_map.mp (List.mem_of_mem_filter hissue)
        exact ⟨v, Shape.mem_misfits_iff.mp (hvalues.mem_iff.mp hv), hconcerns⟩
      · rintro ⟨v, hv, hconcerns⟩
        have hmem : v.fault.toIssue ∈ values.map fun v => v.fault.toIssue :=
          List.mem_map.mpr ⟨v, hvalues.mem_iff.mpr (Shape.mem_misfits_iff.mpr hv), rfl⟩
        have howns : step.owns v.fault.toIssue.field = true := by
          unfold Step.owns
          rw [Location.rootOf_concerns_fieldAt hconcerns]
          rcases hstep with rfl | rfl <;> decide
        exact ⟨_, List.mem_map.mpr ⟨_, List.mem_filter.mpr ⟨hmem, howns⟩, rfl⟩, rfl, hconcerns⟩

/-- What is met later in an entry is met in an object. -/
theorem Button.object_of_meets_later {d : Data} {w : Misfit} (h : Button.shape.Meets d w)
    (hround : w.round ≠ 0) : ∃ ms, d = .object ms := by
  cases h with
  | whole _ => exact absurd rfl hround
  | member _ _ _ _ => exact ⟨_, rfl⟩

theorem getElem?_split {α : Type} {l : List α} {a : α} (h : l[i]? = some a) :
    ∃ before after, l = before ++ a :: after ∧ before.length = i := by
  obtain ⟨hi, rfl⟩ := List.getElem?_eq_some_iff.mp h
  refine ⟨l.take i, l.drop (i + 1), ?_, List.length_take_of_le (Nat.le_of_lt hi)⟩
  rw [← List.drop_eq_getElem_cons, List.take_append_drop]

/-- If the entries before a position are all objects, then the entry there is the one with as many
objects before it, or does not fit. -/
theorem Button.fault_at_position {category : String} {before after : List Data} {ms' : Members}
    (hobjects : ∀ d ∈ (before ++ Data.object ms' :: after).take i, Button.shape.fits d = true)
    (hcount : before.countP Button.shape.fits = i) (h : AtFault category (.object ms')) :
    ∃ d, (before ++ Data.object ms' :: after)[i]? = some d ∧ AtFault category d := by
  have hle : i ≤ before.length := hcount ▸ List.countP_le_length
  rcases Nat.eq_or_lt_of_le hle with heq | hlt
  · refine ⟨_, ?_, h⟩
    rw [heq, List.getElem?_append_right (Nat.le_refl _), Nat.sub_self, List.getElem?_cons_zero]
  · obtain ⟨d, hd⟩ : ∃ d, before[i]? = some d := ⟨_, List.getElem?_eq_getElem hlt⟩
    obtain ⟨first, rest, rfl, rfl⟩ := getElem?_split hd
    have hfirst : first.countP Button.shape.fits = first.length := by
      refine List.countP_eq_length.mpr fun e he => hobjects e ?_
      rw [List.append_assoc, List.take_left]
      exact he
    have hunfit : Button.shape.fits d = false := by
      rw [List.countP_append, hfirst, List.countP_cons] at hcount
      by_contra hfits
      rw [if_pos (Bool.eq_true_of_not_eq_false hfits)] at hcount
      omega
    obtain ⟨m, hm⟩ := Shape.misfits_of_not_fits hunfit
    have hmeets : Button.shape.Meets d (.whole m) :=
      Shape.mem_misfits_iff.mp (hm ▸ List.mem_singleton_self _)
    exact ⟨d, by simp, .misfit hmeets⟩

/-- The errors under a position are those that are found at once in the entry there, and those that
are found later in the entry with as many objects before it. -/
theorem Data.errorsFor_entries_iff (hnames : (Data.object ms).namesOnce = true)
    (hbuttons : ms.lookup "buttons" = some (.object bs))
    (hitems : bs.lookup "items" = some (.list items)) {step : Step}
    (hstep : step = .buttons ∨ step = .review) {r : Report}
    (hr : (Data.object ms).validate (.ofNat step.number) = .ok r) :
    r.errorsFor (Button.fieldAt i) ≠ [] ↔
      (∃ d, items[i]? = some d ∧ Button.FoundAtOnce d) ∨
      ∃ before ms' after, items = before ++ .object ms' :: after ∧
        before.countP Button.shape.fits = i ∧
        Button.FoundLater (ButtonSet.salvage bs).enabled (Template.salvage ms).category ms' := by
  rw [errorsFor_position_iff hnames hstep hr, Template.meets_position_iff hbuttons hitems,
    Template.breaksRule_position_iff hbuttons hitems]
  constructor
  · rintro (⟨before, d, after, w, rfl, hw, hposition⟩ |
      ⟨happlied, before, ms', after, rfl, hcount, hrule⟩)
    · by_cases hround : w.round = 0
      · rw [if_pos hround] at hposition
        subst hposition
        exact .inl ⟨d, by simp, w, hw, hround⟩
      · rw [if_neg hround] at hposition
        obtain ⟨ms', rfl⟩ := Button.object_of_meets_later hw hround
        exact .inr ⟨before, ms', after, rfl, hposition, .inl ⟨w, hw, hround⟩⟩
    · exact .inr ⟨before, ms', after, rfl, hcount, .inr ⟨happlied, hrule⟩⟩
  · rintro (⟨d, hd, w, hw, hround⟩ | ⟨before, ms', after, rfl, hcount, ⟨w, hw, hround⟩ |
      ⟨happlied, hrule⟩⟩)
    · obtain ⟨before, after, rfl, hlength⟩ := getElem?_split hd
      exact .inl ⟨before, d, after, w, rfl, hw, by rw [if_pos hround, hlength]⟩
    · exact .inl ⟨before, _, after, w, rfl, hw, by rw [if_neg hround, hcount]⟩
    · exact .inr ⟨happlied, before, ms', after, rfl, hcount, hrule⟩

/-- **The entry that the errors under a position are about.** What is found at once is under the
position of its entry. What is found later, the rules included, is under the number of objects before
its entry. So if the entries before a position are all objects, an error under it means that something
is wrong with the entry there. -/
theorem Data.blamed_position (hnames : (Data.object ms).namesOnce = true)
    (hbuttons : ms.lookup "buttons" = some (.object bs))
    (hitems : bs.lookup "items" = some (.list items)) {step : Step}
    (hstep : step = .buttons ∨ step = .review) {r : Report}
    (hr : (Data.object ms).validate (.ofNat step.number) = .ok r) (i : Nat) :
    (r.errorsFor ("buttons.items[" ++ toString i ++ "]") ≠ [] ↔
      (∃ d, items[i]? = some d ∧ Button.FoundAtOnce d) ∨
      ∃ before ms' after, items = before ++ .object ms' :: after ∧
        before.countP Button.shape.fits = i ∧
        Button.FoundLater (ButtonSet.salvage bs).enabled (Template.salvage ms).category ms') ∧
    ((∀ d ∈ items.take i, Button.shape.fits d = true) →
      r.errorsFor ("buttons.items[" ++ toString i ++ "]") ≠ [] →
        ∃ d, items[i]? = some d ∧ Button.AtFault (Template.salvage ms).category d) := by
  have hblamed := errorsFor_entries_iff (i := i) hnames hbuttons hitems hstep hr
  refine ⟨hblamed, fun hobjects herrors => ?_⟩
  rcases hblamed.mp herrors with ⟨d, hd, w, hw, _⟩ | ⟨before, ms', after, rfl, hcount, hlater⟩
  · exact ⟨d, hd, .misfit hw⟩
  · refine Button.fault_at_position hobjects hcount ?_
    rcases hlater with ⟨w, hw, _⟩ | ⟨_, hrule⟩
    · exact .misfit hw
    · exact .rule hrule

end Position

/-- An entry that is no button, a button in order and one without a text. -/
def misnumberedItems : List Data :=
  [.int 1, .object [("text", .str "Reply")], .object []]

/-- A template with these buttons. -/
def misnumbered : Members :=
  [("category", .str "UTILITY"),
    ("buttons", .object [("enabled", .bool true), ("items", .list misnumberedItems)])]

theorem report_misnumbered :
    (Data.object misnumbered).validate (.ofNat Step.buttons.number) =
      .ok ⟨false, [⟨"buttons.items[0]", "Input should be a valid dictionary or instance of Button"⟩,
        ⟨"buttons.items[1].text", "Button 2 text is required"⟩], []⟩ := by
  decide +kernel

theorem Data.blamed_position_misnumbered :
    ∃ r, (Data.object misnumbered).validate (.ofNat Step.buttons.number) = .ok r ∧
      ∃ before ms' after, misnumberedItems = before ++ .object ms' :: after ∧
        before.countP Button.shape.fits = 1 ∧ Button.FoundLater true "UTILITY" ms' := by
  obtain ⟨hblamed, _⟩ := blamed_position (by decide) (by rfl) (by rfl) (.inl rfl)
    report_misnumbered 1
  refine ⟨_, report_misnumbered, ?_⟩
  rcases hblamed.mp (by decide +kernel) with ⟨d, hd, w, hw, _⟩ | hlater
  · -- The entry at the position has nothing in it that does not fit.
    obtain rfl := Option.some.inj hd
    cases Shape.mem_misfits_iff.mpr hw
  · exact hlater

/-- The third entry has no text, and the second one is blamed for it. -/
theorem Data.button_in_order_blamed :
    ∃ r, (Data.object misnumbered).validate (.ofNat Step.buttons.number) = .ok r ∧
      ⟨"buttons.items[1].text", "Button 2 text is required"⟩ ∈ r.errors ∧
      r.errorsFor "buttons.items[2]" = [] ∧
      (∃ d, misnumberedItems[1]? = some d ∧ ¬Button.AtFault "UTILITY" d) ∧
      ∃ d, misnumberedItems[2]? = some d ∧ Button.AtFault "UTILITY" d := by
  refine ⟨_, report_misnumbered, by decide, by decide +kernel, ⟨_, rfl, ?_⟩, ⟨_, rfl, .rule ?_⟩⟩
  · intro hfault
    cases hfault with
    | misfit h => cases Shape.mem_misfits_iff.mpr h
    | rule h =>
      refine h (Button.admissible_iff.mp (Button.passes_iff (i := 0).mp ?_))
      show ∀ f ∈ Button.findings "UTILITY" 0 _, f.severity = .warning
      decide
  · intro hinOrder
    obtain ⟨text, htext, ⟨c, hc, _⟩, _⟩ := hinOrder.text
    cases htext
    cases hc

end MessageTemplate
