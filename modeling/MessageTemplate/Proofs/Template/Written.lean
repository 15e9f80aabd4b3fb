import MessageTemplate.Proofs.Lenient.Fields
import MessageTemplate.Proofs.Readable
import MessageTemplate.Template.Writing

/-!
# Reading what was written

* `field_named` — a field does not depend on members with other names;
* `field_written` — the only member under the names of a field gives its value, and null gives its
  default, so that leaving nulls out and writing them comes to the same;
* `Header.read_toData`, `Body.read_toDataWith`, … — every part is read as it was written;
* `Template.read_toData` — and so is a template;
* `Body.read_computed` — the members that follow from the text of a body are passed over.
-/

set_option autoImplicit false

namespace MessageTemplate

variable {α : Type}

/-! ## Fields of written objects -/

theorem Read.part_object {complaint : Complaint} {name : String} {read : Members → Reading α}
    (r : Rendering) (ms : Members) :
    Read.part complaint name read (r.object ms) = read ms.withoutNulls := by
  cases r with
  | exchanged => exact congrArg read ms.withoutNulls_idem
  | stored => rfl

section Field

variable {ms : Members} {names : List String} {s : String} {d : Data} {default a : α}
  {read : Data → Reading α}

theorem field_absent (h : ∀ s ∈ names, ms.lookup s = none) :
    Read.field ms names default read = .value default := by
  induction names with
  | nil => rfl
  | cons s names ih =>
    rw [field_cons, h s List.mem_cons_self]
    exact ih fun s' hs' => h s' (List.mem_cons_of_mem s hs')

/-- An object with one member. -/
theorem field_single (hs : s ∈ names) (hread : read d = .value a) :
    Read.field [(s, d)] names default read = .value a := by
  induction names with
  | nil => cases hs
  | cons s' names ih =>
    rw [field_cons, List.lookup_cons]
    by_cases heq : s' = s
    · subst heq
      simp [hread, Reading.under]
    · rw [beq_eq_false_iff_ne.mpr heq]
      exact ih ((List.mem_cons.mp hs).resolve_left (Ne.symm heq))

/-- Members with other names make no difference for a field. -/
theorem field_named {p : String → Bool} (hp : ∀ s ∈ names, p s = true) (ms : Members) :
    Read.field (ms.named p) names default read = Read.field ms names default read :=
  field_agree fun s hs => by rw [Members.lookup_named, if_pos (hp s hs)]

/-- The only member under the names of a field gives its value; where it is null, that is the
default. -/
theorem field_written (hmember : ms.named names.contains = [(s, d)])
    (hnull : d.isNull = true → default = a) (hread : d.isNull = false → read d = .value a) :
    Read.field ms.withoutNulls names default read = .value a := by
  have hs : s ∈ names := by
    have hmem : (s, d) ∈ ms.named names.contains := by
      rw [hmember]
      exact List.mem_singleton_self _
    exact List.contains_iff_mem.mp (List.mem_filter.mp hmem).2
  rw [← field_named (fun _ => List.contains_iff_mem.mpr), ← Members.withoutNulls_named, hmember,
    Members.withoutNulls_cons]
  cases hd : d.isNull with
  | true =>
    rw [hnull hd]
    exact field_absent fun _ _ => rfl
  | false =>
    exact field_single hs (hread hd)

/-- A member that is not null. -/
theorem field_present (hmember : ms.named names.contains = [(s, d)]) (hd : d.isNull = false)
    (hread : read d = .value a) : Read.field ms.withoutNulls names default read = .value a :=
  field_written hmember (fun h => absurd (hd.symm.trans h) nofun) fun _ => hread

theorem field_text? {text : Option String}
    (hmember : ms.named names.contains = [(s, .ofText? text)]) :
    Read.field ms.withoutNulls names none (Read.optional Read.text) = .value text := by
  cases text with
  | none => exact field_written hmember (fun _ => rfl) nofun
  | some text => exact field_present hmember rfl rfl

end Field

/-! ## Parts -/

open Reading (ap_of_value)

theorem Header.read_toData (complaint : Complaint) (r : Rendering) (h : Header) :
    Header.read complaint (h.toData r) = .value h := by
  unfold Header.read Header.toData
  rw [Read.part_object]
  cases h
  refine ap_of_value (ap_of_value (ap_of_value (ap_of_value (ap_of_value (ap_of_value
    (ap_of_value rfl ?enabled) ?format) ?text) ?sample) ?mediaUrl) ?mediaHandle) ?filename
  case enabled => cases r <;> exact field_present rfl rfl rfl
  case format => cases r <;> exact field_present rfl rfl rfl
  case text => cases r <;> exact field_present rfl rfl rfl
  case sample => cases r <;> exact field_text? rfl
  case mediaUrl => cases r <;> exact field_text? rfl
  case mediaHandle => cases r <;> exact field_text? rfl
  case filename => cases r <;> exact field_text? rfl

theorem Footer.read_toData (complaint : Complaint) (r : Rendering) (f : Footer) :
    Footer.read complaint (f.toData r) = .value f := by
  unfold Footer.read Footer.toData
  rw [Read.part_object]
  cases f
  refine ap_of_value (ap_of_value rfl ?enabled) ?text
  case enabled => cases r <;> exact field_present rfl rfl rfl
  case text => cases r <;> exact field_present rfl rfl rfl

theorem Read.list_map {read : Data → Reading α} {write : α → Data} {as : List α}
    (h : ∀ a ∈ as, read (write a) = .value a) :
    Read.list read (.list (as.map write)) = .value as :=
  Reading.entriesFrom_map h 0

/-- The ordinals that are written with a body are not read. -/
theorem Body.read_toDataWith (complaint : Complaint) (r : Rendering) (b : Body)
    (ordinals : List Nat) : Body.read complaint (b.toDataWith r ordinals) = .value b := by
  unfold Body.read Body.toDataWith
  rw [Read.part_object]
  have hsamples : Read.list Read.text (.list (b.samples.map .str)) = .value b.samples :=
    Read.list_map fun _ _ => rfl
  cases b
  refine ap_of_value (ap_of_value rfl ?text) ?samples
  case text => cases r <;> exact field_present rfl rfl rfl
  case samples => cases r <;> exact field_present rfl rfl hsamples

theorem Button.read_toData (complaint : Complaint) (r : Rendering) {b : Button}
    (hb : b.WellTyped) : Button.read complaint (b.toData r) = .value b := by
  obtain ⟨kind, text, _, _, _⟩ := b
  obtain ⟨kind, rfl⟩ := Option.isSome_iff_exists.mp hb.1
  obtain ⟨text, rfl⟩ := Option.isSome_iff_exists.mp hb.2
  unfold Button.read Button.toData
  rw [Read.part_object]
  refine ap_of_value (ap_of_value (ap_of_value (ap_of_value (ap_of_value rfl ?kind) ?text) ?url)
    ?phoneNumber) ?sample
  case kind => cases r <;> exact field_present rfl rfl rfl
  case text => cases r <;> exact field_present rfl rfl rfl
  case url => cases r <;> exact field_text? rfl
  case phoneNumber => cases r <;> exact field_text? rfl
  case sample => cases r <;> exact field_text? rfl

theorem ButtonSet.read_toData (complaint : Complaint) (r : Rendering) {set : ButtonSet}
    (hset : ∀ b ∈ set.items, b.WellTyped) :
    ButtonSet.read complaint (set.toData r) = .value set := by
  unfold ButtonSet.read ButtonSet.toData
  rw [Read.part_object]
  cases set
  have hitems := Read.list_map fun b hb => Button.read_toData complaint r (hset b hb)
  refine ap_of_value (ap_of_value rfl ?enabled) ?items
  case enabled => cases r <;> exact field_present rfl rfl rfl
  case items => cases r <;> exact field_present rfl rfl hitems

/-! ## Templates -/

/-- A part that may be missing is written as itself or as null. -/
theorem field_part? {ms : Members} {name s : String} {part : Option α} {write : α → Data}
    {read : Data → Reading α} (hmember : ms.named [name].contains = [(s, .ofPart? write part)])
    (hread : ∀ a ∈ part, (write a).isNull = false ∧ read (write a) = .value a) :
    Read.optionalPart ms.withoutNulls name read = .value part := by
  cases part with
  | none => exact field_written hmember (fun _ => rfl) nofun
  | some a =>
    obtain ⟨hpresent, hvalue⟩ := hread a rfl
    refine field_present hmember hpresent ?_
    dsimp only [Data.ofPart?]
    rw [hvalue]
    rfl

@[simp] theorem Rendering.isNull_object (r : Rendering) (ms : Members) :
    (r.object ms).isNull = false := by
  cases r <;> rfl

namespace Template

variable {t : Template} {r : Rendering}

/-- The identifier of a well-typed template is text or missing. -/
theorem WellTyped.identifier (ht : t.WellTyped) :
    ∃ text : Option String, t.id = text.map .text ∧ Data.ofIdentifier? t.id = .ofText? text := by
  cases hid : t.id with
  | none => exact ⟨none, rfl, rfl⟩
  | some i =>
    obtain ⟨s, rfl⟩ := ht.1 i hid
    exact ⟨some s, rfl, rfl⟩

theorem read_toDataWith (ht : t.WellTyped) {body : Data} (hpresent : body.isNull = false)
    (hbody : Body.read .noPart body = .value t.body) :
    Template.read (t.toDataWith r body) = .value t := by
  obtain ⟨text, hid, _⟩ := ht.identifier
  have hbuttons := ht.2
  unfold Template.read readWith toDataWith
  rw [Read.part_object]
  cases t
  obtain rfl := hid
  refine ap_of_value (ap_of_value (ap_of_value (ap_of_value (ap_of_value (ap_of_value (ap_of_value
    (ap_of_value rfl ?id) ?name) ?language) ?category) ?header) ?body) ?footer) ?buttons
  case id =>
    cases text with
    | none => cases r <;> exact field_written rfl (fun _ => rfl) nofun
    | some s => cases r <;> exact field_present rfl rfl rfl
  case name => cases r <;> exact field_present rfl rfl rfl
  case language => cases r <;> exact field_present rfl rfl rfl
  case category => cases r <;> exact field_present rfl rfl rfl
  case header =>
    cases r <;> exact field_part? rfl fun h _ => ⟨rfl, Header.read_toData _ _ h⟩
  case body => cases r <;> exact field_present rfl hpresent hbody
  case footer =>
    cases r <;> exact field_part? rfl fun f _ => ⟨rfl, Footer.read_toData _ _ f⟩
  case buttons =>
    cases r <;> exact field_part? rfl fun set hset =>
      ⟨rfl, ButtonSet.read_toData _ _ (hbuttons set hset)⟩

theorem toData_eq_ok {d : Data} (h : t.toData r = .ok d) :
    ∃ ordinals, d = t.toDataWith r (t.body.toDataWith r ordinals) := by
  unfold toData Body.toData at h
  cases hordinals : Variable.ordinals t.body.text with
  | error e =>
    rw [hordinals] at h
    cases h
  | ok ordinals =>
    rw [hordinals] at h
    exact ⟨ordinals, (Except.ok.inj h).symm⟩

/-- A template can be written exactly if its body is readable. -/
theorem toData_ok_iff : (∃ d, t.toData r = .ok d) ↔ Variable.Readable t.body.text := by
  rw [← Variable.ordinals_ok_iff]
  unfold toData Body.toData
  cases Variable.ordinals t.body.text <;> simp

/-- **A written template is read again**, in both renderings. -/
theorem read_toData (ht : t.WellTyped) {d : Data} (h : t.toData r = .ok d) :
    Template.read d = .value t := by
  obtain ⟨ordinals, rfl⟩ := toData_eq_ok h
  exact read_toDataWith ht (r.isNull_object _) (Body.read_toDataWith _ r t.body ordinals)

end Template

/-! ## Computed members -/

/-- The members of a written body that follow from its text. -/
def Body.computedNames : List String := ["variables", "variableCount", "variable_count"]

/-- **What follows from the text is not read.** -/
theorem Body.read_computed (complaint : Complaint) (ms : Members) :
    Body.read complaint (.object (ms.named fun s => !computedNames.contains s)) =
      Body.read complaint (.object ms) := by
  unfold Body.read Read.part readMembers
  dsimp only
  rw [Members.withoutNulls_named, field_named (by decide), field_named (by decide)]

end MessageTemplate
