import MessageTemplate.Template.Reading

/-!
# What is read is well-typed

* `Reading.Ensures` — whatever is read has a property, with one rule for each combinator;
* `Template.wellTyped_of_read` — every template that is read is well-typed: its identifier is text,
  and all its buttons have a kind and a text.
-/

set_option autoImplicit false

namespace MessageTemplate

variable {α β : Type}

/-- Whatever is read has the property. -/
def Reading.Ensures (P : α → Prop) (r : Reading α) : Prop := ∀ a, r = .value a → P a

namespace Reading.Ensures

variable {P : β → Prop} {Q : α → Prop} {r : Reading α}

theorem value {a : α} (h : Q a) : (Reading.value a).Ensures Q := by
  rintro _ ⟨⟩
  exact h

theorem anything (r : Reading α) : r.Ensures fun _ => True := fun _ _ => trivial

theorem map {f : α → β} (h : r.Ensures fun a => P (f a)) : (r.map f).Ensures P := by
  cases r with
  | value a => exact value (h a rfl)
  | faulty faults => exact nofun

theorem ap {f : Reading (α → β)} (hf : f.Ensures fun g => ∀ a, Q a → P (g a))
    (hr : r.Ensures Q) : (f.ap r).Ensures P := by
  cases f with
  | value g =>
    cases r with
    | value a => exact value (hf g rfl a (hr a rfl))
    | faulty faults => exact nofun
  | faulty faults => cases r <;> exact nofun

/-- An argument of which nothing is known. -/
theorem ap_any {f : Reading (α → β)} (hf : f.Ensures fun g => ∀ a, P (g a)) :
    (f.ap r).Ensures P :=
  ap (fun g hg a _ => hf g hg a) (anything r)

theorem under (k : Key) (h : r.Ensures Q) : (r.under k).Ensures Q := by
  cases r with
  | value a => exact h
  | faulty faults => exact nofun

variable {read : Data → Reading α}

theorem field {default : α} (hdefault : Q default) (hread : ∀ d, (read d).Ensures Q)
    (ms : Members) (names : List String) : (Read.field ms names default read).Ensures Q := by
  unfold Read.field
  split
  · exact (hread _).under _
  · exact value hdefault

theorem entriesFrom (hread : ∀ d, (read d).Ensures Q) (i : Nat) (items : List Data) :
    (Reading.entriesFrom read i items).Ensures fun as => ∀ a ∈ as, Q a := by
  induction items generalizing i with
  | nil => exact value (List.forall_mem_nil _)
  | cons d rest ih =>
    refine ap (ap (value ?_) ((hread d).under _)) (ih (i + 1))
    exact fun a ha as has => List.forall_mem_cons.mpr ⟨ha, has⟩

theorem list (hread : ∀ d, (read d).Ensures Q) (d : Data) :
    (Read.list read d).Ensures fun as => ∀ a ∈ as, Q a := by
  unfold Read.list
  split
  · exact entriesFrom hread 0 _
  · exact nofun

/-- What is known of every value is known of one that may be missing. -/
theorem mapSome (h : r.Ensures Q) : (r.map some).Ensures fun o => ∀ a ∈ o, Q a := by
  refine map fun a ha => ?_
  rintro _ ⟨⟩
  exact h a ha

theorem optional (hread : ∀ d, (read d).Ensures Q) (d : Data) :
    (Read.optional read d).Ensures fun o => ∀ a ∈ o, Q a := by
  unfold Read.optional
  split
  · exact value nofun
  · exact (hread _).mapSome

theorem part {complaint : Complaint} {name : String} {read : Members → Reading α}
    (hread : ∀ ms, (read ms).Ensures Q) (d : Data) :
    (Read.part complaint name read d).Ensures Q := by
  unfold Read.part
  split
  · exact hread _
  · exact nofun

end Reading.Ensures

open Reading (Ensures)

/-- A button that is read has a kind and a text. -/
theorem Button.read_ensures (complaint : Complaint) (d : Data) :
    (Button.read complaint d).Ensures Button.WellTyped := by
  refine Ensures.part (fun ms => ?_) d
  have hfield (names : List String) (default : String) :
      (Read.field ms names (some default) readText).Ensures fun s => s.isSome = true := by
    refine Ensures.field ?_ (fun d => ?_) ms names
    · rfl
    · exact Ensures.map fun _ _ => rfl
  refine Ensures.ap_any (Ensures.ap_any (Ensures.ap_any (Ensures.ap (Ensures.ap ?_
    (hfield _ _)) (hfield _ _))))
  exact Ensures.value fun kind hkind text htext _ _ _ => ⟨hkind, htext⟩

theorem ButtonSet.read_ensures (complaint : Complaint) (d : Data) :
    (ButtonSet.read complaint d).Ensures fun set => ∀ b ∈ set.items, b.WellTyped := by
  refine Ensures.part (fun ms => ?_) d
  refine Ensures.ap (Ensures.ap_any (Ensures.value ?_))
    (Ensures.field (List.forall_mem_nil _) (Ensures.list (Button.read_ensures complaint)) ms _)
  exact fun _ _ hitems => hitems

namespace Template

variable {t : Template}

theorem read_ensures (complaint : Complaint) (d : Data) :
    (readWith complaint d).Ensures WellTyped := by
  refine Ensures.part (fun ms => ?_) d
  have hid : (Read.field ms ["id"] none
      (Read.optional fun d => (Read.text d).map Identifier.text)).Ensures
      fun id => ∀ i ∈ id, ∃ s, i = .text s :=
    Ensures.field nofun (Ensures.optional fun d => Ensures.map fun s _ => ⟨s, rfl⟩) ms _
  have hbuttons : (Read.optionalPart ms "buttons" (ButtonSet.read complaint)).Ensures
      fun buttons => ∀ set ∈ buttons, ∀ b ∈ set.items, b.WellTyped :=
    Ensures.field nofun (fun d => (ButtonSet.read_ensures complaint d).mapSome) ms _
  refine Ensures.ap (Ensures.ap_any (Ensures.ap_any (Ensures.ap_any (Ensures.ap_any
    (Ensures.ap_any (Ensures.ap_any (Ensures.ap (Ensures.value ?_) hid))))))) hbuttons
  exact fun id hid _ _ _ _ _ _ buttons hbuttons => ⟨hid, hbuttons⟩

theorem wellTyped_of_read {d : Data} (h : Template.read d = .value t) : t.WellTyped :=
  read_ensures _ d t h

end Template

end MessageTemplate
