import MessageTemplate.Proofs.Data.NamesOnce
import MessageTemplate.Proofs.Readable
import MessageTemplate.Proofs.Template.WellTyped

/-!
# Strict reading of templates

* `Reading.value?` — what is read, without the faults;
* `Template.value?_readWith` — what is said of a value that should be an object has no influence on
  what is read;
* `Data.texts` — all texts in a value;
* `Template.readable_of_read` — the texts of a template that is read are texts of the value, so that
  they are readable if those are.
-/

set_option autoImplicit false

namespace MessageTemplate

variable {α β : Type}

/-! ## What is read -/

/-- What is read, if there is no fault. -/
def Reading.value? : Reading α → Option α
  | .value a => some a
  | .faulty _ => none

namespace Reading

theorem value?_eq_some_iff {r : Reading α} {a : α} : r.value? = some a ↔ r = .value a := by
  cases r <;> simp [value?]

theorem value?_ap (f : Reading (α → β)) (r : Reading α) :
    (f.ap r).value? = f.value?.bind fun g => r.value?.map g := by
  cases f <;> cases r <;> rfl

theorem value?_map (f : α → β) (r : Reading α) : (r.map f).value? = r.value?.map f := by
  cases r <;> rfl

theorem value?_under (k : Key) (r : Reading α) : (r.under k).value? = r.value? := by
  cases r <;> rfl

variable {read read' : Data → Reading α}

theorem value?_field (h : ∀ d, (read d).value? = (read' d).value?) (ms : Members)
    (names : List String) (default : α) :
    (Read.field ms names default read).value? = (Read.field ms names default read').value? := by
  unfold Read.field
  split
  · rw [value?_under, value?_under, h]
  · rfl

theorem value?_list (h : ∀ d, (read d).value? = (read' d).value?) (d : Data) :
    (Read.list read d).value? = (Read.list read' d).value? := by
  have hentries (i : Nat) (items : List Data) :
      (entriesFrom read i items).value? = (entriesFrom read' i items).value? := by
    induction items generalizing i with
    | nil => rfl
    | cons d rest ih =>
      unfold entriesFrom
      simp only [value?_ap, value?_under, h, ih]
  cases d with
  | list items => exact hentries 0 items
  | _ => rfl

/-- A part is read alike whatever is said of a value that is none. -/
theorem value?_part {read read' : Members → Reading α}
    (h : ∀ ms, (read ms).value? = (read' ms).value?) (complaint complaint' : Complaint)
    (name : String) (d : Data) :
    (Read.part complaint name read d).value? = (Read.part complaint' name read' d).value? := by
  cases d with
  | object ms => exact h (Members.withoutNulls ms)
  | _ => rfl

theorem value?_optionalPart (h : ∀ d, (read d).value? = (read' d).value?) (ms : Members)
    (name : String) :
    (Read.optionalPart ms name read).value? = (Read.optionalPart ms name read').value? := by
  refine value?_field (fun d => ?_) ms [name] none
  rw [value?_map, value?_map, h]

end Reading

open Reading

theorem ButtonSet.value?_read (complaint complaint' : Complaint) (d : Data) :
    (ButtonSet.read complaint d).value? = (ButtonSet.read complaint' d).value? := by
  refine value?_part (fun ms => ?_) _ _ _ d
  have hbutton (d : Data) : (Button.read complaint d).value? = (Button.read complaint' d).value? :=
    value?_part (fun _ => rfl) _ _ _ d
  unfold readMembers
  simp only [value?_ap, value?_field (value?_list hbutton)]

/-- **What is read does not depend on what is said of misfits.** -/
theorem Template.value?_readWith (complaint complaint' : Complaint) (d : Data) :
    (readWith complaint d).value? = (readWith complaint' d).value? := by
  refine value?_part (fun ms => ?_) _ _ _ d
  have hpart {α : Type} (name : String) (read : Members → Reading α) (d : Data) :
      (Read.part complaint name read d).value? = (Read.part complaint' name read d).value? :=
    value?_part (fun _ => rfl) _ _ _ d
  have hheader := value?_optionalPart (hpart "Header" Header.readMembers) ms "header"
  have hbody := value?_field (hpart "Body" Body.readMembers) ms ["body"] {}
  have hfooter := value?_optionalPart (hpart "Footer" Footer.readMembers) ms "footer"
  have hbuttons := value?_optionalPart (ButtonSet.value?_read complaint complaint') ms "buttons"
  unfold readMembers Header.read Body.read Footer.read
  simp only [value?_ap, hheader, hbody, hfooter, hbuttons]

/-! ## Texts -/

namespace Data

mutual

/-- All texts in a value. -/
def texts : Data → List String
  | .str s => [s]
  | .list items => itemsTexts items
  | .object ms => membersTexts ms
  | _ => []

/-- All texts in the entries of a list. -/
def itemsTexts : List Data → List String
  | [] => []
  | d :: rest => d.texts ++ itemsTexts rest

/-- All texts in the members of an object, without their names. -/
def membersTexts : List (String × Data) → List String
  | [] => []
  | (_, d) :: rest => d.texts ++ membersTexts rest

end

theorem mem_texts_object {ms : Members} {s : String} :
    s ∈ (object ms).texts ↔ ∃ m ∈ ms, s ∈ m.2.texts := by
  show s ∈ membersTexts ms ↔ _
  induction ms with
  | nil => simp [membersTexts]
  | cons m rest ih => simp [membersTexts, ih]

end Data

namespace Reading.Ensures

variable {P : String → Prop} {Q : α → Prop} {ms : Members} {names : List String} {default : α}

/-- A member is read from one of the members of the object. -/
theorem field_of_mem {read : Data → Reading α} (hdefault : Q default)
    (hread : ∀ m ∈ ms, (read m.2).Ensures Q) : (Read.field ms names default read).Ensures Q := by
  unfold Read.field
  split
  · rename_i name d hfound
    obtain ⟨_, _, hfound⟩ := List.exists_of_findSome?_eq_some hfound
    obtain ⟨_, hlookup, hpair⟩ := Option.map_eq_some_iff.mp hfound
    cases hpair
    exact (hread _ (Members.mem_of_lookup hlookup)).under _
  · exact value hdefault

/-- What is known of the texts of an object is known of those of each member. -/
theorem field_of_texts {read : Data → Reading α} (hms : ∀ s ∈ (Data.object ms).texts, P s)
    (hdefault : Q default) (hread : ∀ d, (∀ s ∈ d.texts, P s) → (read d).Ensures Q) :
    (Read.field ms names default read).Ensures Q :=
  field_of_mem hdefault fun m hm =>
    hread m.2 fun s hs => hms s (Data.mem_texts_object.mpr ⟨m, hm, hs⟩)

/-- The members that count are among the members. -/
theorem part_of_texts {read : Members → Reading α} {complaint : Complaint} {name : String}
    {d : Data} (hd : ∀ s ∈ d.texts, P s)
    (hread : ∀ ms, (∀ s ∈ (Data.object ms).texts, P s) → (read ms).Ensures Q) :
    (Read.part complaint name read d).Ensures Q := by
  cases d with
  | object ms =>
    refine hread _ fun s hs => hd s ?_
    obtain ⟨m, hm, hs⟩ := Data.mem_texts_object.mp hs
    exact Data.mem_texts_object.mpr ⟨m, (List.mem_filter.mp hm).1, hs⟩
  | _ => exact nofun

theorem text {d : Data} (hd : ∀ s ∈ d.texts, P s) : (Read.text d).Ensures P := by
  cases d with
  | str s => exact value (hd s (List.mem_singleton_self s))
  | _ => exact nofun

theorem field_text {default : String} (hms : ∀ s ∈ (Data.object ms).texts, P s)
    (hdefault : P default) : (Read.field ms names default Read.text).Ensures P :=
  field_of_texts hms hdefault fun _ hd => text hd

end Reading.Ensures

open Reading (Ensures)

section Readable

variable {complaint : Complaint} {d : Data}

theorem Variable.readable_empty : Variable.Readable "" := by decide

theorem Header.readable_of_read (hd : ∀ s ∈ d.texts, Variable.Readable s) :
    (Header.read complaint d).Ensures fun h => Variable.Readable h.text := by
  refine Ensures.part_of_texts hd fun ms hms => ?_
  have htext : (Read.field ms ["text"] "" Read.text).Ensures Variable.Readable :=
    Ensures.field_text hms Variable.readable_empty
  refine Ensures.ap_any (Ensures.ap_any (Ensures.ap_any (Ensures.ap_any (Ensures.ap
    (Ensures.ap_any (Ensures.ap_any (Ensures.value ?_))) htext))))
  exact fun _ _ _ htext _ _ _ _ => htext

theorem Body.readable_of_read (hd : ∀ s ∈ d.texts, Variable.Readable s) :
    (Body.read complaint d).Ensures fun b => Variable.Readable b.text := by
  refine Ensures.part_of_texts hd fun ms hms => ?_
  have htext : (Read.field ms ["text"] "" Read.text).Ensures Variable.Readable :=
    Ensures.field_text hms Variable.readable_empty
  refine Ensures.ap_any (Ensures.ap (Ensures.value ?_) htext)
  exact fun _ htext _ => htext

/-- **The texts of a template are texts of the value that it is read from**, so that they are
readable if those are. -/
theorem Template.readable_of_read {t : Template} (hd : ∀ s ∈ d.texts, Variable.Readable s)
    (h : Template.read d = .value t) : t.Readable := by
  have hread : (Template.read d).Ensures Template.Readable := by
    refine Ensures.part_of_texts hd fun ms hms => ?_
    have hheader : (Read.optionalPart ms "header" (Header.read .noPart)).Ensures
        fun header => ∀ h ∈ header, Variable.Readable h.text :=
      Ensures.field_of_texts hms nofun fun _ hd => (Header.readable_of_read hd).mapSome
    have hbody : (Read.field ms ["body"] {} (Body.read .noPart)).Ensures
        fun b => Variable.Readable b.text :=
      Ensures.field_of_texts hms Variable.readable_empty fun _ hd => Body.readable_of_read hd
    refine Ensures.ap_any (Ensures.ap_any (Ensures.ap (Ensures.ap (Ensures.ap_any (Ensures.ap_any
      (Ensures.ap_any (Ensures.ap_any (Ensures.value ?_))))) hheader) hbody))
    exact fun _ _ _ _ header hheader body hbody _ _ => ⟨hheader, hbody⟩
  exact hread t h

end Readable

end MessageTemplate
