import MessageTemplate.Dashboard.Store
import MessageTemplate.Proofs.Data.NamesOnce
import MessageTemplate.Proofs.Service.Validation
import MessageTemplate.Proofs.Template.Written

/-!
# Templates there and back

A written template is an object like any other for the validation and for the dashboard.

* `Template.nesting_toData` — it is flat enough to be copied;
* `Template.validate_toData` — so it has the report of the template;
* `Template.ofStoredMembers_of_read` — what is read of a stored document without components;
* `Template.ofStored_toData` — so a written template is also read as part of one;
* `Template.written_read` — all of this together.
-/

set_option autoImplicit false

namespace MessageTemplate

variable {α : Type}

/-! ## Nesting -/

namespace Data

theorem itemsNesting_le {items : List Data} {n : Nat} (h : ∀ d ∈ items, d.nesting ≤ n) :
    itemsNesting items ≤ n := by
  induction items with
  | nil => exact Nat.zero_le n
  | cons d rest ih =>
    obtain ⟨hd, hrest⟩ := List.forall_mem_cons.mp h
    exact max_le hd (ih hrest)

theorem membersNesting_le {ms : Members} {n : Nat} (h : ∀ m ∈ ms, m.2.nesting ≤ n) :
    membersNesting ms ≤ n := by
  induction ms with
  | nil => exact Nat.zero_le n
  | cons m rest ih =>
    obtain ⟨hm, hrest⟩ := List.forall_mem_cons.mp h
    exact max_le hm (ih hrest)

theorem nesting_list_le {items : List Data} {n : Nat} (h : ∀ d ∈ items, d.nesting ≤ n) :
    (Data.list items).nesting ≤ n + 1 := by
  rw [nesting, Nat.add_comm]
  exact Nat.succ_le_succ (itemsNesting_le h)

theorem nesting_rendered_le {ms : Members} {n : Nat} (h : ∀ m ∈ ms, m.2.nesting ≤ n)
    (r : Rendering) : (r.object ms).nesting ≤ n + 1 := by
  cases r with
  | exchanged =>
    rw [Rendering.object, nesting, Nat.add_comm]
    exact Nat.succ_le_succ (membersNesting_le fun m hm => h m (List.mem_of_mem_filter hm))
  | stored =>
    rw [Rendering.object, nesting, Nat.add_comm]
    exact Nat.succ_le_succ (membersNesting_le h)

@[simp] theorem nesting_ofText? (text : Option String) : (ofText? text).nesting = 0 := by
  cases text <;> rfl

theorem nesting_ofPart?_le {write : α → Data} {n : Nat} (h : ∀ a, (write a).nesting ≤ n)
    (part : Option α) : (ofPart? write part).nesting ≤ n := by
  cases part with
  | none => exact Nat.zero_le n
  | some a => exact h a

end Data

theorem Header.nesting_toData (r : Rendering) (h : Header) : (h.toData r).nesting ≤ 1 :=
  Data.nesting_rendered_le (by simp [Data.nesting]) r

theorem Body.nesting_toDataWith (r : Rendering) (b : Body) (ordinals : List Nat) :
    (b.toDataWith r ordinals).nesting ≤ 2 := by
  have hsamples : (Data.list (b.samples.map .str)).nesting ≤ 1 :=
    Data.nesting_list_le (List.forall_mem_map.mpr fun _ _ => Nat.le_refl 0)
  have hordinals : (Data.list (ordinals.map .ofNat)).nesting ≤ 1 :=
    Data.nesting_list_le (List.forall_mem_map.mpr fun _ _ => Nat.le_refl 0)
  refine Data.nesting_rendered_le ?_ r
  simp only [List.forall_mem_cons, List.not_mem_nil, false_implies, implies_true, and_true]
  exact ⟨Nat.zero_le 1, hsamples, hordinals, Nat.zero_le 1⟩

theorem Footer.nesting_toData (r : Rendering) (f : Footer) : (f.toData r).nesting ≤ 1 :=
  Data.nesting_rendered_le (by simp [Data.nesting]) r

theorem Button.nesting_toData (r : Rendering) (b : Button) : (b.toData r).nesting ≤ 1 :=
  Data.nesting_rendered_le (by simp) r

theorem ButtonSet.nesting_toData (r : Rendering) (set : ButtonSet) :
    (set.toData r).nesting ≤ 3 := by
  have hitems : (Data.list (set.items.map (Button.toData r))).nesting ≤ 2 :=
    Data.nesting_list_le (List.forall_mem_map.mpr fun b _ => Button.nesting_toData r b)
  refine Data.nesting_rendered_le ?_ r
  simpa [Data.nesting] using hitems

namespace Template

variable {t : Template} {r : Rendering} {d : Data}

theorem nesting_toData (ht : t.WellTyped) (h : t.toData r = .ok d) : d.nesting ≤ 4 := by
  obtain ⟨ordinals, rfl⟩ := toData_eq_ok h
  obtain ⟨text, _, hid⟩ := ht.identifier
  have hheader := Data.nesting_ofPart?_le (Header.nesting_toData r) t.header
  have hbody := Body.nesting_toDataWith r t.body ordinals
  have hfooter := Data.nesting_ofPart?_le (Footer.nesting_toData r) t.footer
  have hbuttons := Data.nesting_ofPart?_le (ButtonSet.nesting_toData r) t.buttons
  refine Data.nesting_rendered_le ?_ r
  simp only [List.forall_mem_cons, List.not_mem_nil, false_implies, implies_true, and_true, hid,
    Data.nesting_ofText?, Data.nesting]
  omega

/-- A written template has the report of the template. -/
theorem validate_toData (ht : t.WellTyped) (h : t.toData r = .ok d) (step : Data) :
    d.validate step = t.validate step := by
  have hnesting : d.nesting ≤ Data.deepestCopy := (nesting_toData ht h).trans (by decide)
  unfold Data.validate validate
  cases Step.ofData step with
  | error e => rfl
  | ok s => exact Data.report_of_read (read_toData ht h) hnesting s

end Template

/-! ## Stored documents -/

/-- The members of a written object are some of those that are given. -/
theorem Rendering.object_members (r : Rendering) {ms : Members}
    (hnames : (ms.map Prod.fst).Nodup) :
    ∃ kept : Members, r.object ms = .object kept ∧ (kept.map Prod.fst).Nodup ∧
      ∀ s d, kept.lookup s = some d → ms.lookup s = some d := by
  cases r with
  | stored => exact ⟨ms, rfl, hnames, fun _ _ h => h⟩
  | exchanged =>
    refine ⟨ms.withoutNulls, rfl, hnames.sublist (List.filter_sublist.map _), fun s d h => ?_⟩
    rw [Members.lookup_withoutNulls hnames] at h
    exact (Option.filter_eq_some_iff.mp h).1

namespace Template

variable {t : Template} {r : Rendering} {d : Data}

/-- A stored document that holds a template part by part, under a text as identifier if any. -/
theorem ofStoredMembers_of_read {ms : Members} (hnames : (ms.map Prod.fst).Nodup)
    (hid : ∀ d, ms.lookup "id" = some d → d = .null ∨ ∃ s, d = .str s)
    (hother : ms.lookup "_id" = none) (hcomponents : ms.lookup "components" = none)
    (hread : Template.read (.object ms) = .value t) : ofStoredMembers ms = .ok t := by
  have hidentifier : Data.ofText? (storedId ms) = (ms.lookup "id").getD .null := by
    unfold storedId Members.get?
    rw [hother]
    cases hlookup : ms.lookup "id" with
    | none => rfl
    | some d =>
      rcases hid d hlookup with rfl | ⟨s, rfl⟩
      · rfl
      · rfl
  unfold ofStoredMembers Members.get?
  rw [hcomponents, Members.erase_of_lookup_none hother, hidentifier]
  have hsame : Template.read (.object (ms.set "id" ((ms.lookup "id").getD .null))) =
      Template.read (.object ms) :=
    congrArg (readMembers .noPart) (Members.withoutNulls_set_lookup hnames "id")
  dsimp only
  rw [hsame, hread]
  rfl

/-- The members of a written template. -/
theorem toDataWith_members (r : Rendering) (t : Template) (body : Data) :
    ∃ ms, t.toDataWith r body = r.object ms ∧
      ms.map Prod.fst =
        ["id", "name", "language", "category", "header", "body", "footer", "buttons"] ∧
      ms.lookup "id" = some (.ofIdentifier? t.id) :=
  ⟨_, rfl, rfl, rfl⟩

theorem ofStored_toData (ht : t.WellTyped) (h : t.toData r = .ok d) :
    ofStored (.object [("template", d)]) = .ok t := by
  have hread := read_toData ht h
  obtain ⟨ordinals, rfl⟩ := toData_eq_ok h
  obtain ⟨ms, hobject, hmembers, hid⟩ := toDataWith_members r t (t.body.toDataWith r ordinals)
  obtain ⟨kept, hkept, hnames, hlookup⟩ :=
    r.object_members (show (ms.map Prod.fst).Nodup by rw [hmembers]; decide)
  rw [hobject, hkept] at hread ⊢
  have hnone (s : String) (hs : s ∉ ms.map Prod.fst) : kept.lookup s = none := by
    refine Option.eq_none_iff_forall_ne_some.mpr fun d hd => hs ?_
    exact List.mem_map.mpr ⟨_, Members.mem_of_lookup (hlookup s d hd), rfl⟩
  rw [hmembers] at hnone
  have htext : ∀ d, kept.lookup "id" = some d → d = .null ∨ ∃ s, d = .str s := by
    intro d hd
    obtain ⟨text, _, hdata⟩ := ht.identifier
    obtain rfl := Option.some.inj (hid.symm.trans (hlookup _ _ hd))
    rw [hdata]
    cases text with
    | none => exact Or.inl rfl
    | some s => exact Or.inr ⟨s, rfl⟩
  exact ofStoredMembers_of_read hnames htext (hnone _ (by decide)) (hnone _ (by decide)) hread

/-- **A template that is written comes back.** A well-typed template with a readable body can be
written in both renderings, and what is written is read as the template itself: as a value, as the
member of a stored document, and, with the same report in every step, for validation. Reading
passes over the members of a body that follow from its text. -/
theorem written_read (ht : t.WellTyped) (hbody : Variable.Readable t.body.text) :
    (∀ r : Rendering, ∃ d, t.toData r = .ok d ∧ Template.read d = .value t ∧
      (∀ step, d.validate step = t.validate step) ∧
      ofStored (.object [("template", d)]) = .ok t) ∧
    ∀ (complaint : Complaint) (ms : Members),
      Body.read complaint (.object (ms.named fun s => !Body.computedNames.contains s)) =
        Body.read complaint (.object ms) := by
  refine ⟨fun r => ?_, Body.read_computed⟩
  obtain ⟨d, hd⟩ := toData_ok_iff.mpr hbody
  exact ⟨d, hd, read_toData ht hd, validate_toData ht hd, ofStored_toData ht hd⟩

/-- A template with an identifier, a header without an address, a body with a repeated variable and
a sample too few, no footer, and two buttons. -/
def orderShipped : Template where
  id := some (.text "tpl_1")
  name := "order_shipped"
  language := "en"
  category := Category.utility.word
  header := some { enabled := true, format := HeaderFormat.image.word, filename := some "box.png" }
  body := ⟨"Order \x7b\x7b2\x7d\x7d of \x7b\x7b1\x7d\x7d, \x7b\x7b1\x7d\x7d", ["Ada"]⟩
  buttons := some ⟨false, [{ text := some "Thanks" },
    { kind := some ButtonKind.phoneNumber.word, text := some "", phoneNumber := some "+491" }]⟩

theorem written_read_orderShipped :
    orderShipped.WellTyped ∧ Variable.Readable orderShipped.body.text ∧
    ∃ d, orderShipped.toData .exchanged = .ok d ∧
      d.get? "footer" = none ∧
      (d.get? "body").bind (·.get? "variables") = some (.list [.int 1, .int 2]) ∧
      Template.read d = .value orderShipped ∧
      (∀ step, d.validate step = orderShipped.validate step) ∧
      ofStored (.object [("template", d)]) = .ok orderShipped := by
  have ht : orderShipped.WellTyped := by
    refine ⟨?_, ?_⟩
    · rintro _ ⟨⟩
      exact ⟨"tpl_1", rfl⟩
    · rintro _ ⟨⟩
      decide
  have hbody : Variable.Readable orderShipped.body.text := by
    unfold Variable.Readable
    decide +kernel
  have hmembers : (orderShipped.toData .exchanged).map
      (fun d => (d.get? "footer", (d.get? "body").bind (·.get? "variables"))) =
        .ok (none, some (.list [.int 1, .int 2])) := by
    decide +kernel
  obtain ⟨d, hd, hread⟩ := (written_read ht hbody).1 .exchanged
  rw [hd] at hmembers
  obtain ⟨hfooter, hvariables⟩ := Prod.mk.inj (Except.ok.inj hmembers)
  exact ⟨ht, hbody, d, hd, hfooter, hvariables, hread⟩

end Template

end MessageTemplate
