import MessageTemplate.Proofs.Component.RoundTrip
import MessageTemplate.Proofs.Validation.Admissible

/-!
# Submissions of valid templates

The rules look at a template and the components are made from it apart from them: each decides on
its own which parts are there and which samples count. Together they give what the platform takes.

* `Data.NullFree` — a value without null at any depth;
* `Data.IsHeader`, `Data.IsBody`, `Data.IsFooter`, `Data.IsButtonEntry`, `Data.IsButtons` — what the
  platform takes as components, said by their members;
* `Submission.WellFormed` — a submission of such components, in their order;
* `Template.submission_wellFormed` — the submission of a valid template is well-formed.
-/

set_option autoImplicit false

namespace MessageTemplate

/-! ## Well-formed submissions -/

namespace Data

/-- No null stands in the value, however deep. -/
inductive NullFree : Data → Prop
  | bool (b : Bool) : NullFree (.bool b)
  | int (n : Int) : NullFree (.int n)
  | float (x : Binary64) : NullFree (.float x)
  | str (s : String) : NullFree (.str s)
  | list {items : List Data} (h : ∀ d ∈ items, NullFree d) : NullFree (.list items)
  | object {ms : Members} (h : ∀ m ∈ ms, NullFree m.2) : NullFree (.object ms)

/-- The component has the word of the kind. -/
def OfKind (k : ComponentKind) (d : Data) : Prop := d.get? "type" = some (.str k.word)

/-- The text of a component or of a button. -/
def HasText (text : String) (d : Data) : Prop := d.get? "text" = some (.str text)

/-- The samples that a component gives under a name. -/
def samplesUnder? (name : String) (d : Data) : Option Data := (d.get? "example").bind (·.get? name)

/-- A header is of a known format. One of text has a short text, and one sample if this has a
variable. -/
structure IsHeader (d : Data) : Prop where
  format : ∃ f : HeaderFormat, d.get? "format" = some (.str f.word)
  text : d.get? "format" = some (.str "TEXT") →
    ∃ text, d.HasText text ∧ 1 ≤ text.length ∧ text.length ≤ 60 ∧
      (Variable.tokens text ≠ [] →
        ∃ sample, sample ≠ "" ∧ d.samplesUnder? "header_text" = some (.list [.str sample]))

/-- A body numbers its variables from one and has one row of samples, with one for each of them. -/
def IsBody (d : Data) : Prop :=
  ∃ text ordinals, d.HasText text ∧ Variable.ordinals text = .ok ordinals ∧
    (ordinals ≠ [] → ordinals = List.range' 1 ordinals.length ∧
      ∃ samples : List String, ordinals.length ≤ samples.length ∧
        d.samplesUnder? "body_text" = some (.list [.list (samples.map .str)]))

/-- A footer has a short text without variables. -/
def IsFooter (d : Data) : Prop :=
  ∃ text, d.HasText text ∧ 1 ≤ text.length ∧ text.length ≤ 60 ∧ Variable.tokens text = []

/-- The button is of the kind. -/
def OfButtonKind (k : ButtonKind) (d : Data) : Prop := d.get? "type" = some (.str k.word)

instance (k : ButtonKind) : DecidablePred (OfButtonKind k) :=
  fun d => inferInstanceAs (Decidable (d.get? "type" = some (.str k.word)))

/-- A button is of a known kind and has a short text and what its kind needs. -/
structure IsButtonEntry (d : Data) : Prop where
  kind : ∃ k, d.OfButtonKind k
  text : ∃ text, d.HasText text ∧ 1 ≤ text.length ∧ text.length ≤ 25
  url : d.OfButtonKind .url →
    ∃ url, d.get? "url" = some (.str url) ∧ "https://".toList <+: url.toList
  phoneNumber : d.OfButtonKind .phoneNumber →
    ∃ phone, phone ≠ "" ∧ d.get? "phone_number" = some (.str phone)

/-- Buttons are between one and ten, at most two of which open an address and at most one of which
calls a number. -/
def IsButtons (d : Data) : Prop :=
  ∃ entries, d.get? "buttons" = some (.list entries) ∧ 1 ≤ entries.length ∧ entries.length ≤ 10 ∧
    (∀ entry ∈ entries, entry.IsButtonEntry) ∧
    entries.countP (fun entry => entry.OfButtonKind .url) ≤ 2 ∧
    entries.countP (fun entry => entry.OfButtonKind .phoneNumber) ≤ 1

/-- A component is as the platform takes those of its kind. -/
structure IsComponent (d : Data) : Prop where
  nullFree : d.NullFree
  header : d.OfKind .header → d.IsHeader
  body : d.OfKind .body → d.IsBody
  footer : d.OfKind .footer → d.IsFooter
  buttons : d.OfKind .buttons → d.IsButtons

/-- A component is as the platform takes it for a code that is sent: it is no header, a body has the
first variable, and there is one button at most, which copies the code or opens an address. -/
structure CarriesCode (d : Data) : Prop where
  header : ¬ d.OfKind .header
  body : d.OfKind .body → ∃ text ordinals,
    d.HasText text ∧ Variable.ordinals text = .ok ordinals ∧ 1 ∈ ordinals
  buttons : d.OfKind .buttons → ∃ entries, d.get? "buttons" = some (.list entries) ∧
    entries.length ≤ 1 ∧ ∀ entry ∈ entries, entry.OfButtonKind .copyCode ∨ entry.OfButtonKind .url

end Data

/-- A submission as the platform takes it. -/
structure Submission.WellFormed (s : Submission) : Prop where
  kinds : ∃ kinds : List ComponentKind, kinds.Sublist ComponentKind.all ∧ .body ∈ kinds ∧
    s.components.map (·.get? "type") = kinds.map fun k => some (.str k.word)
  components : ∀ d ∈ s.components, d.IsComponent
  authentication : s.category = "AUTHENTICATION" → ∀ d ∈ s.components, d.CarriesCode

/-! ## Components of a template -/

open Data (NullFree OfKind)

theorem ComponentKind.word_inj {k k' : ComponentKind} (h : k.word = k'.word) : k = k' := by
  revert h
  cases k <;> cases k' <;> decide

@[simp] theorem get?_type_component (k : ComponentKind) (ms : Members) :
    (component k ms).get? "type" = some (.str k.word) := rfl

@[simp] theorem ofKind_component {k k' : ComponentKind} {ms : Members} :
    (component k ms).OfKind k' ↔ k = k' := by
  unfold OfKind
  rw [get?_type_component]
  constructor
  · exact fun h => ComponentKind.word_inj (Data.str.inj (Option.some.inj h))
  · rintro rfl
    rfl

theorem component_nullFree {k : ComponentKind} {ms : Members} (h : ∀ m ∈ ms, m.2.NullFree) :
    (component k ms).NullFree :=
  .object (List.forall_mem_cons.mpr ⟨.str _, h⟩)

/-- A component is as the platform takes it if it is so for the kind that it has. -/
theorem isComponent_component {k : ComponentKind} {ms : Members}
    (hnull : ∀ m ∈ ms, m.2.NullFree)
    (hkind : match k with
      | .header => (component k ms).IsHeader
      | .body => (component k ms).IsBody
      | .footer => (component k ms).IsFooter
      | .buttons => (component k ms).IsButtons) : (component k ms).IsComponent := by
  refine ⟨component_nullFree hnull, ?_, ?_, ?_, ?_⟩
  all_goals
    intro h
    obtain rfl := ofKind_component.mp h
    exact hkind

theorem nullFree_sample (name : String) {d : Data} (h : d.NullFree) :
    (Data.object [(name, .list [d])]).NullFree :=
  .object (by
    rintro m hm
    obtain rfl := List.mem_singleton.mp hm
    exact .list (by
      rintro d' hd
      obtain rfl := List.mem_singleton.mp hd
      exact h))

namespace Header

variable {h : Header}

theorem content_nullFree : ∀ m ∈ ("format", Data.str h.format) :: h.content, m.2.NullFree := by
  refine List.forall_mem_cons.mpr ⟨.str _, ?_⟩
  have hsample (name : String) (sample : String) :
      ∀ m ∈ [("example", Data.object [(name, .list [.str sample])])], m.2.NullFree := by
    intro m hm
    obtain rfl := List.mem_singleton.mp hm
    exact nullFree_sample name (.str sample)
  unfold content
  split
  · refine List.forall_mem_cons.mpr ⟨.str _, ?_⟩
    unfold textSample
    split
    · split
      · exact hsample _ _
      · exact List.forall_mem_nil _
    · exact List.forall_mem_nil _
  · unfold mediaSample
    split
    · exact hsample _ _
    · exact List.forall_mem_nil _
  · exact List.forall_mem_nil _

theorem isHeader_component (hadmissible : h.Admissible) :
    (component .header (("format", .str h.format) :: h.content)).IsHeader := by
  unfold Admissible at hadmissible
  have hformat : (Data.object h.members).get? "format" = some (.str h.format) := rfl
  constructor
  · cases hf : h.format? with
    | none =>
      rw [hf] at hadmissible
      exact hadmissible.elim
    | some f => exact ⟨f, hformat.trans (by rw [HeaderFormat.ofWord?_eq_some_iff.mp hf])⟩
  · intro htext
    have hf : h.format? = some .text := HeaderFormat.ofWord?_eq_some_iff.mpr
      (Data.str.inj (Option.some.inj (hformat.symm.trans htext)))
    rw [hf] at hadmissible
    obtain ⟨hpos, hshort, hvariables⟩ := hadmissible
    refine ⟨h.text, ?_, hpos, hshort, fun hne => ?_⟩
    · show Members.get? h.members "text" = _
      simp [members, content, hf, Members.get?, List.lookup_cons]
    · obtain ⟨_, _, hsample⟩ := hvariables.resolve_left hne
      obtain ⟨sample, hs⟩ := Option.isSome_iff_exists.mp hsample
      have hgiven : ¬ sample.isEmpty = true := by
        simpa using (Option.filter_eq_some_iff.mp hs).2
      refine ⟨sample, fun h => hgiven (String.isEmpty_iff.mpr h), ?_⟩
      show (Members.get? h.members "example").bind _ = _
      rw [example_text hf, if_neg hne, hs]
      rfl

end Header

/-- A text without variables has no ordinals. -/
theorem Variable.ordinals_of_plain {text : String} (h : tokens text = []) :
    ordinals text = .ok [] := by
  have hruns : digitRuns text = [] := List.map_eq_nil_iff.mp h
  unfold ordinals
  rw [hruns]
  rfl

namespace Body

variable {b : Body}

theorem sampleMembers_nullFree : ∀ m ∈ b.sampleMembers, m.2.NullFree := by
  unfold sampleMembers
  split
  · intro m hm
    obtain rfl := List.mem_singleton.mp hm
    refine nullFree_sample _ (.list fun d hd => ?_)
    obtain ⟨s, _, rfl⟩ := List.mem_map.mp hd
    exact .str s
  · exact List.forall_mem_nil _

theorem isComponent (hb : b.Admissible) : b.component.IsComponent := by
  obtain ⟨k, hordinals, hk⟩ := hb.sampled
  refine isComponent_component (List.forall_mem_cons.mpr ⟨.str _, sampleMembers_nullFree⟩)
    ⟨b.text, _, rfl, hordinals, fun hne => ?_⟩
  have hlength : (List.range' 1 k).length = k := List.length_range'
  have htokens : Variable.tokens b.text ≠ [] := by
    intro h
    rw [Variable.ordinals_of_plain h] at hordinals
    exact hne (Except.ok.inj hordinals).symm
  have hsamples : b.samples ≠ [] := by
    intro h
    rw [h] at hk
    obtain rfl := Nat.le_zero.mp hk
    exact hne rfl
  refine ⟨by rw [hlength], b.samples, hlength.trans_le hk, ?_⟩
  have hmembers : b.sampleMembers =
      [("example", .object [("body_text", .list [.list (b.samples.map .str)])])] := by
    simp [sampleMembers, Variable.occurs_iff, htokens, hsamples]
  rw [hmembers]
  rfl

end Body

theorem Footer.isComponent {f : Footer} (hf : f.Admissible) (hne : f.text ≠ "") :
    (component .footer [("text", .str f.text)]).IsComponent := by
  have hpos : 1 ≤ f.text.length :=
    Nat.one_le_iff_ne_zero.mpr (mt String.length_eq_zero_iff.mp hne)
  refine isComponent_component ?_ ⟨f.text, rfl, hpos, hf.short, hf.plain⟩
  intro m hm
  obtain rfl := List.mem_singleton.mp hm
  exact .str _

/-! ## Buttons -/

namespace Button

variable {b : Button} {category : String}

/-- An entry is of a kind exactly if the button is. -/
theorem entry_ofButtonKind_iff {k : ButtonKind} : b.entry.OfButtonKind k ↔ b.kind? = some k := by
  have htype : b.entry.get? "type" = some (.ofText? b.kind) := rfl
  unfold Data.OfButtonKind kind?
  rw [htype]
  cases b.kind <;> simp [Data.ofText?, ButtonKind.ofWord?_eq_some_iff]

theorem action_nullFree {k : ButtonKind} (hk : b.kind? = some k) (hb : b.Equipped k) :
    ∀ m ∈ b.action, m.2.NullFree := by
  unfold action
  rw [hk]
  cases k with
  | quickReply => exact List.forall_mem_nil _
  | url =>
    obtain ⟨url, hurl, _⟩ := hb
    obtain ⟨hurl, _⟩ := Option.filter_eq_some_iff.mp hurl
    simp [hurl, Data.ofText?, NullFree.str]
  | phoneNumber =>
    obtain ⟨phone, hphone, _⟩ := hb
    obtain ⟨hphone, _⟩ := Option.filter_eq_some_iff.mp hphone
    simp [hphone, Data.ofText?, NullFree.str]
  | copyCode => cases given? b.sample <;> simp [NullFree.str]

theorem entry_nullFree (hb : b.Admissible category) : b.entry.NullFree := by
  obtain ⟨k, hk, _, hequipped⟩ := hb.kind
  obtain ⟨text, htext, _⟩ := hb.text
  unfold entry
  rw [kind_of_kind? hk, htext]
  exact .object (List.forall_mem_cons.mpr ⟨.str _,
    List.forall_mem_cons.mpr ⟨.str _, action_nullFree hk hequipped⟩⟩)

theorem entry_isButtonEntry (hb : b.Admissible category) : b.entry.IsButtonEntry := by
  obtain ⟨k, hk, _, hequipped⟩ := hb.kind
  obtain ⟨text, htext, hpos, hshort⟩ := hb.text
  refine ⟨⟨k, entry_ofButtonKind_iff.mpr hk⟩, ⟨text, ?_, hpos, hshort⟩, fun hurl => ?_,
    fun hphone => ?_⟩
  · show some (Data.ofText? b.text) = _
    rw [htext]
    rfl
  · rw [entry_ofButtonKind_iff, hk] at hurl
    obtain rfl := Option.some.inj hurl
    obtain ⟨url, hgiven, hsecure⟩ := hequipped
    obtain ⟨hgiven, _⟩ := Option.filter_eq_some_iff.mp hgiven
    refine ⟨url, ?_, List.isPrefixOf_iff_prefix.mp hsecure⟩
    simp [entry, action, hk, hgiven, Data.get?, Members.get?, List.lookup_cons, Data.ofText?]
  · rw [entry_ofButtonKind_iff, hk] at hphone
    obtain rfl := Option.some.inj hphone
    obtain ⟨phone, hgiven, _⟩ := hequipped
    obtain ⟨hgiven, hne⟩ := Option.filter_eq_some_iff.mp hgiven
    refine ⟨phone, by simpa using hne, ?_⟩
    simp [entry, action, hk, hgiven, Data.get?, Members.get?, List.lookup_cons, Data.ofText?]

end Button

namespace ButtonSet

variable {items : List Button} {category : String}

theorem countP_entry (k : ButtonKind) :
    (items.map Button.entry).countP (fun entry => entry.OfButtonKind k) = count items k := by
  unfold count
  rw [List.countP_map]
  refine List.countP_congr fun b _ => ?_
  simp [Button.entry_ofButtonKind_iff]

theorem isComponent (hitems : Admissible category items) (hne : items ≠ []) :
    (component .buttons [("buttons", .list (items.map Button.entry))]).IsComponent := by
  refine isComponent_component ?_ ⟨_, rfl, ?_, ?_, ?_, ?_, ?_⟩
  · intro m hm
    obtain rfl := List.mem_singleton.mp hm
    exact .list (List.forall_mem_map.mpr fun b hb => Button.entry_nullFree (hitems.each b hb))
  · rw [List.length_map]
    exact List.length_pos_iff.mpr hne
  · rw [List.length_map]
    exact hitems.few.1
  · exact List.forall_mem_map.mpr fun b hb => Button.entry_isButtonEntry (hitems.each b hb)
  · rw [countP_entry]
    exact hitems.urls
  · rw [countP_entry]
    exact hitems.phones

/-- Buttons that are admissible for a code. -/
theorem carriesCode (hitems : Admissible Category.authentication.word items) :
    (component .buttons [("buttons", .list (items.map Button.entry))]).CarriesCode := by
  refine ⟨by simp, by simp, fun _ => ⟨_, rfl, ?_, ?_⟩⟩
  · rw [List.length_map]
    exact hitems.few.2
  · refine List.forall_mem_map.mpr fun b hb => ?_
    obtain ⟨k, hk, hallowed, _⟩ := (hitems.each b hb).kind
    rw [Button.entry_ofButtonKind_iff, Button.entry_ofButtonKind_iff, hk]
    revert hallowed
    cases k <;> decide

end ButtonSet

/-! ## Templates -/

namespace Template

variable {t : Template}

/-- A property of all components that come of a template, part by part. -/
theorem forall_components {P : Data → Prop}
    (hheader : ∀ h ∈ t.header, h.enabled = true →
      P (component .header (("format", .str h.format) :: h.content)))
    (hbody : P t.body.component)
    (hfooter : ∀ f ∈ t.footer, f.enabled = true → f.text ≠ "" →
      P (component .footer [("text", .str f.text)]))
    (hbuttons : ∀ set ∈ t.buttons, set.enabled = true → set.items ≠ [] →
      P (component .buttons [("buttons", .list (set.items.map Button.entry))])) :
    ∀ d ∈ t.components, P d := by
  intro d hd
  simp only [components, List.mem_append, Option.mem_toList, List.mem_singleton,
    Option.bind_eq_some_iff] at hd
  obtain ((⟨h, hh, hd⟩ | rfl) | ⟨f, hf, hd⟩) | ⟨set, hset, hd⟩ := hd
  · unfold Header.component? at hd
    split at hd
    · cases hd
      exact hheader h hh ‹_›
    · cases hd
  · exact hbody
  · unfold Footer.component? at hd
    split at hd
    · rename_i hon
      cases hd
      simp only [Bool.and_eq_true, Bool.not_eq_true', Bool.eq_false_iff, ne_eq,
        String.isEmpty_iff] at hon
      exact hfooter f hf hon.1 hon.2
    · cases hd
  · unfold ButtonSet.component? at hd
    split at hd
    · rename_i hon
      cases hd
      simp only [Bool.and_eq_true, Bool.not_eq_true', List.isEmpty_eq_false_iff] at hon
      exact hbuttons set hset hon.1 hon.2
    · cases hd

/-- The kinds of the components: some of all kinds, in their order, and always a body. -/
theorem components_kinds (t : Template) :
    ∃ kinds : List ComponentKind, kinds.Sublist ComponentKind.all ∧ .body ∈ kinds ∧
      t.components.map (·.get? "type") = kinds.map fun k => some (.str k.word) := by
  have hpart {α : Type} (part : Option α) (component? : α → Option Data) (k : ComponentKind)
      (hk : ∀ a d, component? a = some d → ∃ ms, d = component k ms) :
      ∃ kinds : List ComponentKind, kinds.Sublist [k] ∧
        (part.bind component?).toList.map (·.get? "type") =
          kinds.map fun k => some (.str k.word) := by
    cases hd : part.bind component? with
    | none => exact ⟨[], List.nil_sublist _, rfl⟩
    | some d =>
      obtain ⟨a, _, ha⟩ := Option.bind_eq_some_iff.mp hd
      obtain ⟨ms, rfl⟩ := hk a d ha
      exact ⟨[k], List.Sublist.refl _, rfl⟩
  obtain ⟨headers, hheaders, hheader⟩ := hpart t.header Header.component? .header (by
    intro h d hd
    unfold Header.component? at hd
    split at hd <;> cases hd
    exact ⟨_, rfl⟩)
  obtain ⟨footers, hfooters, hfooter⟩ := hpart t.footer Footer.component? .footer (by
    intro f d hd
    unfold Footer.component? at hd
    split at hd <;> cases hd
    exact ⟨_, rfl⟩)
  obtain ⟨buttons, hbuttons, hbutton⟩ := hpart t.buttons ButtonSet.component? .buttons (by
    intro set d hd
    unfold ButtonSet.component? at hd
    split at hd <;> cases hd
    exact ⟨_, rfl⟩)
  refine ⟨headers ++ [.body] ++ footers ++ buttons, ?_, by simp, ?_⟩
  · exact ((hheaders.append (List.Sublist.refl [.body])).append hfooters).append hbuttons
  · unfold components
    simp only [List.map_append, hheader, hfooter, hbutton]
    rfl

theorem isComponent_of_admissible (hcontent : t.AdmissibleContent)
    (hbuttons : t.AdmissibleButtons) :
    ∀ d ∈ t.components, d.IsComponent :=
  forall_components
    (fun h hh hon => isComponent_component Header.content_nullFree
      (Header.isHeader_component (hcontent.header h hh hon)))
    (Body.isComponent hcontent.body)
    (fun f hf hon => Footer.isComponent (hcontent.footer f hf hon))
    (fun set hset hon hne => ButtonSet.isComponent (hbuttons set hset hon hne) hne)

theorem carriesCode_of_admissible (hcategory : t.category = Category.authentication.word)
    (hcontent : t.AdmissibleContent) (hbuttons : t.AdmissibleButtons) :
    ∀ d ∈ t.components, d.CarriesCode := by
  obtain ⟨hnone, ordinals, hordinals, hfirst⟩ := hcontent.authentication hcategory
  refine forall_components (fun h hh hon => ?_) ?_ (fun f hf _ _ => ?_) fun set hset hon hne => ?_
  · exact absurd (hon.symm.trans (hnone h hh)) nofun
  · exact ⟨by simp [Body.component], fun _ => ⟨t.body.text, ordinals, rfl, hordinals, hfirst⟩,
      by simp [Body.component]⟩
  · exact ⟨by simp, by simp, by simp⟩
  · have hset := hbuttons set hset hon hne
    rw [hcategory] at hset
    exact ButtonSet.carriesCode hset

/-- **The submission of a valid template is well-formed**, whatever its category and its parts. -/
theorem submission_wellFormed (h : t.Valid) : t.submission.WellFormed := by
  obtain ⟨_, hcontent, hbuttons⟩ := valid_review_iff.mp h
  exact ⟨t.components_kinds, isComponent_of_admissible hcontent hbuttons,
    fun hcategory => carriesCode_of_admissible hcategory hcontent hbuttons⟩

/-- A template with all parts, whose body repeats a variable. -/
def summerSale : Template where
  name := "summer_sale"
  language := "en"
  category := Category.marketing.word
  header := some { enabled := true, text := "Hello {{1}}", sample := some "Ana" }
  body := ⟨"Hi {{1}}, *{{2}}* off for {{1}}.", ["Ana", "20%"]⟩
  footer := some ⟨true, "Reply STOP to opt out"⟩
  buttons := some ⟨true, [
    { kind := some ButtonKind.url.word, text := some "Shop", url := some "https://shop.example" },
    { kind := some ButtonKind.phoneNumber.word, text := some "Call",
      phoneNumber := some "+1 555 123" }]⟩

/-- A template that sends a code. -/
def loginCode : Template where
  name := "login_code"
  language := "en_US"
  category := Category.authentication.word
  header := some { enabled := false, text := "Login" }
  body := ⟨"Your code is {{1}}", ["123456"]⟩
  buttons := some ⟨true, [{ kind := some ButtonKind.copyCode.word, text := some "Copy" }]⟩

theorem submission_wellFormed_summerSale :
    (summerSale.Valid ∧ summerSale.submission.components.length = 4 ∧
      summerSale.submission.WellFormed) ∧
    loginCode.Valid ∧ loginCode.submission.components.length = 2 ∧
      loginCode.submission.WellFormed := by
  have hsale : summerSale.Valid := ⟨_, rfl, by decide +kernel⟩
  have hcode : loginCode.Valid := ⟨_, rfl, by decide +kernel⟩
  exact ⟨⟨hsale, by decide +kernel, submission_wellFormed hsale⟩,
    hcode, by decide +kernel, submission_wellFormed hcode⟩

end Template

end MessageTemplate
