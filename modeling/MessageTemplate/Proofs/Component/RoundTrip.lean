import MessageTemplate.Component.Reading
import Mathlib.Tactic.Common

/-!
# What a submission keeps of a template

* `Header.kept`, `Body.kept`, `Footer.kept`, `Button.kept`, `ButtonSet.kept` — what comes back of
  a part that is sent and read again, said part by part and without reference to components;
* `Template.kept` — the same for a whole template;
* `ofSubmission_submission` — reading the submission of a well-typed template succeeds and gives
  exactly `Template.kept`, so nothing is lost beyond what that definition leaves out.

The parts are read one after another by `Parts.addAll`; `addAll_append` splits the list of
components at their seams, and each part then has its own lemma.
-/

set_option autoImplicit false

namespace MessageTemplate

/-! ## What is kept -/

namespace Header

/-- The one sample that a media header can send: its handle, or else its address. -/
def mediumSent? (h : Header) : Option String :=
  match given? h.mediaHandle with
  | some handle => some handle
  | none => given? h.mediaUrl

/-- Whether a text begins like an address on the web. -/
def isWebAddress (s : String) : Bool :=
  "http://".toList.isPrefixOf s.toList || "https://".toList.isPrefixOf s.toList

/-- What comes back of a header. A header that is off comes back as the default. -/
def kept (h : Header) : Header :=
  if h.enabled then
    match h.format? with
    | some .text =>
      { enabled := true, format := h.format, text := h.text,
        sample := if Variable.tokens h.text = [] then none else given? h.sample }
    | some _ =>
      { enabled := true, format := h.format,
        mediaUrl := h.mediumSent?.filter isWebAddress,
        mediaHandle := h.mediumSent?.filter fun sample => !isWebAddress sample }
    | none => { enabled := true, format := h.format }
  else {}

end Header

namespace Body

/-- What comes back of a body. -/
def kept (b : Body) : Body :=
  { text := b.text, samples := if Variable.tokens b.text = [] then [] else b.samples }

end Body

namespace Footer

/-- What comes back of a footer. A footer that is off or empty comes back as the default. -/
def kept (f : Footer) : Footer :=
  if f.enabled && f.text != "" then { enabled := true, text := f.text } else {}

end Footer

namespace Button

/-- What comes back of a button: beside kind and text only what its kind is for. -/
def kept (b : Button) : Button :=
  { kind := b.kind
    text := b.text
    url := if b.kind = some ButtonKind.url.word then b.url else none
    phoneNumber := if b.kind = some ButtonKind.phoneNumber.word then b.phoneNumber else none
    sample := if b.kind = some ButtonKind.copyCode.word then given? b.sample else none }

end Button

namespace ButtonSet

/-- What comes back of a set of buttons. A set that is off or empty comes back as the default. -/
def kept (set : ButtonSet) : ButtonSet :=
  if set.enabled && set.items != [] then
    { enabled := true, items := set.items.map Button.kept }
  else {}

end ButtonSet

namespace Template

/-- What comes back of a template. The identifier is not sent, and every part comes back, off where
the template has none. -/
def kept (t : Template) : Template :=
  { id := none
    name := t.name
    language := t.language
    category := t.category
    header := some (t.headerOrDefault.kept)
    body := t.body.kept
    footer := some (t.footerOrDefault.kept)
    buttons := some (t.buttonsOrDefault.kept) }

/-- What comes back of a template under an identifier that is not sent with it. -/
def keptAs (t : Template) (id : Option String) : Template :=
  { t.kept with id := id.map .text }

end Template

namespace Header

variable {h : Header}

theorem enabled_kept (h : Header) : h.kept.enabled = h.enabled := by
  unfold kept
  split
  · rename_i hon
    rw [hon]
    split <;> rfl
  · rename_i hoff
    exact ((Bool.not_eq_true _).mp hoff).symm

theorem format_kept (hon : h.enabled = true) : h.kept.format = h.format := by
  unfold kept
  rw [if_pos hon]
  split <;> rfl

theorem format?_kept (hon : h.enabled = true) : h.kept.format? = h.format? := by
  rw [format?, format_kept hon, format?]

theorem kept_of_text (hon : h.enabled = true) (hf : h.format? = some .text) :
    h.kept =
      { enabled := true, format := h.format, text := h.text
        sample := if Variable.tokens h.text = [] then none else given? h.sample } := by
  simp [kept, hon, hf]

theorem kept_of_medium {f : HeaderFormat} (hon : h.enabled = true) (hf : h.format? = some f)
    (hne : f ≠ .text) :
    h.kept =
      { enabled := true, format := h.format
        mediaUrl := h.mediumSent?.filter isWebAddress
        mediaHandle := h.mediumSent?.filter fun sample => !isWebAddress sample } := by
  cases f <;> simp [kept, hon, hf] at hne ⊢

end Header

/-- A part that may be missing counts as its default, of which there is nothing to tell. -/
theorem bind_eq_apply_getD {α β : Type} {f : α → Option β} {default : α} (h : f default = none)
    (a : Option α) : a.bind f = f (a.getD default) := by
  cases a with
  | none => exact h.symm
  | some a => rfl

/-! ## Words and samples -/

@[simp] theorem given?_none : given? none = none := rfl

@[simp] theorem given?_given? (s : Option String) : given? (given? s) = given? s := by
  simp [given?]

/-- The word of a component is read in the same way whatever stands beside it. -/
theorem Parts.kindOf?_word (k : ComponentKind) (ms : Members) :
    Parts.kindOf? (("type", .str k.word) :: ms) = some k := by
  cases k <;> simp [Parts.kindOf?, Members.getD, Members.get?, Data.text] <;> decide

/-- A sample object with one member shows this member. -/
theorem sampleOf?_of_example {ms : Members} {name : String} {d : Data}
    (h : Members.get? ms "example" = some (.object [(name, d)])) (hd : d.isEmptyish = false) :
    sampleOf? ms name = .ok (some d) := by
  have hg : Members.given? ms "example" = some (.object [(name, d)]) := by
    simp [Members.given?, h, Data.isEmptyish]
  have hp : Members.given? [(name, d)] name = some d := by
    simp [Members.given?, Members.get?, hd]
  simp [sampleOf?, hg, Data.parts, hp]

theorem sampleOf?_of_no_example {ms : Members} (h : Members.get? ms "example" = none)
    (name : String) : sampleOf? ms name = .ok none := by
  simp [sampleOf?, Members.given?, h]

/-- A sample that was sent is found again, and null where none was sent. -/
theorem firstSample_of_example {ms : Members} {name : String} {sample : Option String}
    (h : Members.get? ms "example" = sample.map fun s => .object [(name, .list [.str s])]) :
    firstSample ms name = .ok (.ofText? sample) := by
  cases sample with
  | none => simp [firstSample, sampleOf?_of_no_example h, Data.ofText?]
  | some s => simp [firstSample, sampleOf?_of_example h rfl, Data.first, Data.ofText?]

/-! ## Header -/

namespace Header

/-- The members of the component of a header. -/
def members (h : Header) : Members :=
  ("type", .str ComponentKind.header.word) :: ("format", .str h.format) :: h.content

theorem read_text (format text : String) (sample : Option String) :
    (Header.read .noPart (.object [("enabled", .bool true), ("format", .str format),
      ("text", .str text), ("example", .ofText? sample)])).result =
      .ok { enabled := true, format := format, text := text, sample := sample } := by
  cases sample <;>
    simp [Header.read, Header.readMembers, Read.part, Members.withoutNulls, Read.field,
      Read.member?, List.lookup_cons, Read.truth, Read.text, Read.optional, Reading.under,
      Reading.map, Reading.ap, Reading.result, Data.ofText?]

theorem read_medium (format : String) (sample : Option String) (address : Bool) :
    (Header.read .noPart (.object [("enabled", .bool true), ("format", .str format),
      (if address then "media_url" else "media_handle", .ofText? sample)])).result =
      .ok { enabled := true, format := format, mediaUrl := if address then sample else none,
            mediaHandle := if address then none else sample } := by
  cases address <;> cases sample <;>
    simp [Header.read, Header.readMembers, Read.part, Members.withoutNulls, Read.field,
      Read.member?, List.lookup_cons, Read.truth, Read.text, Read.optional, Reading.under,
      Reading.map, Reading.ap, Reading.result, Data.ofText?]

theorem getD_format (h : Header) (default : Data) :
    Members.getD h.members "format" default = .str h.format := by
  simp [members, Members.getD, Members.get?, List.lookup_cons]

theorem example_text {h : Header} (hf : h.format? = some .text) :
    Members.get? h.members "example" =
      (if Variable.tokens h.text = [] then none else given? h.sample).map
        fun s => .object [("header_text", .list [.str s])] := by
  have hc : h.content = ("text", .str h.text) :: h.textSample := by simp [content, hf]
  by_cases ht : Variable.tokens h.text = []
  · have ho : Variable.occurs h.text = false := by
      rw [Bool.eq_false_iff, ne_eq, Variable.occurs_iff]
      simp [ht]
    cases hs : given? h.sample <;>
      simp [members, Members.get?, List.lookup_cons, hc, textSample, ht, ho, hs]
  · have ho : Variable.occurs h.text = true := Variable.occurs_iff.mpr ht
    cases hs : given? h.sample <;>
      simp [members, Members.get?, List.lookup_cons, hc, textSample, ht, ho, hs]

theorem example_medium {h : Header} {f : HeaderFormat} (hf : h.format? = some f)
    (hne : f ≠ .text) :
    Members.get? h.members "example" =
      h.mediumSent?.map fun s => .object [("header_handle", .list [.str s])] := by
  have hc : h.content = h.mediaSample := by
    cases f <;> simp [content, hf] at hne ⊢
  cases hh : given? h.mediaHandle <;> cases hu : given? h.mediaUrl <;>
    simp [members, Members.get?, List.lookup_cons, hc, mediaSample, mediumSent?, hh, hu]

theorem example_other {h : Header} (hf : h.format? = none) :
    Members.get? h.members "example" = none := by
  simp [members, Members.get?, List.lookup_cons, content, hf]

theorem isAddress_ofText? (sample : Option String) :
    isAddress (.ofText? sample) = sample.any isWebAddress := by
  cases sample with
  | none => rfl
  | some s => simp [isAddress, Data.ofText?, isWebAddress, Bool.or_comm]

/-- A header of any other format than text keeps its one sample, under the name that fits it. -/
theorem ofComponent_medium {h : Header} {sample : Option String}
    (hf : h.format? ≠ some .text)
    (he : Members.get? h.members "example" =
      sample.map fun s => .object [("header_handle", .list [.str s])]) :
    Header.ofComponent h.members = .ok
      { enabled := true, format := h.format, mediaUrl := sample.filter isWebAddress,
        mediaHandle := sample.filter fun s => !isWebAddress s } := by
  have hw : h.format ≠ HeaderFormat.text.word := fun hw =>
    hf (HeaderFormat.ofWord?_eq_some_iff.mpr hw)
  have hs : firstSample h.members "header_handle" = .ok (.ofText? sample) :=
    firstSample_of_example he
  have hkind : (Data.str h.format).str? ≠ some HeaderFormat.text.word := by
    simpa [Data.str?] using hw
  simp only [Header.ofComponent, getD_format, if_neg hkind, hs, isAddress_ofText?, read_medium]
  cases sample with
  | none => rfl
  | some s => cases ha : isWebAddress s <;> simp [Option.filter, ha]

/-- **Reading the component of a header gives what is kept of it.** -/
theorem ofComponent_members {h : Header} (hon : h.enabled = true) :
    Header.ofComponent h.members = .ok h.kept := by
  cases hf : h.format? with
  | none =>
    rw [@ofComponent_medium h none (by simp [hf]) (example_other hf)]
    simp [kept, hon, hf]
  | some f =>
    by_cases ht : f = .text
    · subst ht
      have hw : h.format = HeaderFormat.text.word := HeaderFormat.ofWord?_eq_some_iff.mp hf
      have htext : Members.getD h.members "text" (.str "") = .str h.text := by
        simp [members, Members.getD, Members.get?, List.lookup_cons, content, hf]
      simp only [Header.ofComponent, getD_format, htext,
        firstSample_of_example (example_text hf)]
      rw [if_pos (by simp [Data.str?, hw]), read_text]
      simp [kept, hon, hf]
    · rw [ofComponent_medium (by simp [hf, ht]) (example_medium hf ht)]
      cases f <;> simp [kept, hon, hf] at ht ⊢

end Header

/-! ## Body and footer -/

namespace Body

/-- The members of the component of a body. -/
def members (b : Body) : Members :=
  ("type", .str ComponentKind.body.word) :: ("text", .str b.text) :: b.sampleMembers

theorem samplesOf_members (b : Body) :
    Body.samplesOf b.members =
      .ok ((if Variable.tokens b.text = [] then [] else b.samples).map .str) := by
  by_cases hsent : Variable.tokens b.text ≠ [] ∧ b.samples ≠ []
  · obtain ⟨ht, hs⟩ := hsent
    have ho : Variable.occurs b.text = true := Variable.occurs_iff.mpr ht
    have hm : b.sampleMembers =
        [("example", .object [("body_text", .list [.list (b.samples.map .str)])])] := by
      simp [sampleMembers, ho, hs]
    have hrow : sampleOf? b.members "body_text" = .ok (some (.list [.list (b.samples.map .str)])) :=
      sampleOf?_of_example (by simp [members, Members.get?, List.lookup_cons, hm]) rfl
    simp [samplesOf, hrow, Data.first, Data.entries, ht, Function.comp_def, Data.text]
  · have hm : b.sampleMembers = [] := by
      have : ¬ (Variable.occurs b.text = true ∧ b.samples ≠ []) := by
        rwa [Variable.occurs_iff]
      simp only [sampleMembers]
      rw [if_neg (by simpa using this)]
    have hnone : sampleOf? b.members "body_text" = .ok none :=
      sampleOf?_of_no_example (by simp [members, Members.get?, List.lookup_cons, hm]) _
    have hempty : (if Variable.tokens b.text = [] then [] else b.samples) = [] := by
      split
      · rfl
      · rename_i ht
        exact Classical.byContradiction fun hs => hsent ⟨ht, hs⟩
    simp [samplesOf, hnone, hempty]

theorem entriesFrom_texts (i : Nat) (texts : List String) :
    Reading.entriesFrom Read.text i (texts.map .str) = .value texts := by
  refine Reading.entriesFrom_map ?_ i
  intro s _
  rfl

theorem read_body (text : String) (samples : List String) :
    (Body.read .noPart (.object
      [("text", .str text), ("examples", .list (samples.map .str))])).result =
      .ok { text := text, samples := samples } := by
  simp [Body.read, Body.readMembers, Read.part, Members.withoutNulls, Read.field, Read.member?,
    List.lookup_cons, Read.text, Read.list, entriesFrom_texts, Reading.under, Reading.result]

/-- Reading the component of a body gives what is kept of it. -/
theorem ofComponent_members (b : Body) : Body.ofComponent b.members = .ok b.kept := by
  have ht : Members.getD b.members "text" (.str "") = .str b.text := by
    simp [members, Members.getD, Members.get?, List.lookup_cons]
  simp only [Body.ofComponent, samplesOf_members, ht, read_body, kept]

end Body

namespace Footer

/-- Reading the component of a footer that is sent gives what is kept of it. -/
theorem ofComponent_members {f : Footer} (hon : f.enabled = true) (ht : f.text ≠ "") :
    Footer.ofComponent [("type", .str ComponentKind.footer.word), ("text", .str f.text)] =
      .ok f.kept := by
  simp [Footer.ofComponent, Members.getD, Members.get?, List.lookup_cons, Footer.read,
    Footer.readMembers, Read.part, Members.withoutNulls, Read.field, Read.member?, Read.truth,
    Read.text, Reading.under, Reading.result, kept, hon, ht]

end Footer

/-! ## Buttons -/

namespace Button

theorem read_button (kind text : String) (url phone sample : Option String) :
    (Button.read .noPart (.object [("type", .str kind), ("text", .str text),
      ("url", .ofText? url), ("phone_number", .ofText? phone),
      ("example", .ofText? sample)])).result =
      .ok { kind := some kind, text := some text, url := url, phoneNumber := phone,
            sample := sample } := by
  cases url <;> cases phone <;> cases sample <;>
    simp [Button.read, Button.readMembers, Read.part, Members.withoutNulls, Read.field,
      Read.member?, List.lookup_cons, readText, Read.text, Read.optional, Reading.under,
      Reading.map, Reading.ap, Reading.result, Data.ofText?]

/-- What a button sends beside its kind and its text, member by member. -/
theorem getD_action {b : Button} {kind : String} (hk : b.kind = some kind) :
    Members.getD b.action "url" .null = .ofText? b.kept.url ∧
      Members.getD b.action "phone_number" .null = .ofText? b.kept.phoneNumber ∧
      sampleData b.action = .ofText? b.kept.sample := by
  have word (k : ButtonKind) : b.kind = some k.word ↔ b.kind? = some k := by
    simp [kind?, hk, ButtonKind.ofWord?_eq_some_iff]
  simp only [kept, word]
  cases hk' : b.kind? with
  | none => simp [action, hk', Members.getD, Members.get?, sampleData, Data.ofText?]
  | some k =>
    cases k with
    | quickReply => simp [action, hk', Members.getD, Members.get?, sampleData, Data.ofText?]
    | url =>
      simp [action, hk', Members.getD, Members.get?, List.lookup_cons, sampleData, Data.ofText?]
    | phoneNumber =>
      simp [action, hk', Members.getD, Members.get?, List.lookup_cons, sampleData, Data.ofText?]
    | copyCode =>
      cases hs : given? b.sample <;>
        simp [action, hk', hs, Members.getD, Members.get?, List.lookup_cons, sampleData,
          Data.ofText?]

/-- **Reading the entry of a button gives what is kept of it.** -/
theorem ofEntry_entry {b : Button} (h : b.WellTyped) : Button.ofEntry b.entry = .ok b.kept := by
  obtain ⟨kind, hk⟩ := Option.isSome_iff_exists.mp h.1
  obtain ⟨text, ht⟩ := Option.isSome_iff_exists.mp h.2
  obtain ⟨hurl, hphone, hsample⟩ := getD_action hk
  have hentry : b.entry = .object (("type", .str kind) :: ("text", .str text) :: b.action) := by
    simp [entry, hk, ht, Data.ofText?]
  have skip (name : String) (d : Data) (h1 : (name == "type") = false)
      (h2 : (name == "text") = false) :
      Members.getD (("type", .str kind) :: ("text", .str text) :: b.action) name d =
        Members.getD b.action name d := by
    simp [Members.getD, Members.get?, List.lookup_cons, h1, h2]
  have hs : sampleData (("type", .str kind) :: ("text", .str text) :: b.action) =
      .ofText? b.kept.sample := by
    rw [← hsample]
    simp only [sampleData, skip "example" .null rfl rfl]
  have htype : Members.getD (("type", .str kind) :: ("text", .str text) :: b.action) "type"
      (.str ButtonKind.quickReply.word) = .str kind := rfl
  have htext : Members.getD (("type", .str kind) :: ("text", .str text) :: b.action) "text"
      (.str "") = .str text := rfl
  simp only [ofEntry, hentry, Data.parts, htype, htext, hs, skip "url" .null rfl rfl, hurl,
    skip "phone_number" .null rfl rfl, hphone, read_button]
  simp [kept, hk, ht]

theorem ofEntries_map_entry {items : List Button} (h : ∀ b ∈ items, b.WellTyped) :
    Button.ofEntries (items.map Button.entry) = .ok (items.map Button.kept) := by
  induction items with
  | nil => rfl
  | cons b rest ih =>
    have hb := ofEntry_entry (h b (by simp))
    have hrest := ih fun c hc => h c (by simp [hc])
    simp [Button.ofEntries, hb, hrest]

end Button

namespace ButtonSet

/-- Reading the component of buttons that are sent gives what is kept of them. -/
theorem ofComponent_members {set : ButtonSet} (h : ∀ b ∈ set.items, b.WellTyped)
    (hon : set.enabled = true) (hi : set.items ≠ []) :
    ButtonSet.ofComponent [("type", .str ComponentKind.buttons.word),
      ("buttons", .list (set.items.map Button.entry))] = .ok set.kept := by
  have hb : Members.getD [("type", .str ComponentKind.buttons.word),
      ("buttons", .list (set.items.map Button.entry))] "buttons" (.list []) =
      .list (set.items.map Button.entry) := by
    simp [Members.getD, Members.get?, List.lookup_cons]
  simp [ButtonSet.ofComponent, hb, Data.entries, Button.ofEntries_map_entry h, kept, hon, hi]

end ButtonSet

/-! ## Parts -/

namespace Parts

theorem addAll_append {p q r : Parts} {ds es : List Data} (hd : p.addAll ds = .ok q)
    (he : q.addAll es = .ok r) : p.addAll (ds ++ es) = .ok r := by
  induction ds generalizing p with
  | nil =>
    cases hd
    exact he
  | cons d rest ih =>
    simp only [List.cons_append, addAll] at hd ⊢
    cases hp : p.add d with
    | error e => simp [hp] at hd
    | ok p' => exact ih (by simpa [hp] using hd)

theorem add_component (p : Parts) (k : ComponentKind) (ms : Members) :
    p.add (component k ms) =
      let all : Members := ("type", .str k.word) :: ms
      match k with
      | .header => (Header.ofComponent all).map fun h => { p with header := h }
      | .body => (Body.ofComponent all).map fun b => { p with body := b }
      | .footer => (Footer.ofComponent all).map fun f => { p with footer := f }
      | .buttons => (ButtonSet.ofComponent all).map fun set => { p with buttons := set } := by
  simp only [add, component, Data.parts, kindOf?_word]
  cases k <;> rfl

theorem addAll_toList {p q : Parts} {d? : Option Data} (hnone : d? = none → q = p)
    (hsome : ∀ d, d? = some d → p.add d = .ok q) : p.addAll d?.toList = .ok q := by
  cases d? with
  | none => rw [hnone rfl]; rfl
  | some d => simp [addAll, hsome d rfl]

theorem addAll_header {p : Parts} (hp : p.header = {}) (header : Option Header) :
    p.addAll (header.bind Header.component?).toList =
      .ok { p with header := (header.getD {}).kept } := by
  obtain _ | h := header
  · refine addAll_toList (fun _ => ?_) (fun d hd => by simp at hd)
    cases p
    cases hp
    rfl
  refine addAll_toList (fun hnone => ?_) (fun d hd => ?_)
  · have hoff : h.enabled = false := by simpa [Header.component?] using hnone
    simp [Header.kept, hoff, ← hp]
  · obtain ⟨hon, rfl⟩ : h.enabled = true ∧
        component .header (("format", .str h.format) :: h.content) = d := by
      simpa [Header.component?] using hd
    rw [add_component]
    exact congrArg (Except.map _) (Header.ofComponent_members hon)

theorem addAll_body (p : Parts) (b : Body) :
    p.addAll [b.component] = .ok { p with body := b.kept } := by
  have hb : p.add b.component = .ok { p with body := b.kept } := by
    rw [Body.component, add_component]
    exact congrArg (Except.map _) (Body.ofComponent_members b)
  simp [addAll, hb]

theorem addAll_footer {p : Parts} (hp : p.footer = {}) (footer : Option Footer) :
    p.addAll (footer.bind Footer.component?).toList =
      .ok { p with footer := (footer.getD {}).kept } := by
  obtain _ | f := footer
  · refine addAll_toList (fun _ => ?_) (fun d hd => by simp at hd)
    cases p
    cases hp
    rfl
  refine addAll_toList (fun hnone => ?_) (fun d hd => ?_)
  · have hoff : f.enabled = true → f.text = "" := by simpa [Footer.component?] using hnone
    have hk : f.kept = {} := by simpa [Footer.kept] using hoff
    simp [hk, ← hp]
  · obtain ⟨⟨hon, ht⟩, rfl⟩ : (f.enabled = true ∧ f.text ≠ "") ∧
        component .footer [("text", .str f.text)] = d := by
      simpa [Footer.component?] using hd
    rw [add_component]
    exact congrArg (Except.map _) (Footer.ofComponent_members hon ht)

theorem addAll_buttons {p : Parts} (hp : p.buttons = {}) {buttons : Option ButtonSet}
    (h : ∀ set ∈ buttons, ∀ b ∈ set.items, b.WellTyped) :
    p.addAll (buttons.bind ButtonSet.component?).toList =
      .ok { p with buttons := (buttons.getD {}).kept } := by
  obtain _ | set := buttons
  · refine addAll_toList (fun _ => ?_) (fun d hd => by simp at hd)
    cases p
    cases hp
    rfl
  refine addAll_toList (fun hnone => ?_) (fun d hd => ?_)
  · have hoff : set.enabled = true → set.items = [] := by
      simpa [ButtonSet.component?] using hnone
    have hk : set.kept = {} := by simpa [ButtonSet.kept] using hoff
    simp [hk, ← hp]
  · obtain ⟨⟨hon, hi⟩, rfl⟩ : (set.enabled = true ∧ set.items ≠ []) ∧
        component .buttons [("buttons", .list (set.items.map Button.entry))] = d := by
      simpa [ButtonSet.component?] using hd
    rw [add_component]
    exact congrArg (Except.map _) (ButtonSet.ofComponent_members (h set rfl) hon hi)

end Parts

/-! ## Templates -/

theorem Template.ofDetails_identified (name language category : String) (id : Option String) :
    Template.ofDetails
      { name := .str name, language := .str language, category := .str category,
        id := .ofText? id } =
      .ok { id := id.map .text, name := name, language := language, category := category } := by
  cases id <;>
    simp [Template.ofDetails, Template.read, Template.readWith, Template.readMembers, Read.part,
      Members.withoutNulls, Read.field, Read.optionalPart, Read.member?, List.lookup_cons,
      Read.text, Read.optional, Reading.under, Reading.map, Reading.ap, Reading.result,
      Data.ofText?]

/-- Reading the components of a template gives what is kept of it. -/
theorem Template.ofComponents_components {t : Template} (h : t.WellTyped) (id : Option String) :
    Template.ofComponents (.list t.components)
      { name := .str t.name, language := .str t.language, category := .str t.category,
        id := .ofText? id } = .ok (t.keptAs id) := by
  have hheader := Parts.addAll_header (p := {}) rfl t.header
  have hbody := Parts.addAll_append hheader (Parts.addAll_body _ t.body)
  have hfooter := Parts.addAll_append hbody (Parts.addAll_footer rfl t.footer)
  have hparts : ({} : Parts).addAll t.components = _ :=
    Parts.addAll_append hfooter (Parts.addAll_buttons rfl h.2)
  simp only [Template.ofComponents, Data.entries, hparts, Template.ofDetails_identified]
  rfl

/-- **Sending and reading again keeps exactly `Template.kept`**: for every template whose buttons
have a kind and a text, valid or not, the reading succeeds. -/
theorem Template.ofSubmission_submission {t : Template} (h : t.WellTyped) :
    Template.ofSubmission t.submission = .ok t.kept :=
  Template.ofComponents_components h none

/-- A saved template that loses something in every part. -/
def Template.overfull : Template :=
  { id := some (.text "tpl_1")
    name := "Spring Sale"
    language := "en"
    category := "MARKETING"
    header := some
      { enabled := true, format := "VIDEO", text := "Look", mediaUrl := some "http://a.example/v",
        mediaHandle := some "", filename := some "v.mp4" }
    body := { text := "Hi there", samples := ["Ana"] }
    footer := some { enabled := false, text := "Bye" }
    buttons := some
      { enabled := true
        items := [{ kind := some "URL", text := some "Go", url := some "", sample := some "x" },
          { kind := some "COPY_CODE", text := some "", phoneNumber := some "+1",
            sample := some "" }] } }

theorem Template.ofSubmission_overfull :
    Template.overfull.WellTyped ∧
      Template.ofSubmission Template.overfull.submission = .ok
        { name := "Spring Sale", language := "en", category := "MARKETING"
          header := some
            { enabled := true, format := "VIDEO", mediaUrl := some "http://a.example/v" }
          body := { text := "Hi there" }
          footer := some {}
          buttons := some
            { enabled := true
              items := [{ kind := some "URL", text := some "Go", url := some "" },
                { kind := some "COPY_CODE", text := some "" }] } } := by
  have ht : Template.overfull.WellTyped :=
    ⟨fun i hi => ⟨"tpl_1", (Option.mem_some.mp hi).symm⟩, by decide⟩
  refine ⟨ht, ?_⟩
  rw [Template.ofSubmission_submission ht]
  decide

end MessageTemplate
