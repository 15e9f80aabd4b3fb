import MessageTemplate.Proofs.Dashboard.Answers

/-!
# Components whose samples have names

A document that describes no template is told from one that does, whatever values stand in it, but
for one kind: the samples of a component are an object, so that they have names and none of them is
the first.

* `Breaks` — a reading fails, and not only because the document holds no template;
* `Data.NamesSamples` — a component of that kind;
* `Data.BreaksOff` — a document in which such a component comes behind components that can be read;
* `Template.ofStored_breaks_iff` — exactly these documents break the reading.
-/

set_option autoImplicit false

namespace MessageTemplate

variable {α β ε : Type}

/-! ## Failures of a reading -/

theorem mapM_cons_error_iff {f : α → Except ε β} {a : α} {l : List α} {e : ε} :
    (a :: l).mapM f = .error e ↔
      f a = .error e ∨ (∃ r, f a = .ok r) ∧ l.mapM f = .error e := by
  rw [List.mapM_cons]
  cases f a with
  | error e' => simp [bind, Except.bind]
  | ok r => cases l.mapM f <;> simp [bind, Except.bind, pure, Except.pure]

/-- **A list cannot be read for its first entry that cannot.** -/
theorem mapM_error_iff {f : α → Except ε β} {l : List α} {e : ε} :
    l.mapM f = .error e ↔ ∃ before a after, l = before ++ a :: after ∧
      (∀ b ∈ before, ∃ r, f b = .ok r) ∧ f a = .error e := by
  induction l with
  | nil => simp [pure, Except.pure]
  | cons a l ih =>
    rw [mapM_cons_error_iff, ih]
    constructor
    · rintro (ha | ⟨hr, before, b, after, rfl, hbefore, hb⟩)
      · exact ⟨[], a, l, rfl, nofun, ha⟩
      · exact ⟨a :: before, b, after, rfl, List.forall_mem_cons.mpr ⟨hr, hbefore⟩, hb⟩
    · rintro ⟨before, b, after, hsplit, hbefore, hb⟩
      cases before with
      | nil =>
        obtain ⟨rfl, rfl⟩ := List.cons.inj hsplit
        exact .inl hb
      | cons c before =>
        obtain ⟨rfl, rfl⟩ := List.cons.inj hsplit
        obtain ⟨hr, hbefore⟩ := List.forall_mem_cons.mp hbefore
        exact .inr ⟨hr, before, b, after, rfl, hbefore, hb⟩

/-- The reading fails, and not only because the document holds no template. -/
def Breaks (r : Except Failure α) (e : Failure) : Prop := r = .error e ∧ e.isUnreadable = false

theorem not_breaks_ok (a : α) (e : Failure) : ¬ Breaks (.ok a) e := nofun

theorem not_breaks_of_unreadable {e' : Failure} (h : e'.isUnreadable = true) (e : Failure) :
    ¬ Breaks (.error e' : Except Failure α) e := by
  rintro ⟨heq, hbreaks⟩
  cases heq
  rw [h] at hbreaks
  cases hbreaks

/-- A reading of which only the first part breaks. -/
theorem breaks_iff_of_part {r : Except Failure α} {whole : Except Failure β} {e : Failure}
    (herror : ∀ e', r = .error e' → whole = .error e')
    (hok : ∀ a, r = .ok a → ¬ Breaks whole e) : Breaks whole e ↔ Breaks r e := by
  cases r with
  | ok a => exact iff_of_false (hok a rfl) (not_breaks_ok a e)
  | error e' =>
    rw [herror e' rfl]
    simp [Breaks]

theorem not_breaks_of_part {r : Except Failure α} {whole : Except Failure β} {e : Failure}
    (h : ¬ Breaks r e) (herror : ∀ e', r = .error e' → whole = .error e')
    (hok : ∀ a, r = .ok a → ¬ Breaks whole e) : ¬ Breaks whole e := by
  rwa [breaks_iff_of_part herror hok]

theorem not_breaks_result (r : Reading α) (e : Failure) : ¬ Breaks r.result e := by
  cases r with
  | value a => exact not_breaks_ok a e
  | faulty faults => exact not_breaks_of_unreadable rfl e

theorem not_breaks_parts (d : Data) (e : Failure) : ¬ Breaks d.parts e := by
  cases d with
  | object ms => exact not_breaks_ok ms e
  | _ => exact not_breaks_of_unreadable rfl e

theorem not_breaks_entries (d : Data) (e : Failure) : ¬ Breaks d.entries e := by
  cases d with
  | list items => exact not_breaks_ok _ e
  | str s => exact not_breaks_ok _ e
  | object ms => exact not_breaks_ok _ e
  | _ => exact not_breaks_of_unreadable rfl e

/-! ## Samples -/

namespace Members

/-- The samples under a name in a component are an object that is not empty. -/
def NamesSamples (ms : Members) (name : String) : Prop :=
  ∃ sample named, get? ms "example" = some (.object sample) ∧
    get? sample name = some (.object named) ∧ named ≠ []

theorem given?_eq_some_iff {ms : Members} {name : String} {d : Data} :
    given? ms name = some d ↔ get? ms name = some d ∧ d.isEmptyish = false := by
  unfold given?
  rw [Option.filter_eq_some_iff]
  simp

theorem sampleOf?_eq_some_iff {ms : Members} {name : String} {samples : Data} :
    sampleOf? ms name = .ok (some samples) ↔ ∃ sample, get? ms "example" = some (.object sample) ∧
      get? sample name = some samples ∧ samples.isEmptyish = false := by
  unfold sampleOf?
  cases hexample : given? ms "example" with
  | none =>
    simp only [Except.ok.injEq, reduceCtorEq, false_iff]
    rintro ⟨sample, hsample, hsamples, _⟩
    -- An object with a member counts as given.
    have hgiven : (Data.object sample).isEmptyish = false := by
      cases sample with
      | nil => cases hsamples
      | cons m ms => rfl
    rw [given?_eq_some_iff.mpr ⟨hsample, hgiven⟩] at hexample
    cases hexample
  | some example_ =>
    obtain ⟨hget, _⟩ := given?_eq_some_iff.mp hexample
    rw [hget]
    cases example_ with
    | object sample => simp [Data.parts, given?_eq_some_iff]
    | _ => simp [Data.parts]

theorem not_breaks_sampleOf? (ms : Members) (name : String) (e : Failure) :
    ¬ Breaks (sampleOf? ms name) e := by
  unfold sampleOf?
  split
  · exact not_breaks_ok _ e
  · rename_i sample _
    cases sample with
    | object parts => exact not_breaks_ok _ e
    | _ => exact not_breaks_of_unreadable rfl e

end Members

/-- Only an object breaks the search for the first of some samples. -/
theorem Data.first_breaks_iff {samples : Data} (hgiven : samples.isEmptyish = false)
    {e : Failure} :
    Breaks samples.first e ↔ e = .noMember ∧ ∃ named, samples = .object named := by
  cases samples with
  | object named =>
    simp only [first, Breaks, Except.error.injEq, object.injEq, exists_eq', and_true]
    constructor
    · rintro ⟨h, _⟩
      exact h.symm
    · rintro rfl
      exact ⟨rfl, rfl⟩
  | list items =>
    cases items with
    | nil => cases hgiven
    | cons d items => exact iff_of_false (not_breaks_ok _ e) (by simp)
  | str s =>
    refine iff_of_false ?_ (by simp)
    have hne : s.toList ≠ [] := by
      intro h
      rw [String.toList_eq_nil_iff] at h
      rw [h] at hgiven
      cases hgiven
    unfold first
    obtain ⟨c, cs, hcs⟩ := List.exists_cons_of_ne_nil hne
    simp only [hcs]
    exact not_breaks_ok _ e
  | _ => exact iff_of_false (not_breaks_of_unreadable rfl e) (by simp)

theorem namesSamples_iff {ms : Members} {name : String} :
    Members.NamesSamples ms name ↔
      ∃ named, sampleOf? ms name = .ok (some (.object named)) := by
  have hfilled (named : Members) : (Data.object named).isEmptyish = false ↔ named ≠ [] := by
    simp [Data.isEmptyish]
  simp only [Members.NamesSamples, Members.sampleOf?_eq_some_iff, hfilled]
  exact exists_comm

/-- What is made of the samples under a name breaks exactly where the search for the first of them
does. -/
theorem breaks_iff_of_samples {ms : Members} {name : String} {r : Except Failure α} {e : Failure}
    (herror : ∀ e', sampleOf? ms name = .error e' → r = .error e')
    (hnone : sampleOf? ms name = .ok none → ¬ Breaks r e)
    (hsome : ∀ samples, sampleOf? ms name = .ok (some samples) →
      (Breaks r e ↔ Breaks samples.first e)) :
    Breaks r e ↔ e = .noMember ∧ Members.NamesSamples ms name := by
  rw [namesSamples_iff]
  cases hsamples : sampleOf? ms name with
  | error e' =>
    have hbreaks : ¬ Breaks r e := by
      rw [breaks_iff_of_part herror fun a h => nomatch hsamples.symm.trans h]
      exact Members.not_breaks_sampleOf? ms name e
    exact iff_of_false hbreaks (by simp)
  | ok samples? =>
    cases samples? with
    | none => exact iff_of_false (hnone hsamples) (by simp)
    | some samples =>
      obtain ⟨_, _, _, hgiven⟩ := Members.sampleOf?_eq_some_iff.mp hsamples
      rw [hsome samples hsamples, Data.first_breaks_iff hgiven]
      simp

/-- **The first sample is missed exactly where samples have names.** -/
theorem firstSample_breaks_iff {ms : Members} {name : String} {e : Failure} :
    Breaks (firstSample ms name) e ↔ e = .noMember ∧ Members.NamesSamples ms name := by
  unfold firstSample
  refine breaks_iff_of_samples ?_ ?_ ?_
  · intro e' h
    rw [h]
  · intro h
    rw [h]
    exact not_breaks_ok _ e
  · intro samples h
    rw [h]

/-! ## Components -/

/-- The name under which the samples of a header stand. -/
def Members.headerSamples (ms : Members) : String :=
  if (getD ms "format" (.str HeaderFormat.text.word)).str? = some HeaderFormat.text.word then
    "header_text"
  else "header_handle"

/-- The name under which the samples of a component stand, if its kind has samples. -/
def Members.samplesName? (ms : Members) : Option String :=
  match Parts.kindOf? ms with
  | some .header => some ms.headerSamples
  | some .body => some "body_text"
  | _ => none

/-- A component whose samples have names. -/
def Data.NamesSamples (component : Data) : Prop :=
  ∃ ms name, component = .object ms ∧ Members.samplesName? ms = some name ∧
    Members.NamesSamples ms name

/-- A component that can be read on its own. -/
def Data.IsReadable (component : Data) : Prop := ∃ p, ({} : Parts).add component = .ok p

theorem Header.ofComponent_breaks_iff {ms : Members} {e : Failure} :
    Breaks (Header.ofComponent ms) e ↔
      e = .noMember ∧ Members.NamesSamples ms (Members.headerSamples ms) := by
  unfold Header.ofComponent Members.headerSamples
  simp only
  split
  · rw [← firstSample_breaks_iff]
    refine breaks_iff_of_part (fun e' h => ?_) fun sample h => ?_
    · rw [h]
    · rw [h]
      exact not_breaks_result _ e
  · rw [← firstSample_breaks_iff]
    refine breaks_iff_of_part (fun e' h => ?_) fun sample h => ?_
    · rw [h]
    · rw [h]
      exact not_breaks_result _ e

theorem Body.samplesOf_breaks_iff {ms : Members} {e : Failure} :
    Breaks (Body.samplesOf ms) e ↔ e = .noMember ∧ Members.NamesSamples ms "body_text" := by
  unfold Body.samplesOf
  refine breaks_iff_of_samples ?_ ?_ ?_
  · intro e' h
    rw [h]
  · intro h
    rw [h]
    exact not_breaks_ok _ e
  · intro rows h
    rw [h]
    refine breaks_iff_of_part (fun e' h => ?_) fun row h => ?_
    · simp only [h]
    · refine not_breaks_of_part (not_breaks_entries row e) (fun e' he => ?_) fun entries he => ?_
      · simp only [h, he]
      · simp only [h, he]
        exact not_breaks_ok _ e

theorem Body.ofComponent_breaks_iff {ms : Members} {e : Failure} :
    Breaks (Body.ofComponent ms) e ↔ e = .noMember ∧ Members.NamesSamples ms "body_text" := by
  rw [← Body.samplesOf_breaks_iff]
  unfold Body.ofComponent
  refine breaks_iff_of_part (fun e' h => ?_) fun samples h => ?_
  · rw [h]
  · rw [h]
    exact not_breaks_result _ e

theorem Footer.not_breaks_ofComponent (ms : Members) (e : Failure) :
    ¬ Breaks (Footer.ofComponent ms) e :=
  not_breaks_result _ e

theorem Button.not_breaks_ofEntry (d : Data) (e : Failure) : ¬ Breaks (Button.ofEntry d) e := by
  unfold Button.ofEntry
  refine not_breaks_of_part (not_breaks_parts d e) (fun e' h => ?_) fun ms h => ?_
  · rw [h]
  · rw [h]
    exact not_breaks_result _ e

theorem Button.not_breaks_ofEntries (items : List Data) (e : Failure) :
    ¬ Breaks (Button.ofEntries items) e := by
  induction items with
  | nil => exact not_breaks_ok [] e
  | cons d rest ih =>
    unfold Button.ofEntries
    refine not_breaks_of_part (not_breaks_ofEntry d e) (fun e' h => ?_) fun b h => ?_
    · rw [h]
    · refine not_breaks_of_part ih (fun e' hrest => ?_) fun bs hrest => ?_
      · rw [h, hrest]
      · rw [h, hrest]
        exact not_breaks_ok _ e

theorem ButtonSet.not_breaks_ofComponent (ms : Members) (e : Failure) :
    ¬ Breaks (ButtonSet.ofComponent ms) e := by
  unfold ButtonSet.ofComponent
  have hentries := not_breaks_entries (Members.getD ms "buttons" (.list [])) e
  refine not_breaks_of_part hentries (fun e' h => ?_) fun entries h => ?_
  · simp only [h]
  · have hitems := Button.not_breaks_ofEntries entries e
    refine not_breaks_of_part hitems (fun e' hbutton => ?_) fun items hbutton => ?_
    · simp only [h, hbutton]
    · simp only [h, hbutton]
      exact not_breaks_ok _ e

theorem map_error_iff {r : Except ε α} {f : α → β} {e : ε} : r.map f = .error e ↔ r = .error e := by
  cases r with
  | error e' => simp [Except.map]
  | ok a => exact iff_of_false nofun nofun

theorem breaks_map_iff {r : Except Failure α} {f : α → β} {e : Failure} :
    Breaks (r.map f) e ↔ Breaks r e :=
  and_congr_left' map_error_iff

namespace Parts

/-- **A component breaks the reading exactly if its samples have names.** -/
theorem add_breaks_iff {p : Parts} {d : Data} {e : Failure} :
    Breaks (p.add d) e ↔ e = .noMember ∧ d.NamesSamples := by
  cases d with
  | object ms =>
    have hnames : (Data.object ms).NamesSamples ↔
        ∃ name, Members.samplesName? ms = some name ∧ Members.NamesSamples ms name := by
      simp [Data.NamesSamples]
    rw [hnames]
    unfold add Members.samplesName?
    simp only [Data.parts]
    cases kindOf? ms with
    | none => exact iff_of_false (not_breaks_ok p e) (by simp)
    | some kind =>
      cases kind with
      | header => simp [breaks_map_iff, Header.ofComponent_breaks_iff]
      | body => simp [breaks_map_iff, Body.ofComponent_breaks_iff]
      | footer => simp [breaks_map_iff, Footer.not_breaks_ofComponent]
      | buttons => simp [breaks_map_iff, ButtonSet.not_breaks_ofComponent]
  | _ => exact iff_of_false (not_breaks_of_unreadable rfl e) (by simp [Data.NamesSamples])

/-- Whether a component can be read does not hang on the parts before it. -/
theorem add_error_iff (p q : Parts) {d : Data} {e : Failure} :
    p.add d = .error e ↔ q.add d = .error e := by
  unfold add
  cases d.parts with
  | error e' => exact Iff.rfl
  | ok ms =>
    simp only
    cases kindOf? ms with
    | none => exact iff_of_false nofun nofun
    | some kind =>
      cases kind with
      | header => simp only [map_error_iff]
      | body => simp only [map_error_iff]
      | footer => simp only [map_error_iff]
      | buttons => simp only [map_error_iff]

theorem addAll_error_iff {p : Parts} {items : List Data} {e : Failure} :
    p.addAll items = .error e ↔ items.mapM ({} : Parts).add = .error e := by
  induction items generalizing p with
  | nil => simp [addAll, pure, Except.pure]
  | cons d rest ih =>
    rw [mapM_cons_error_iff, addAll]
    cases hd : p.add d with
    | error e' => simp [(add_error_iff p {}).mp hd]
    | ok q =>
      obtain ⟨r, hr⟩ : ∃ r, ({} : Parts).add d = .ok r := by
        cases hr : ({} : Parts).add d with
        | error e' => exact nomatch hd.symm.trans ((add_error_iff {} p).mp hr)
        | ok r => exact ⟨r, rfl⟩
      simp [hr, ih]

theorem addAll_breaks_iff {p : Parts} {items : List Data} {e : Failure} :
    Breaks (p.addAll items) e ↔ e = .noMember ∧ ∃ before component after,
      items = before ++ component :: after ∧ (∀ c ∈ before, c.IsReadable) ∧
        component.NamesSamples := by
  have hadd (component : Data) : Breaks (({} : Parts).add component) e ↔
      e = .noMember ∧ component.NamesSamples := add_breaks_iff
  unfold Breaks at hadd ⊢
  rw [addAll_error_iff, mapM_error_iff]
  constructor
  · rintro ⟨⟨before, component, after, hsplit, hbefore, hcomponent⟩, he⟩
    obtain ⟨rfl, hnames⟩ := (hadd component).mp ⟨hcomponent, he⟩
    exact ⟨rfl, before, component, after, hsplit, hbefore, hnames⟩
  · rintro ⟨he, before, component, after, hsplit, hbefore, hnames⟩
    obtain ⟨hcomponent, he⟩ := (hadd component).mpr ⟨he, hnames⟩
    exact ⟨⟨before, component, after, hsplit, hbefore, hcomponent⟩, he⟩

end Parts

/-! ## Documents -/

/-- A list of components one of which has named samples, behind components that can be read. -/
def Data.HoldsNamedSamples (components : Data) : Prop :=
  ∃ before component after, components = .list (before ++ component :: after) ∧
    (∀ c ∈ before, c.IsReadable) ∧ component.NamesSamples

/-- A document with such a list of components. -/
def Data.BreaksOff (content : Data) : Prop :=
  ∃ ms components, content.Describes ms ∧ Members.get? ms "components" = some components ∧
    components.HoldsNamedSamples

namespace Template

/-- Only the components break the reading, not the details. -/
theorem ofComponents_breaks_iff_of_entries {components : Data} {entries : List Data}
    {details : DetailData} {e : Failure} (hentries : components.entries = .ok entries) :
    Breaks (ofComponents components details) e ↔ Breaks (({} : Parts).addAll entries) e := by
  unfold ofComponents
  simp only [hentries]
  refine breaks_iff_of_part (fun e' h => ?_) fun p h => ?_
  · rw [h]
  · have hdetails : ¬ Breaks (ofDetails details) e := not_breaks_result _ e
    refine not_breaks_of_part hdetails (fun e' hd => ?_) fun t hd => ?_
    · simp only [h, hd]
    · simp only [h, hd]
      exact not_breaks_ok _ e

/-- Characters and names are no components. -/
theorem not_breaks_addAll_text {p : Parts} {texts : List String} (e : Failure) :
    ¬ Breaks (p.addAll (texts.map .str)) e := by
  rw [Parts.addAll_breaks_iff]
  rintro ⟨_, before, component, after, hsplit, _, ms, _, rfl, _⟩
  have hmem : Data.object ms ∈ texts.map Data.str := by
    rw [hsplit]
    simp
  simp at hmem

theorem ofComponents_breaks_iff {components : Data} {details : DetailData} {e : Failure} :
    Breaks (ofComponents components details) e ↔
      e = .noMember ∧ components.HoldsNamedSamples := by
  have hlist (h : ∀ items, components ≠ .list items) : ¬ components.HoldsNamedSamples := by
    rintro ⟨before, component, after, hcomponents, _⟩
    exact h _ hcomponents
  cases components with
  | list items =>
    have hentries : (Data.list items).entries = .ok items := rfl
    rw [ofComponents_breaks_iff_of_entries hentries, Parts.addAll_breaks_iff]
    simp [Data.HoldsNamedSamples]
  | str s =>
    have hchars : s.toList.map (fun c => Data.str (String.singleton c)) =
        (s.toList.map String.singleton).map .str := by
      rw [List.map_map]
      rfl
    rw [ofComponents_breaks_iff_of_entries rfl, hchars]
    exact iff_of_false (not_breaks_addAll_text e) fun h => hlist nofun h.2
  | object ms =>
    have hnames : ms.map (fun m => Data.str m.1) = (ms.map Prod.fst).map .str := by
      rw [List.map_map]
      rfl
    rw [ofComponents_breaks_iff_of_entries rfl, hnames]
    exact iff_of_false (not_breaks_addAll_text e) fun h => hlist nofun h.2
  | _ => exact iff_of_false (not_breaks_of_unreadable rfl e) fun h => hlist nofun h.2

theorem ofStoredMembers_breaks_iff {ms : Members} {e : Failure} :
    Breaks (ofStoredMembers ms) e ↔ e = .noMember ∧ ∃ components,
      Members.get? ms "components" = some components ∧ components.HoldsNamedSamples := by
  unfold ofStoredMembers
  cases hcomponents : Members.get? ms "components" with
  | none => exact iff_of_false (not_breaks_result _ e) (by simp)
  | some components =>
    simp only [ofComponents_breaks_iff, Option.some.injEq, exists_eq_left']
    by_cases hempty : components.isEmptyish = true
    · -- Empty components count as none, and none of them has named samples.
      rw [if_pos hempty]
      refine and_congr_right' (iff_of_false ?_ ?_)
      · rintro ⟨before, component, after, hnil, _⟩
        simp at hnil
      · rintro ⟨before, component, after, rfl, _⟩
        simp [Data.isEmptyish] at hempty
    · rw [if_neg hempty]

/-- **Exactly the documents with named samples break the reading.** Any other document that is no
template is told as such. -/
theorem ofStored_breaks_iff {content : Data} {e : Failure} :
    Breaks (ofStored content) e ↔ e = .noMember ∧ content.BreaksOff := by
  unfold ofStored
  cases hmembers : storedMembers content with
  | error e' =>
    have hcannot : ¬ Breaks (storedMembers content) e := by
      unfold storedMembers
      split
      · exact not_breaks_ok _ e
      · exact not_breaks_of_unreadable rfl e
    rw [hmembers] at hcannot
    refine iff_of_false (fun h => hcannot ⟨by rw [Except.error.inj h.1], h.2⟩) ?_
    rintro ⟨_, ms, components, hdescribes, _⟩
    exact nomatch hmembers.symm.trans hdescribes.storedMembers
  | ok ms =>
    simp only [ofStoredMembers_breaks_iff]
    refine and_congr_right' ⟨?_, ?_⟩
    · rintro ⟨components, hget, hnamed⟩
      exact ⟨ms, components, Data.describes_of_storedMembers hmembers, hget, hnamed⟩
    · rintro ⟨ms', components, hdescribes, hget, hnamed⟩
      cases hmembers.symm.trans hdescribes.storedMembers
      exact ⟨components, hget, hnamed⟩

end Template

end MessageTemplate
