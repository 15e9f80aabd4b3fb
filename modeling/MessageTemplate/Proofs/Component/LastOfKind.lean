import MessageTemplate.Proofs.Component.NamedSamples
import MessageTemplate.Proofs.Readable
import Mathlib.Data.List.Induction

/-!
# The last component of each kind

* `Data.lastOf`, `Data.ofKind` — the last of some components that is of a kind, and all of them;
* `Parts.Adds` — what one more component does: it replaces the part of its kind, or nothing;
* `Parts.FromLast`, `Parts.fromLast_addAll` — each part is read from the last component of its kind;
* `Template.determined_by_last` — the template that components describe depends on these alone.

The parts are filled from left to right, and every component has to be readable for this. So lists
with the same last components come to the same template if both come to one, and lists with the same
components of each kind come to one together.
-/

set_option autoImplicit false

namespace MessageTemplate

/-! ## Components by kind -/

namespace Data

/-- The kind of a component; none if its word, in capital letters, is no known one. -/
def componentKind? : Data → Option ComponentKind
  | .object ms => Parts.kindOf? ms
  | _ => none

/-- The components of a kind, in their order. -/
def ofKind (k : ComponentKind) (components : List Data) : List Data :=
  components.filter fun d => d.componentKind? = some k

/-- The last component of a kind. -/
def lastOf (k : ComponentKind) (components : List Data) : Option Data :=
  (ofKind k components).getLast?

theorem lastOf_concat (k : ComponentKind) (components : List Data) (d : Data) :
    lastOf k (components ++ [d]) =
      if d.componentKind? = some k then some d else lastOf k components := by
  unfold lastOf ofKind
  rw [List.filter_append]
  split
  · rename_i hkind
    rw [List.filter_cons_of_pos (by simpa using hkind), List.filter_nil, List.getLast?_concat]
  · rename_i hkind
    rw [List.filter_cons_of_neg (by simpa using hkind), List.filter_nil, List.append_nil]

end Data

theorem map_eq_ok {α β ε : Type} {result : Except ε α} {f : α → β} {b : β} :
    result.map f = .ok b ↔ ∃ a, result = .ok a ∧ f a = b := by
  cases result <;> simp [Except.map]

namespace Parts

variable {p q r : Parts} {d : Data} {components others : List Data}

/-! ## One more component -/

/-- One more component replaces the part of its kind, if it is of a known one. -/
inductive Adds (p : Parts) : Data → Parts → Prop where
  | header {ms : Members} {h : Header} (hkind : kindOf? ms = some .header)
      (hread : Header.ofComponent ms = .ok h) : Adds p (.object ms) { p with header := h }
  | body {ms : Members} {b : Body} (hkind : kindOf? ms = some .body)
      (hread : Body.ofComponent ms = .ok b) : Adds p (.object ms) { p with body := b }
  | footer {ms : Members} {f : Footer} (hkind : kindOf? ms = some .footer)
      (hread : Footer.ofComponent ms = .ok f) : Adds p (.object ms) { p with footer := f }
  | buttons {ms : Members} {set : ButtonSet} (hkind : kindOf? ms = some .buttons)
      (hread : ButtonSet.ofComponent ms = .ok set) : Adds p (.object ms) { p with buttons := set }
  | unknown {ms : Members} (hkind : kindOf? ms = none) : Adds p (.object ms) p

theorem adds_of_add (h : p.add d = .ok q) : p.Adds d q := by
  cases d with
  | object ms =>
    unfold add at h
    simp only [Data.parts] at h
    cases hkind : kindOf? ms with
    | none =>
      rw [hkind] at h
      cases h
      exact .unknown hkind
    | some k =>
      rw [hkind] at h
      cases k with
      | header =>
        obtain ⟨header, hread, rfl⟩ := map_eq_ok.mp h
        exact .header hkind hread
      | body =>
        obtain ⟨b, hread, rfl⟩ := map_eq_ok.mp h
        exact .body hkind hread
      | footer =>
        obtain ⟨f, hread, rfl⟩ := map_eq_ok.mp h
        exact .footer hkind hread
      | buttons =>
        obtain ⟨set, hread, rfl⟩ := map_eq_ok.mp h
        exact .buttons hkind hread
  | _ => cases h

/-! ## From left to right -/

theorem addAll_concat_eq_ok : p.addAll (components ++ [d]) = .ok r ↔
    ∃ q, p.addAll components = .ok q ∧ q.add d = .ok r := by
  induction components generalizing p with
  | nil =>
    simp only [List.nil_append, addAll, Except.ok.injEq, exists_eq_left']
    cases p.add d <;> simp
  | cons c rest ih =>
    rw [List.cons_append, addAll, addAll]
    cases p.add c with
    | error e => simp
    | ok q => exact ih

/-- A part is as it was if there is no component of its kind, and read from the last one if there
is. -/
inductive ReadFrom {α : Type} (read : Members → Except Failure α) (before : α) :
    Option Data → α → Prop where
  | absent : ReadFrom read before none before
  | present {ms : Members} {a : α} (h : read ms = .ok a) : ReadFrom read before (some (.object ms)) a

/-- One component is read as one part. -/
theorem ReadFrom.unique {α : Type} {read : Members → Except Failure α} {before a a' : α}
    {last : Option Data} (h : ReadFrom read before last a) (h' : ReadFrom read before last a') :
    a' = a := by
  cases h with
  | absent =>
    cases h'
    rfl
  | present hread =>
    cases h' with
    | present hread' => exact Except.ok.inj (hread'.symm.trans hread)

/-- Each part is read from the last component of its kind, or is as it was in `p`. -/
structure FromLast (p : Parts) (components : List Data) (q : Parts) : Prop where
  header : ReadFrom Header.ofComponent p.header (Data.lastOf .header components) q.header
  body : ReadFrom Body.ofComponent p.body (Data.lastOf .body components) q.body
  footer : ReadFrom Footer.ofComponent p.footer (Data.lastOf .footer components) q.footer
  buttons : ReadFrom ButtonSet.ofComponent p.buttons (Data.lastOf .buttons components) q.buttons

/-- One more component becomes the last of its kind, and is read. The last ones of the other kinds
are what they were. -/
theorem FromLast.concat (h : FromLast p components q) (hadds : q.Adds d r) :
    FromLast p (components ++ [d]) r := by
  obtain ⟨hheader, hbody, hfooter, hbuttons⟩ := h
  cases hadds with
  | header hkind hread =>
    constructor <;> simp only [Data.lastOf_concat, Data.componentKind?, hkind]
    · exact .present hread
    · exact hbody
    · exact hfooter
    · exact hbuttons
  | body hkind hread =>
    constructor <;> simp only [Data.lastOf_concat, Data.componentKind?, hkind]
    · exact hheader
    · exact .present hread
    · exact hfooter
    · exact hbuttons
  | footer hkind hread =>
    constructor <;> simp only [Data.lastOf_concat, Data.componentKind?, hkind]
    · exact hheader
    · exact hbody
    · exact .present hread
    · exact hbuttons
  | buttons hkind hread =>
    constructor <;> simp only [Data.lastOf_concat, Data.componentKind?, hkind]
    · exact hheader
    · exact hbody
    · exact hfooter
    · exact .present hread
  | unknown hkind =>
    constructor <;> simp only [Data.lastOf_concat, Data.componentKind?, hkind]
    · exact hheader
    · exact hbody
    · exact hfooter
    · exact hbuttons

/-- **Each part is read from the last component of its kind.** -/
theorem fromLast_addAll (h : p.addAll components = .ok q) : FromLast p components q := by
  induction components using List.reverseRecOn generalizing q with
  | nil =>
    cases h
    exact ⟨.absent, .absent, .absent, .absent⟩
  | append_singleton components d ih =>
    obtain ⟨mid, hmid, hlast⟩ := addAll_concat_eq_ok.mp h
    exact (ih hmid).concat (adds_of_add hlast)

/-- The same last components come to the same parts. -/
theorem FromLast.unique (h : FromLast p components q) (h' : FromLast p others r)
    (hlast : ∀ k, Data.lastOf k others = Data.lastOf k components) : r = q := by
  obtain ⟨hheader, hbody, hfooter, hbuttons⟩ := h
  obtain ⟨hheader', hbody', hfooter', hbuttons'⟩ := h'
  rw [hlast] at hheader' hbody' hfooter' hbuttons'
  have hparts : r.header = q.header ∧ r.body = q.body ∧ r.footer = q.footer ∧
      r.buttons = q.buttons :=
    ⟨hheader.unique hheader', hbody.unique hbody', hfooter.unique hfooter',
      hbuttons.unique hbuttons'⟩
  cases q
  cases r
  simpa using hparts

/-- Components come to parts exactly if each of them can be read on its own. -/
theorem addAll_ok_iff : (∃ q, p.addAll components = .ok q) ↔ ∀ d ∈ components, d.IsReadable := by
  have hnot : ∀ {α : Type} {result : Except Failure α},
      (∃ a, result = .ok a) ↔ ¬∃ e, result = .error e := by
    intro α result
    cases result <;> simp
  have hmap := Variable.mapM_ok_iff ({} : Parts).add components
  rw [hnot] at hmap ⊢
  simp only [addAll_error_iff]
  exact hmap

end Parts

/-! ## Templates -/

namespace Data

/-- Components of no known kind are readable, whatever they hold. -/
theorem isReadable_of_unknown {ms : Members} (h : (object ms).componentKind? = none) :
    (object ms).IsReadable := by
  have hkind : Parts.kindOf? ms = none := h
  refine ⟨{}, ?_⟩
  unfold Parts.add
  simp only [parts, hkind]

/-- Objects are readable if those of known kinds are. -/
theorem isReadable_of_ofKind {components others : List Data}
    (hobjects : ∀ d ∈ others, ∃ ms, d = .object ms)
    (hsame : ∀ k, ofKind k others = ofKind k components)
    (h : ∀ d ∈ components, d.IsReadable) : ∀ d ∈ others, d.IsReadable := by
  intro d hd
  obtain ⟨ms, rfl⟩ := hobjects d hd
  cases hkind : (object ms).componentKind? with
  | none => exact isReadable_of_unknown hkind
  | some k =>
    have hmem : object ms ∈ ofKind k others := List.mem_filter.mpr ⟨hd, by simpa using hkind⟩
    rw [hsame] at hmem
    exact h _ (List.mem_of_mem_filter hmem)

end Data

namespace Template

/-- A list of components comes to a template exactly if it comes to parts and the details to a
template without parts. -/
theorem ofComponents_list_eq_ok {components : List Data} {details : DetailData} {t : Template} :
    ofComponents (.list components) details = .ok t ↔
      ∃ p bare, ({} : Parts).addAll components = .ok p ∧ ofDetails details = .ok bare ∧
        t = { bare with header := some p.header, body := p.body, footer := some p.footer,
                        buttons := some p.buttons } := by
  unfold ofComponents
  simp only [Data.entries]
  cases ({} : Parts).addAll components with
  | error e => simp
  | ok p => cases ofDetails details <;> simp [eq_comm]

/-- A component of no known kind makes no difference. -/
theorem ofComponents_unknown {ms : Members} (h : (Data.object ms).componentKind? = none)
    (before after : List Data) (details : DetailData) :
    ofComponents (.list (before ++ .object ms :: after)) details =
      ofComponents (.list (before ++ after)) details := by
  have hkind : Parts.kindOf? ms = none := h
  have haddAll : ∀ p : Parts, p.addAll (before ++ .object ms :: after) =
      p.addAll (before ++ after) := by
    intro p
    induction before generalizing p with
    | nil =>
      rw [List.nil_append, List.nil_append, Parts.addAll]
      unfold Parts.add
      simp only [Data.parts, hkind]
    | cons c rest ih =>
      rw [List.cons_append, List.cons_append, Parts.addAll, Parts.addAll]
      cases p.add c with
      | error e => rfl
      | ok q => exact ih q
  unfold ofComponents
  simp only [Data.entries, haddAll]

/-- **The last component of each kind determines the template.** Two lists of components that both
come to a template come to the same one if their last components of each kind are the same. Lists of
objects with the same components of each kind, in any order among different kinds and among
components of no known kind, come to a template together; and a component of no known kind makes no
difference at all. -/
theorem determined_by_last {components : List Data} {details : DetailData} {t : Template}
    (h : ofComponents (.list components) details = .ok t) :
    (∀ others t', ofComponents (.list others) details = .ok t' →
      (∀ k, Data.lastOf k others = Data.lastOf k components) → t' = t) ∧
    (∀ others, (∀ d ∈ others, ∃ ms, d = .object ms) →
      (∀ k, Data.ofKind k others = Data.ofKind k components) →
      ofComponents (.list others) details = .ok t) ∧
    ∀ before after ms, (Data.object ms).componentKind? = none →
      ofComponents (.list (before ++ .object ms :: after)) details =
        ofComponents (.list (before ++ after)) details := by
  obtain ⟨p, bare, hp, hbare, rfl⟩ := ofComponents_list_eq_ok.mp h
  refine ⟨fun others t' h' hlast => ?_, fun others hobjects hsame => ?_,
    fun before after ms hkind => ofComponents_unknown hkind before after details⟩
  · obtain ⟨p', bare', hp', hbare', rfl⟩ := ofComponents_list_eq_ok.mp h'
    obtain rfl := (Parts.fromLast_addAll hp).unique (Parts.fromLast_addAll hp') hlast
    obtain rfl := Except.ok.inj (hbare'.symm.trans hbare)
    rfl
  · have hreadable := Data.isReadable_of_ofKind hobjects hsame (Parts.addAll_ok_iff.mp ⟨p, hp⟩)
    obtain ⟨p', hp'⟩ := Parts.addAll_ok_iff.mpr hreadable
    have hlast : ∀ k, Data.lastOf k others = Data.lastOf k components :=
      fun k => congrArg List.getLast? (hsame k)
    obtain rfl := (Parts.fromLast_addAll hp).unique (Parts.fromLast_addAll hp') hlast
    exact ofComponents_list_eq_ok.mpr ⟨p', bare, hp', hbare, rfl⟩

/-- A footer in front of two headers and a body, with components of other kinds between them. -/
def shuffled : List Data :=
  [.object [("type", .str "footer"), ("text", .str "Reply STOP to opt out")],
    .object [("type", .str "HEADER"), ("format", .str "IMAGE"),
      ("example", .object [("header_handle", .list [.str "4::aW"])])],
    .object [("type", .str "CAROUSEL"), ("cards", .list [.int 1])],
    .object [("type", .str "Header"), ("text", .str "Hello")],
    .object [("type", .null)],
    .object [("type", .str "BODY"), ("text", .str "Your order has left our store.")]]

theorem determined_by_last_shuffled :
    ∃ t, ofComponents (.list shuffled) {} = .ok t ∧
      t = { header := some { enabled := true, text := "Hello" }
            body := { text := "Your order has left our store." }
            footer := some { enabled := true, text := "Reply STOP to opt out" }
            buttons := some {} } ∧
      ofComponents (.list (Data.ofKind .body shuffled ++ Data.ofKind .header shuffled ++
        Data.ofKind .footer shuffled)) {} = .ok t := by
  have hrun : ofComponents (.list shuffled) {} =
      .ok { header := some { enabled := true, text := "Hello" }
            body := { text := "Your order has left our store." }
            footer := some { enabled := true, text := "Reply STOP to opt out" }
            buttons := some {} } := by decide +kernel
  obtain ⟨_, hsame, _⟩ := determined_by_last hrun
  refine ⟨_, hrun, rfl, hsame _ ?_ ?_⟩
  · intro d hd
    have hobjects : ∀ d ∈ shuffled, ∃ ms, d = .object ms := by simp [shuffled]
    simp only [Data.ofKind, List.mem_append, List.mem_filter] at hd
    rcases hd with (⟨hd, _⟩ | ⟨hd, _⟩) | ⟨hd, _⟩
    · exact hobjects d hd
    · exact hobjects d hd
    · exact hobjects d hd
  · intro k
    cases k <;> decide +kernel

end Template

end MessageTemplate
