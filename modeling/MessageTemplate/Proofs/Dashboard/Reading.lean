import MessageTemplate.Proofs.Component.NamedSamples

/-!
# Reading accepted answers

* `Document.BreaksOff`, `Data.ListBreaksOff` — documents that are neither read nor refused;
* `Dashboard.reading_answers` — stored templates are read from an accepted answer, or the answer is
  refused, exactly if it is no such document;
* `Dashboard.namedSample_fails` — a header whose samples have names, and templates that are null.
-/

set_option autoImplicit false

namespace MessageTemplate

/-! ## Documents -/

/-- A document that is nested too deeply, or whose content breaks the reading off. -/
def Document.BreaksOff (breaksOff : Data → Prop) : Document → Prop
  | .tooDeep => True
  | .value content => breaksOff content
  | _ => False

/-- A value that has entries. -/
def Data.HasEntries : Data → Prop
  | .list _ | .str _ | .object _ => True
  | _ => False

/-- A list of documents of which one breaks the reading off, behind documents that can be read. -/
def Data.HoldsBreakOff (listed : Data) : Prop :=
  ∃ before document after, listed = .list (before ++ document :: after) ∧
    (∀ earlier ∈ before, ∃ t, Template.ofStored earlier = .ok t) ∧ document.BreaksOff

/-- The templates in a document have no entries, or one of them breaks the reading off. -/
def Data.ListBreaksOff (content : Data) : Prop :=
  ∃ listed, content.get? "templates" = some listed ∧ (listed.HasEntries → listed.HoldsBreakOff)

theorem Data.not_breaksOff_str (s : String) : ¬ (Data.str s).BreaksOff := by
  rintro ⟨ms, components, hdescribes, _⟩
  cases hdescribes

theorem Data.not_breaksOff_null : ¬ Data.null.BreaksOff := by
  rintro ⟨ms, components, hdescribes, _⟩
  cases hdescribes

theorem Data.not_listBreaksOff_null : ¬ Data.null.ListBreaksOff := by
  rintro ⟨listed, hlisted, _⟩
  cases hlisted

theorem Data.breaksOff_iff {content : Data} :
    content.BreaksOff ↔ ∃ e, Breaks (Template.ofStored content) e := by
  simp only [Template.ofStored_breaks_iff, exists_eq_left]

namespace Dashboard

/-! ## Templates -/

theorem templateIn_failed_iff {content : Data} {e : Failure} :
    templateIn content = .error (.failed e) ↔ Breaks (Template.ofStored content) e := by
  unfold templateIn Breaks
  cases Template.ofStored content with
  | ok stored => simp [Except.mapError]
  | error e' =>
    simp only [Except.mapError, unreadable, Except.error.injEq]
    by_cases he : e'.isUnreadable = true
    · rw [if_pos he]
      refine iff_of_false nofun ?_
      rintro ⟨rfl, hbreaks⟩
      rw [he] at hbreaks
      cases hbreaks
    · rw [if_neg he, Interruption.failed.injEq]
      refine ⟨?_, And.left⟩
      rintro rfl
      exact ⟨rfl, Bool.not_eq_true _ ▸ he⟩

theorem templateIn_ok_iff {content : Data} {stored : Template} :
    templateIn content = .ok stored ↔ Template.ofStored content = .ok stored := by
  unfold templateIn
  cases Template.ofStored content with
  | ok stored' => simp [Except.mapError]
  | error e => simp [Except.mapError]

/-- A document is read or refused unless it breaks the reading off. -/
theorem isAnswer_templateIn {content : Data} :
    IsAnswer (templateIn content) ↔ ¬ content.BreaksOff := by
  rw [← not_iff_not, not_isAnswer_iff, not_not, Data.breaksOff_iff]
  exact exists_congr fun e => templateIn_failed_iff

/-- Documents are read up to the first that cannot be, so only the first of these counts. -/
theorem isAnswer_mapM_templateIn {documents : List Data} :
    IsAnswer (documents.mapM templateIn) ↔ ¬ (Data.list documents).HoldsBreakOff := by
  rw [← not_iff_not, not_isAnswer_iff, not_not]
  unfold Data.HoldsBreakOff
  simp only [mapM_error_iff, templateIn_ok_iff, templateIn_failed_iff, Data.breaksOff_iff,
    Data.list.injEq]
  constructor
  · rintro ⟨e, before, document, after, hsplit, hbefore, hdocument⟩
    exact ⟨before, document, after, hsplit, hbefore, e, hdocument⟩
  · rintro ⟨before, document, after, hsplit, hbefore, e, hdocument⟩
    exact ⟨e, before, document, after, hsplit, hbefore, hdocument⟩

/-- Characters and names describe no templates. -/
theorem isAnswer_mapM_text (texts : List String) :
    IsAnswer ((texts.map Data.str).mapM templateIn) := by
  rw [isAnswer_mapM_templateIn]
  rintro ⟨before, document, after, hsplit, _, hbreaks⟩
  have hmem : document ∈ texts.map Data.str := by
    rw [Data.list.inj hsplit]
    simp
  obtain ⟨s, _, rfl⟩ := List.mem_map.mp hmem
  exact Data.not_breaksOff_str s hbreaks

/-- What is listed is read or refused. -/
theorem isAnswer_listed {listed : Data} :
    IsAnswer ((listed.entries.mapError Interruption.failed).bind fun documents =>
      documents.mapM templateIn) ↔ ¬ (listed.HasEntries → listed.HoldsBreakOff) := by
  have hlist (h : ∀ documents, listed ≠ .list documents) : ¬ listed.HoldsBreakOff := by
    rintro ⟨before, document, after, hlisted, _⟩
    exact h _ hlisted
  cases listed with
  | list documents =>
    simp only [Data.HasEntries, forall_const, ← isAnswer_mapM_templateIn]
    rfl
  | str s =>
    have htext := isAnswer_mapM_text (s.toList.map String.singleton)
    rw [List.map_map] at htext
    exact iff_of_true htext fun h => hlist nofun (h trivial)
  | object ms =>
    have htext := isAnswer_mapM_text (ms.map Prod.fst)
    rw [List.map_map] at htext
    exact iff_of_true htext fun h => hlist nofun (h trivial)
  | _ => exact iff_of_false (not_isAnswer_failed _) fun h => h nofun

theorem isAnswer_documentsIn {content : Data} :
    IsAnswer (((documentsIn content).mapError Interruption.failed).bind fun documents =>
      documents.mapM templateIn) ↔ ¬ content.ListBreaksOff := by
  unfold documentsIn Data.ListBreaksOff
  cases content.get? "templates" with
  | none => exact iff_of_true (isAnswer_ok []) (by simp)
  | some listed =>
    simp only [Option.getD_some, Option.some.injEq, exists_eq_left']
    exact isAnswer_listed

/-! ## Answers -/

/-- What is made of an accepted answer, which is null where it has no body. -/
theorem isAnswer_accepted {α : Type} {status : Int} (hstatus : status < 400)
    {body : Option Document} {f : Data → Except Interruption α} {breaksOff : Data → Prop}
    (hf : ∀ content, IsAnswer (f content) ↔ ¬ breaksOff content) (hnull : ¬ breaksOff .null) :
    IsAnswer ((Reply.response status body).result.bind f) ↔
      ∀ document ∈ body, ¬ document.BreaksOff breaksOff := by
  cases body with
  | none =>
    simp only [Reply.result, answered_accepted hstatus]
    exact iff_of_true ((hf .null).mpr hnull) (by simp)
  | some document =>
    simp only [Option.mem_some_iff, forall_eq']
    cases document with
    | value content =>
      simp only [Reply.result, answered_accepted hstatus]
      exact hf content
    | tooDeep => exact iff_of_false (not_isAnswer_failed _) fun h => h trivial
    | _ => exact iff_of_true (isAnswer_refused _) id

/-- **An accepted answer is read or refused unless the reading breaks off**: a template and a
stored draft unless its document is nested too deeply or has named samples, and a list of templates
unless it has no entries, or such a document comes first among those that cannot be read. -/
theorem reading_answers (d : Dashboard) {t : Traffic} {status : Int} {body : Option Document}
    (hreply : t.reply = .response status body) (hstatus : status < 400) :
    (∀ id, (d.template id).Answers t ↔
      ∀ document ∈ body, ¬ document.BreaksOff Data.BreaksOff) ∧
    (∀ template, (d.saveDraft template).Answers t ↔
      ∀ document ∈ body, ¬ document.BreaksOff Data.BreaksOff) ∧
    (∀ filters, (d.templates filters).Answers t ↔
      Members.has filters reservedFilter = false ∧
        ∀ document ∈ body, ¬ document.BreaksOff Data.ListBreaksOff) := by
  refine ⟨fun id => ?_, fun template => ?_, fun filters => ?_⟩
  · rw [Exchange.answers_iff, template_outcome, hreply]
    exact isAnswer_accepted hstatus (fun _ => isAnswer_templateIn) Data.not_breaksOff_null
  · rw [Exchange.answers_iff, saveDraft_outcome, isAnswer_map, hreply]
    exact isAnswer_accepted hstatus (fun _ => isAnswer_templateIn) Data.not_breaksOff_null
  · rw [Exchange.answers_iff]
    cases hreserved : Members.has filters reservedFilter with
    | true =>
      rw [templates_reserved d hreserved]
      exact iff_of_false (not_isAnswer_failed _) (by simp)
    | false =>
      rw [templates_outcome d hreserved, hreply, and_iff_right rfl]
      exact isAnswer_accepted hstatus (fun _ => isAnswer_documentsIn) Data.not_listBreaksOff_null

/-- A document whose components are of other types than the components of a template. -/
def mistyped : Data :=
  .object [("template", .object [("name", .int 7), ("components", .list
    [.object [("type", .str "BODY"), ("example", .list [.str "Ana"])], .bool true])])]

theorem mistyped_not_breaksOff : ¬ mistyped.BreaksOff := by
  rintro ⟨ms, components, hdescribes, hcomponents, before, component, after, rfl, _, hnames⟩
  cases hdescribes with
  | document h => cases h
  | member h =>
    cases h
    obtain ⟨parts, name, rfl, _, sample, named, hsample, _⟩ := hnames
    -- The only object among the components is the body, and its example is a list.
    have hmem : Data.object parts ∈ before ++ .object parts :: after := by simp
    rw [← Data.list.inj (Option.some.inj hcomponents)] at hmem
    simp only [List.mem_cons, Data.object.injEq, reduceCtorEq, List.not_mem_nil, or_false] at hmem
    subst hmem
    cases hsample

/-- The answer with this document. -/
def mistypedAnswer : Reply := .response 200 (some (.value mistyped))

theorem reading_answers_mistyped :
    (200 : Int) < 400 ∧
      ((template ⟨defaultAddress, none⟩ (.str "tpl_1")).Answers { pending := [mistypedAnswer] }) ∧
      ((saveDraft ⟨defaultAddress, none⟩ {}).Answers { pending := [mistypedAnswer] }) ∧
      ((templates ⟨defaultAddress, none⟩).Answers { pending := [mistypedAnswer] }) := by
  have hreply : Traffic.reply { pending := [mistypedAnswer] } = mistypedAnswer := rfl
  have hstatus : (200 : Int) < 400 := by decide
  obtain ⟨htemplate, hdraft, htemplates⟩ := reading_answers ⟨defaultAddress, none⟩ hreply hstatus
  have hsingle (document : Document) (h : document ∈ some (Document.value mistyped)) :
      ¬ document.BreaksOff Data.BreaksOff := by
    cases h
    exact mistyped_not_breaksOff
  refine ⟨hstatus, (htemplate _).mpr hsingle, (hdraft _).mpr hsingle, ?_⟩
  refine (htemplates []).mpr ⟨rfl, fun document h => ?_⟩
  cases h
  rintro ⟨listed, hlisted, _⟩
  cases hlisted

/-- A header whose sample has a name. -/
def namedSample : Data :=
  .object [("template", .object [("_id", .str "tpl_1"), ("name", .str "order_update"),
    ("language", .str "en"), ("category", .str "UTILITY"), ("components", .list
      [.object [("type", .str "HEADER"), ("format", .str "TEXT"), ("text", .str "Hi \x7b\x7b1\x7d\x7d"),
        ("example", .object [("header_text", .object [("1", .str "Ana")])])]])])]

/-- **Two accepted answers that are neither read nor refused**: a template with a named sample, and
a list of templates that is null. -/
theorem namedSample_fails :
    ((template ⟨defaultAddress, none⟩ (.str "tpl_1")).outcome
        { pending := [.response 200 (some (.value namedSample))] }).1 =
      .error (.failed .noMember) ∧
    ((templates ⟨defaultAddress, none⟩).outcome
        { pending := [.response 200 (some (.value (.object [("templates", .null)])))] }).1 =
      .error (.failed .wrongKind) := by
  constructor
  · rw [template_outcome]
    rfl
  · rw [templates_outcome _ rfl]
    rfl

end Dashboard

end MessageTemplate
