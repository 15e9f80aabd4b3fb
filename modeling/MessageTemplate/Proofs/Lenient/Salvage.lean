import MessageTemplate.Proofs.Lenient.Fields

/-!
# What lenient reading makes of an object

* `Template.salvage` — the template of all values in an object that fit: one pass, in which every
  other value counts as absent;
* `Template.recover_object` — lenient reading always comes to this template, and has no issue
  exactly with the objects that are read without a fault.

A member with two spellings is the first one, or else the second one, whose value fits.
-/

set_option autoImplicit false

namespace MessageTemplate

/-! ## The values that fit -/

/-- The truth value that a value stands for. -/
def Data.truth? (d : Data) : Option Bool :=
  match Read.truth d with
  | .value b => some b
  | .faulty _ => none

/-- The header of the values that fit. -/
def Header.salvage (ms : Members) : Header where
  enabled := (ms.fitting? ["enabled"] Data.truth?).getD false
  format := (ms.fitting? ["format"] Data.str?).getD HeaderFormat.text.word
  text := (ms.fitting? ["text"] Data.str?).getD ""
  sample := ms.fitting? ["example"] Data.str?
  mediaUrl := ms.fitting? ["mediaUrl", "media_url"] Data.str?
  mediaHandle := ms.fitting? ["mediaHandle", "media_handle"] Data.str?
  filename := ms.fitting? ["filename"] Data.str?

/-- The body of the values that fit. -/
def Body.salvage (ms : Members) : Body where
  text := (ms.fitting? ["text"] Data.str?).getD ""
  samples := (ms.fitting? ["examples"] (Data.list? Data.str?)).getD []

/-- The footer of the values that fit. -/
def Footer.salvage (ms : Members) : Footer where
  enabled := (ms.fitting? ["enabled"] Data.truth?).getD false
  text := (ms.fitting? ["text"] Data.str?).getD ""

/-- The button of the values that fit. -/
def Button.salvage (ms : Members) : Button where
  kind := some ((ms.fitting? ["type"] Data.str?).getD ButtonKind.quickReply.word)
  text := some ((ms.fitting? ["text"] Data.str?).getD "")
  url := ms.fitting? ["url"] Data.str?
  phoneNumber := ms.fitting? ["phoneNumber", "phone_number"] Data.str?
  sample := ms.fitting? ["example"] Data.str?

/-- The buttons of the values that fit. -/
def ButtonSet.salvage (ms : Members) : ButtonSet where
  enabled := (ms.fitting? ["enabled"] Data.truth?).getD false
  items := (ms.fitting? ["items"] (Data.list? (Data.part? Button.salvage))).getD []

/-- The template of the values that fit. -/
def Template.salvage (ms : Members) : Template where
  id := (ms.fitting? ["id"] Data.str?).map .text
  name := (ms.fitting? ["name"] Data.str?).getD ""
  language := (ms.fitting? ["language"] Data.str?).getD ""
  category := (ms.fitting? ["category"] Data.str?).getD ""
  header := ms.fitting? ["header"] (Data.part? Header.salvage)
  body := (ms.fitting? ["body"] (Data.part? Body.salvage)).getD {}
  footer := ms.fitting? ["footer"] (Data.part? Footer.salvage)
  buttons := ms.fitting? ["buttons"] (Data.part? ButtonSet.salvage)

/-! ## Single values -/

theorem Lenient.text : Lenient 0 Read.text Data.str? where
  null := rfl
  misfit d hnone := by
    cases d with
    | str s => cases hnone
    | _ => exact ⟨.noText, rfl⟩
  settles d s _ hsome := by
    cases d with
    | str s' =>
      cases hsome
      rfl
    | _ => cases hsome

theorem truth_cases (d : Data) : (∃ b, Read.truth d = .value b) ∨ ∃ m, Read.truth d = .mismatch m := by
  have hinteger : ∀ n, (∃ b, Read.truthInteger n = .value b) ∨
      ∃ m, Read.truthInteger n = .mismatch m := by
    intro n
    unfold Read.truthInteger
    split_ifs
    · exact .inl ⟨_, rfl⟩
    · exact .inl ⟨_, rfl⟩
    · exact .inr ⟨_, rfl⟩
    · exact .inr ⟨_, rfl⟩
  cases d with
  | bool b => exact .inl ⟨b, rfl⟩
  | int n => exact hinteger n
  | float x =>
    cases hx : x.toInt? with
    | none => exact .inr ⟨.noTruthValue, by simp only [Read.truth, hx]⟩
    | some n =>
      simp only [Read.truth, hx]
      split_ifs
      · exact .inr ⟨_, rfl⟩
      · exact hinteger n
  | str s =>
    unfold Read.truth Read.truthWord
    simp only
    split_ifs
    · exact .inl ⟨_, rfl⟩
    · exact .inl ⟨_, rfl⟩
    · exact .inr ⟨_, rfl⟩
  | _ => exact .inr ⟨.noTruthValue, rfl⟩

theorem Lenient.truth : Lenient 0 Read.truth Data.truth? where
  null := rfl
  misfit d hnone := by
    rcases truth_cases d with ⟨b, hb⟩ | hm
    · rw [Data.truth?, hb] at hnone
      cases hnone
    · exact hm
  settles d b _ hsome := by
    show Read.truth d = .value b
    rcases truth_cases d with ⟨b', hb⟩ | ⟨m, hm⟩
    · rw [Data.truth?, hb] at hsome
      cases hsome
      exact hb
    · rw [Data.truth?, hm] at hsome
      cases hsome

/-! ## The parts of a template -/

theorem Header.salvages : Salvages 2
    ["enabled", "format", "text", "example", "mediaUrl", "media_url", "mediaHandle",
      "media_handle", "filename"] Header.readMembers Header.salvage := by
  have hmembers := (((((((Salvages.value 2 Header.mk).ap
    (Salvages.field ["enabled"] false Lenient.truth)).ap
    (Salvages.field ["format"] HeaderFormat.text.word Lenient.text)).ap
    (Salvages.field ["text"] "" Lenient.text)).ap
    (Salvages.optional ["example"] Lenient.text)).ap
    (Salvages.optional ["mediaUrl", "media_url"] Lenient.text)).ap
    (Salvages.optional ["mediaHandle", "media_handle"] Lenient.text)).ap
    (Salvages.optional ["filename"] Lenient.text)
  exact hmembers

theorem Body.salvages : Salvages 2 ["text", "examples"] Body.readMembers Body.salvage := by
  have hmembers := ((Salvages.value 2 Body.mk).ap
    (Salvages.field ["text"] "" Lenient.text)).ap
    (Salvages.field ["examples"] [] (Lenient.text.list 1))
  exact hmembers

theorem Footer.salvages : Salvages 2 ["enabled", "text"] Footer.readMembers Footer.salvage := by
  have hmembers := ((Salvages.value 2 Footer.mk).ap
    (Salvages.field ["enabled"] false Lenient.truth)).ap
    (Salvages.field ["text"] "" Lenient.text)
  exact hmembers

theorem Button.salvages : Salvages 2
    ["type", "text", "url", "phoneNumber", "phone_number", "example"] Button.readMembers
    Button.salvage := by
  have hmembers := (((((Salvages.value 2 Button.mk).ap
    (Salvages.field ["type"] (some ButtonKind.quickReply.word) (Lenient.text.map some))).ap
    (Salvages.field ["text"] (some "") (Lenient.text.map some))).ap
    (Salvages.optional ["url"] Lenient.text)).ap
    (Salvages.optional ["phoneNumber", "phone_number"] Lenient.text)).ap
    (Salvages.optional ["example"] Lenient.text)
  simp only [fitting?_map, Option.getD_map] at hmembers
  exact hmembers

theorem ButtonSet.salvages (complaint : Complaint) : Salvages 2 ["enabled", "items"]
    (ButtonSet.readMembers complaint) ButtonSet.salvage := by
  have hbutton := Button.salvages.part complaint "Button"
  have hmembers := ((Salvages.value 2 ButtonSet.mk).ap
    (Salvages.field ["enabled"] false Lenient.truth)).ap
    (Salvages.field ["items"] [] (hbutton.list 2))
  exact hmembers

theorem Template.salvages (complaint : Complaint) : Salvages 2
    ["id", "name", "language", "category", "header", "body", "footer", "buttons"]
    (Template.readMembers complaint) Template.salvage := by
  have hheader := Header.salvages.part complaint "Header"
  have hbody := Body.salvages.part complaint "Body"
  have hfooter := Footer.salvages.part complaint "Footer"
  have hbuttons := (ButtonSet.salvages complaint).part complaint "ButtonSet"
  have hmembers := ((((((((Salvages.value 2 Template.mk).ap
    (Salvages.optional ["id"] (Lenient.text.map Identifier.text))).ap
    (Salvages.field ["name"] "" Lenient.text)).ap
    (Salvages.field ["language"] "" Lenient.text)).ap
    (Salvages.field ["category"] "" Lenient.text)).ap
    (Salvages.fieldSome ["header"] hheader)).ap
    (Salvages.field ["body"] {} hbody)).ap
    (Salvages.fieldSome ["footer"] hfooter)).ap
    (Salvages.fieldSome ["buttons"] hbuttons)
  simp only [fitting?_map] at hmembers
  exact hmembers

/-- An object is read over and over until its salvage is left. -/
theorem Data.settles_object {ms : Members} (hnames : (Data.object ms).namesOnce = true) :
    Settles Template.read (Template.salvage ms) 2 (.object ms) :=
  ((Template.salvages .noPart).part .noPart "Template").settles _ _ hnames rfl

/-- **Lenient reading of an object comes to the template of all values that fit**, however deep the
others stand and whatever they are, and has no issue exactly where the object is read without a
fault. Like in every document, each object holds each name once. -/
theorem Template.recover_object {ms : Members} (hnames : (Data.object ms).namesOnce = true)
    (hnesting : (Data.object ms).nesting ≤ Data.deepestCopy) :
    ∃ issues, Template.recover (.object ms) = .ok (some (Template.salvage ms), issues) ∧
      (issues = [] ↔ ∃ t, Template.read (.object ms) = .value t) := by
  obtain ⟨issues, hread, hissues⟩ :=
    Template.readRepeatedly_of_settles (Data.settles_object hnames)
  refine ⟨issues, ?_, hissues⟩
  rw [Template.recover, if_neg (Nat.not_lt.mpr hnesting)]
  exact congrArg Except.ok hread

/-- The order of a shop, in which most values do not fit. -/
def Template.misfitting : Members :=
  [("id", .int 7), ("name", .str "order_update"), ("language", .null),
    ("header", .object [("enabled", .int 1), ("text", .list []), ("mediaUrl", .int 42),
      ("media_url", .str "https://shop.example/box.png"), ("mediaHandle", .int 1),
      ("media_handle", .int 2)]),
    ("body", .object [("text", .str "Your order {{1}} has left our store."),
      ("examples", .list [.null, .str "A-17", .int 3, .str "B-4"])]),
    ("footer", .str "none"),
    ("buttons", .object [("enabled", .bool true), ("items", .list [.int 1,
      .object [("type", .null), ("text", .str "Call"), ("phoneNumber", .int 5),
        ("phone_number", .int 6)], .str "Reply"])])]

theorem Template.recover_misfitting :
    ∃ issues, Template.recover (.object Template.misfitting) = .ok (some {
        name := "order_update"
        header := some { enabled := true, mediaUrl := some "https://shop.example/box.png" }
        body := { text := "Your order {{1}} has left our store.", samples := ["A-17", "B-4"] }
        buttons := some { enabled := true, items := [{ text := some "Call" }] } }, issues) ∧
      issues ≠ [] := by
  have hnames : (Data.object Template.misfitting).namesOnce = true := by decide
  have hnesting : (Data.object Template.misfitting).nesting ≤ Data.deepestCopy := by decide
  obtain ⟨issues, hread, hissues⟩ := Template.recover_object hnames hnesting
  refine ⟨issues, ?_, ?_⟩
  · rw [hread]
    rfl
  · intro hnone
    obtain ⟨t, ht⟩ := hissues.mp hnone
    cases ht

end MessageTemplate
