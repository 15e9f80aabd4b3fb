import MessageTemplate.Component
import MessageTemplate.Preview
import MessageTemplate.Proofs.Readable

/-!
# Parts that are switched off

* `SameOn` — optional parts that are the same wherever one of them is on;
* `Template.ShowsSame` — templates that agree on the details, the body and the parts that are on;
* `Template.showsSame_alike` — such templates have the same report in every step, the same
  submission and the same preview, whatever their other parts hold.

Each rule, each component and each part of the preview sees a part that is off as if it were
missing. That is all there is to show of them: `SameOn.view` does the rest.
-/

set_option autoImplicit false

namespace MessageTemplate

/-! ## Parts -/

section Parts

variable {α β : Type} {on : α → Bool} {part part' : Option α}

/-- Optional parts that are the same wherever one of them is on. -/
def SameOn (on : α → Bool) (part part' : Option α) : Prop :=
  part.any on = true ∨ part'.any on = true → part = part'

/-- What sees a part that is off as if it were missing sees the same. -/
theorem SameOn.view (h : SameOn on part part') {f : Option α → β}
    (hoff : ∀ a, on a = false → f (some a) = f none) : f part = f part' := by
  have hnone : ∀ part : Option α, part.any on = false → f part = f none := by
    intro part hpart
    cases part with
    | none => rfl
    | some a => exact hoff a hpart
  by_cases hon : part.any on = true ∨ part'.any on = true
  · rw [h hon]
  · rw [not_or, Bool.not_eq_true, Bool.not_eq_true] at hon
    rw [hnone part hon.1, hnone part' hon.2]

theorem SameOn.bind (h : SameOn on part part') {f : α → Option β}
    (hoff : ∀ a, on a = false → f a = none) : part.bind f = part'.bind f :=
  h.view (f := fun part => part.bind f) hoff

end Parts

/-! ## Views of a part that is off -/

section Header

variable {h : Header} (hoff : h.enabled = false)

include hoff

theorem Header.findings_off : Header.findings (some h) = Header.findings none := by
  simp [Header.findings, hoff]

theorem Header.component?_off : h.component? = none := by
  simp [Header.component?, hoff]

theorem Header.preview_off (values : Option LiveValues) : h.preview values = none := by
  simp [Header.preview, hoff]

end Header

section Footer

variable {f : Footer} (hoff : f.enabled = false)

include hoff

theorem Footer.findings_off : Footer.findings (some f) = Footer.findings none := by
  simp [Footer.findings, Finding.onlyIf, hoff]

theorem Footer.component?_off : f.component? = none := by
  simp [Footer.component?, hoff]

theorem Footer.preview_off : f.preview = none := by
  simp [Footer.preview, hoff]

end Footer

theorem ButtonSet.component?_off {set : ButtonSet} (hoff : set.enabled = false) :
    set.component? = none := by
  simp [ButtonSet.component?, hoff]

/-! ## Templates -/

namespace Template

/-- Templates that agree on the details, the body and every part that is on in one of them. -/
structure ShowsSame (t t' : Template) : Prop where
  name : t.name = t'.name
  category : t.category = t'.category
  language : t.language = t'.language
  body : t.body = t'.body
  header : SameOn Header.enabled t.header t'.header
  footer : SameOn Footer.enabled t.footer t'.footer
  buttons : SameOn ButtonSet.enabled t.buttons t'.buttons

variable {t t' : Template}

theorem ShowsSame.detailFindings (h : t.ShowsSame t') : t.detailFindings = t'.detailFindings := by
  unfold Template.detailFindings
  rw [h.name, h.category, h.language]

/-- The rules on the content ask for the header and the footer only where they are on. -/
theorem ShowsSame.contentFindings (h : t.ShowsSame t') :
    t.contentFindings = t'.contentFindings := by
  have hheader : Header.findings t.header = Header.findings t'.header :=
    h.header.view fun _ hoff => Header.findings_off hoff
  have hfooter : Footer.findings t.footer = Footer.findings t'.footer :=
    h.footer.view fun _ hoff => Footer.findings_off hoff
  have hshows : t.showsHeader = t'.showsHeader := h.header.view fun _ hoff => hoff
  have hcategory : t.categoryContentFindings = t'.categoryContentFindings := by
    unfold categoryContentFindings
    rw [h.category, h.body, hshows]
  unfold Template.contentFindings
  rw [hheader, hfooter, hcategory, h.body]

theorem ShowsSame.buttonFindings (h : t.ShowsSame t') : t.buttonFindings = t'.buttonFindings := by
  have hcategory : t.buttonFindings = ({ t' with buttons := t.buttons } : Template).buttonFindings := by
    unfold Template.buttonFindings
    rw [h.category]
  rw [hcategory]
  refine h.buttons.view (f := fun part => ({ t' with buttons := part } : Template).buttonFindings)
    fun set hoff => ?_
  simp [Template.buttonFindings, Finding.onlyIf, hoff]

/-- **The rules of every step see what is on only.** -/
theorem ShowsSame.report (h : t.ShowsSame t') (step : Step) : t.report step = t'.report step := by
  have hfindings : t.findings step = t'.findings step := by
    unfold Template.findings
    rw [h.detailFindings, h.contentFindings, h.buttonFindings]
  unfold Template.report reportAfter
  rw [hfindings]

theorem ShowsSame.components (h : t.ShowsSame t') : t.components = t'.components := by
  have hheader : t.header.bind Header.component? = t'.header.bind Header.component? :=
    h.header.bind fun _ hoff => Header.component?_off hoff
  have hfooter : t.footer.bind Footer.component? = t'.footer.bind Footer.component? :=
    h.footer.bind fun _ hoff => Footer.component?_off hoff
  have hbuttons : t.buttons.bind ButtonSet.component? = t'.buttons.bind ButtonSet.component? :=
    h.buttons.bind fun _ hoff => ButtonSet.component?_off hoff
  unfold Template.components
  rw [hheader, hfooter, hbuttons, h.body]

theorem ShowsSame.preview (h : t.ShowsSame t') (values : Option LiveValues) :
    t.preview values = t'.preview values := by
  have hheader : t.header.bind (Header.preview values) = t'.header.bind (Header.preview values) :=
    h.header.bind fun _ hoff => Header.preview_off hoff values
  have hfooter : t.footer.bind Footer.preview = t'.footer.bind Footer.preview :=
    h.footer.bind fun _ hoff => Footer.preview_off hoff
  have hbuttons : t.shownButtons = t'.shownButtons := by
    refine h.buttons.view (f := fun part => ({ t' with buttons := part } : Template).shownButtons)
      fun set hoff => ?_
    simp [Template.shownButtons, hoff]
  unfold Template.preview
  rw [hheader, hfooter, hbuttons, h.body]

/-- **What is switched off makes no difference.** Templates that agree on the details, the body and
the parts that are on in one of them have the same report in every step, or none for the same
reason, the same submission, and with all live values the same preview. -/
theorem showsSame_alike (h : t.ShowsSame t') :
    (∀ step, t.validate step = t'.validate step) ∧ t.submission = t'.submission ∧
      ∀ values, t.preview values = t'.preview values := by
  refine ⟨fun step => ?_, ?_, h.preview⟩
  · unfold validate
    cases Step.ofData step with
    | ok s => exact h.report s
    | error e => rfl
  · unfold submission
    rw [h.name, h.language, h.category, h.components]

/-- A template with parts that are off and hold what no rule admits. -/
def withPartsOff : Template :=
  { orderUpdate with
    id := some (.text "tpl_1")
    header := some
      { format := "AUDIO", text := "{{1}} {{2}}", mediaUrl := some "ftp://shop.example/box.png" }
    footer := some { text := String.ofList (List.replicate 61 'x') ++ "{{1}}" }
    buttons := some
      { items := List.replicate 11 { kind := some "LINK", text := none, url := some "no url" } } }

theorem showsSame_alike_partsOff :
    withPartsOff.ShowsSame orderUpdate ∧
      withPartsOff.validate (.ofNat Step.review.number) = .ok ⟨true, [], []⟩ ∧
      withPartsOff.submission = orderUpdate.submission ∧
      withPartsOff.preview = orderUpdate.preview := by
  have hsame : withPartsOff.ShowsSame orderUpdate :=
    ⟨rfl, rfl, rfl, rfl, fun h => absurd h (by decide), fun h => absurd h (by decide),
      fun h => absurd h (by decide)⟩
  obtain ⟨hvalidate, hsubmission, hpreview⟩ := showsSame_alike hsame
  have hvalid : orderUpdate.validate (.ofNat Step.review.number) = .ok ⟨true, [], []⟩ := by
    decide +kernel
  exact ⟨hsame, (hvalidate _).trans hvalid, hsubmission, hpreview none⟩

end Template

end MessageTemplate
