import MessageTemplate.Proofs.Data.DottedName
import MessageTemplate.Proofs.Validation.Buttons

/-!
# Errors on a field and on its parts

The errors on a field are found by comparing texts, but the dotted names of locations are such that
this compares the steps of the locations.

* `Report.concerns_fieldName_iff` — a dotted name is a part of a field exactly if its steps go on
  from those of the field;
* `Report.errorsFor_located` — the errors on a field are those whose steps go on from its own.
-/

set_option autoImplicit false

namespace MessageTemplate

namespace Report

open Location (IsPath)

theorem concerns_iff_beginsJoined {field name : String} : concerns field name = true ↔
    ∃ more, name.toList = field.toList ++ more ∧ BeginsJoined more := by
  rw [concerns_iff]
  simp only [String.toList_append]
  constructor
  · rintro (rfl | ⟨rest, hrest⟩ | ⟨rest, hrest⟩)
    · exact ⟨[], (List.append_nil _).symm, beginsJoined_nil⟩
    · exact ⟨'.' :: rest, by simpa using hrest.symm, beginsJoined_cons.mpr (.inl rfl)⟩
    · exact ⟨'[' :: rest, by simpa using hrest.symm, beginsJoined_cons.mpr (.inr rfl)⟩
  · rintro ⟨more, hname, hmore⟩
    cases more with
    | nil => exact .inl (String.toList_inj.mp (hname.trans (List.append_nil _)))
    | cons c rest =>
      rcases beginsJoined_cons.mp hmore with rfl | rfl
      · exact .inr (.inl ⟨rest, by simp [hname]⟩)
      · exact .inr (.inr ⟨rest, by simp [hname]⟩)

/-- A dotted name is a field or a part of it exactly if its steps go on from those of the field. -/
theorem concerns_fieldName_iff {field loc : Location} (hfield : field.IsPlain)
    (hloc : loc.IsPlain) :
    concerns field.fieldName loc.fieldName = true ↔ field.components <+: loc.components := by
  rw [concerns_iff_beginsJoined, Location.toList_fieldName hfield, Location.toList_fieldName hloc]
  exact Location.dotted_extends_iff (Location.isPath_components hfield)
    (Location.isPath_components hloc)

/-- An issue about the value at a location. -/
def issueAt (e : Location × String) : Issue := ⟨e.1.fieldName, e.2⟩

/-- **The errors on a field are those whose steps go on from its own**, in their order: in a report
on locations whose names have no points and no opening brackets. So those on a part of a field are
among those on the field, and two fields that differ in the last step have no errors in common. -/
theorem errorsFor_located {r : Report} {found : List (Location × String)}
    (herrors : r.errors = found.map issueAt) (hfound : ∀ e ∈ found, e.1.IsPlain) (field : Location)
    (hfield : field.IsPlain) :
    r.errorsFor field.fieldName =
        (found.filter fun e => field.components <+: e.1.components).map issueAt ∧
      (∀ part : Location, part.IsPlain → field.components <+: part.components →
        (r.errorsFor part.fieldName).Sublist (r.errorsFor field.fieldName)) ∧
      ∀ (sibling : Location) (front : List Key) (k l : Key), sibling.IsPlain →
        field.components = front ++ [k] → sibling.components = front ++ [l] → k ≠ l →
          (r.errorsFor field.fieldName).Disjoint (r.errorsFor sibling.fieldName) := by
  have hselect : ∀ {field : Location}, field.IsPlain → r.errorsFor field.fieldName =
      (found.filter fun e => field.components <+: e.1.components).map issueAt := by
    intro field hfield
    rw [errorsFor, herrors, List.filter_map]
    congr 1
    refine List.filter_congr fun e he => ?_
    rw [Bool.eq_iff_iff, decide_eq_true_iff]
    exact concerns_fieldName_iff hfield (hfound e he)
  refine ⟨hselect hfield, fun part hpart hbehind => ?_, ?_⟩
  · rw [hselect hfield, hselect hpart]
    refine List.Sublist.map issueAt (List.monotone_filter_right found fun e he => ?_)
    rw [decide_eq_true_iff] at he ⊢
    exact hbehind.trans he
  · intro sibling front k l hsibling hk hl hne issue hissue hother
    rw [hselect hfield] at hissue
    obtain ⟨e, he, rfl⟩ := List.mem_map.mp hissue
    obtain ⟨hmem, hfirst⟩ := List.mem_filter.mp he
    have hsecond := (concerns_fieldName_iff hsibling (hfound e hmem)).mp (List.mem_filter.mp hother).2
    rw [decide_eq_true_iff, hk, List.prefix_iff_eq_take] at hfirst
    rw [hl, List.prefix_iff_eq_take] at hsecond
    -- Both are as many steps of the same path.
    have hsame : front ++ [k] = front ++ [l] := by
      rw [hfirst, hsecond, List.length_append, List.length_append]
      rfl
    exact hne (List.singleton_inj.mp (List.append_cancel_left hsame))

/-- An unsafe picture, and eleven buttons of which the second and the last one have no text. -/
def unsafePicture : Template :=
  { Template.orderUpdate with
    header := some { enabled := true, format := "IMAGE", mediaUrl := some "http://example.com" }
    buttons := some
      { enabled := true
        items := (List.range 11).map fun i =>
          { text := some (if i = 1 ∨ i = 10 then "" else "Yes") } } }

/-- The errors on it and where they are found. -/
def unsafePictureErrors : List (Location × String) :=
  [([.name "header", .name "media_url"], "Media URL must be a valid HTTPS URL"),
    ([.name "buttons", .name "items", .index 1, .name "text"], "Button 2 text is required"),
    ([.name "buttons", .name "items", .index 10, .name "text"], "Button 11 text is required"),
    ([.name "buttons"], "Maximum 10 buttons allowed")]

theorem errorsFor_located_unsafePicture :
    ∃ r, unsafePicture.report .review = .ok r ∧
      r.errorsFor "buttons.items[1]" =
        [⟨"buttons.items[1].text", "Button 2 text is required"⟩] ∧
      (r.errorsFor "buttons.items[1].text").Sublist (r.errorsFor "buttons.items[1]") ∧
      (r.errorsFor "buttons.items[1]").Disjoint (r.errorsFor "buttons.items[10]") ∧
      (r.errorsFor "header.media").Disjoint (r.errorsFor "header.mediaUrl") := by
  have hplain : ∀ e ∈ unsafePictureErrors, e.1.IsPlain := by decide
  obtain ⟨r, hr, herrors⟩ : ∃ r, unsafePicture.report .review = .ok r ∧
      r.errors = unsafePictureErrors.map issueAt := ⟨_, rfl, by decide +kernel⟩
  have hbutton := errorsFor_located herrors hplain [.name "buttons", .name "items", .index 1]
    (by decide)
  have hmedia := errorsFor_located herrors hplain [.name "header", .name "media"] (by decide)
  refine ⟨r, hr, hbutton.1.trans (by decide +kernel), ?_, ?_, ?_⟩
  · exact hbutton.2.1 [.name "buttons", .name "items", .index 1, .name "text"] (by decide)
      (by decide)
  · exact hbutton.2.2 [.name "buttons", .name "items", .index 10]
      [.name "buttons", .name "items"] (.index 1) (.index 10) (by decide) (by decide) (by decide)
      (by decide)
  · exact hmedia.2.2 [.name "header", .name "mediaUrl"] [.name "header"] (.name "media")
      (.name "mediaUrl") (by decide) (by decide) (by decide) (by decide)

end Report

end MessageTemplate
