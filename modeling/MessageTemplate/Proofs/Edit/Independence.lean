import MessageTemplate.Proofs.Edit.Path
import MessageTemplate.Proofs.Edit.Placing

/-!
# Paths are independent of each other

* `Place.Addresses` — a path addresses a place; several paths may address the same one;
* `Place.toData` — a value at a place, as it is given for a path;
* `Template.update_iff` — an update puts the value at the place that its path addresses, if the
  template takes it there;
* `Template.update_places` — what is put is there, the second of two updates of one place stays, and
  updates of different places can be made in either order.
-/

set_option autoImplicit false

namespace MessageTemplate

namespace Place

/-- The path addresses the place. The position of an entry is written in digits of any script, and
may have zeros before it. -/
inductive Addresses : String → Place → Prop
  | name : Addresses "name" .name
  | category : Addresses "category" .category
  | language : Addresses "language" .language
  | headerEnabled : Addresses "header.enabled" (.header .enabled)
  | headerFormat : Addresses "header.format" (.header .format)
  | headerText : Addresses "header.text" (.header .text)
  | headerSample : Addresses "header.example" (.header .sample)
  | headerMediaUrl : Addresses "header.mediaUrl" (.header .mediaUrl)
  | bodyText : Addresses "body.text" .bodyText
  | footerEnabled : Addresses "footer.enabled" (.footer .enabled)
  | footerText : Addresses "footer.text" (.footer .text)
  | buttonsEnabled : Addresses "buttons.enabled" .buttonsEnabled
  | sample {segment : String} {i : Nat} (hne : segment.toList ≠ [])
    (hi : Text.Denotes segment.toList i) : Addresses ("body.examples." ++ segment) (.sample i)
  | button {segment field : String} {i : Nat} {f : ButtonField} (hne : segment.toList ≠ [])
    (hi : Text.Denotes segment.toList i) (hf : field ∈ f.names) :
    Addresses ("buttons.items." ++ segment ++ "." ++ field) (.button i f)

/-- A value at a place, as a dynamic one. -/
def toData : (p : Place) → p.Value → Data
  | .name, v | .language, v | .category, v | .bodyText, v | .sample _, v => .str v
  | .header .enabled, v => .bool v
  | .header .format, v | .header .text, v => .str v
  | .header .sample, v | .header .mediaUrl, v | .header .mediaHandle, v | .header .filename, v =>
    .ofText? v
  | .footer .enabled, v => .bool v
  | .footer .text, v => .str v
  | .buttonsEnabled, v => .bool v
  | .button _ _, v => .ofText? v

end Place

/-! ## Positions -/

theorem Text.Denotes.no_point {digits : List Char} {n : Nat} (h : Denotes digits n) :
    '.' ∉ digits := fun hmem => absurd (h.decimal '.' hmem) (by decide)

theorem ButtonField.no_point {field : String} {f : ButtonField} (h : field ∈ f.names) :
    '.' ∉ field.toList := by
  have hnames : ∀ field ∈ f.names, '.' ∉ field.toList := by cases f <;> decide
  exact hnames field h

namespace Command

/-- The command at a numeral that denotes a position is the one for this position, unless the
numeral is too long. -/
theorem atPosition_of_denotes {segment : String} {i : Nat} (hne : segment.toList ≠ [])
    (hi : Text.Denotes segment.toList i) :
    (∀ path make, atPosition path segment make = make i) ∨
      ∃ e, ∀ path make, atPosition path segment make = .error e := by
  have hlooks : isPosition segment.toList = true := by
    refine isPosition_iff.mpr ⟨hne, fun c hc => ?_⟩
    rw [Text.isDigitLike, hi.decimal c hc, Bool.true_or]
  unfold atPosition
  simp only [if_pos hlooks]
  cases hread : Text.readNumeral segment.toList with
  | error e => exact .inr ⟨_, fun _ _ => rfl⟩
  | ok n =>
    obtain rfl := hi.unique (Text.denotes_of_read hread)
    exact .inl fun _ _ => rfl

end Command

/-! ## Updates -/

namespace Template

variable {t after : Template} {path : String} {p q : Place}

theorem update_of_ok {value : Data} {c : Command} (h : Command.ofPath path value = .ok c) :
    t.update (.str path) value = t.apply c.edit := by
  unfold update Command.ofPathData
  simp only [h]

theorem update_of_error {value : Data} {e : Failure} (h : Command.ofPath path value = .error e) :
    t.update (.str path) value = .error e := by
  unfold update Command.ofPathData
  simp only [h]

/-- A button field goes by each of its names. -/
theorem setButtonField_of_name {name : String} {f : ButtonField} (h : name ∈ f.names) (index : Int)
    (v : Option String) : t.setButtonField index name v = t.setButtonField index f.name v := by
  unfold setButtonField
  rw [ButtonField.ofName?_eq_some_iff.mpr h, ButtonField.ofName?_eq_some_iff.mpr f.name_mem]

/-- **An update is the edit of the place that its path addresses**, unless the path has a numeral
that is too long. -/
theorem update_of_addresses (h : Place.Addresses path p) :
    (∀ (t : Template) v, t.update (.str path) (p.toData v) = t.apply (p.edit v)) ∨
      ∃ e, ∀ (t : Template) v, t.update (.str path) (p.toData v) = .error e := by
  cases h with
  | headerSample => exact .inl fun t v => by cases v <;> rfl
  | headerMediaUrl => exact .inl fun t v => by cases v <;> rfl
  | @sample segment i hne hi =>
    have hpath := Command.ofPath_sample hi.no_point
    rcases Command.atPosition_of_denotes hne hi with hread | ⟨e, hread⟩
    · refine .inl fun t v => ?_
      have hcommand := (hpath _).trans ((hread _ _).trans (Command.ofMembers_sample i v))
      exact update_of_ok hcommand
    · exact .inr ⟨e, fun t v => update_of_error ((hpath _).trans (hread _ _))⟩
  | @button segment field i f hne hi hf =>
    have hpath := Command.ofPath_button hi.no_point (ButtonField.no_point hf)
    rcases Command.atPosition_of_denotes hne hi with hread | ⟨e, hread⟩
    · refine .inl fun t v => ?_
      have hcommand := (hpath _).trans ((hread _ _).trans (Command.ofMembers_button i field v))
      exact (update_of_ok hcommand).trans (congrArg liftEdit (setButtonField_of_name hf i v))
    · exact .inr ⟨e, fun t v => update_of_error ((hpath _).trans (hread _ _))⟩
  | _ => exact .inl fun t v => rfl

/-- **An update puts the value at the place that its path addresses, if the template takes it**;
whether the path can be read depends on neither. -/
theorem update_iff (h : Place.Addresses path p) :
    ∃ Readable : Prop, ∀ (t : Template) v after,
      t.update (.str path) (p.toData v) = .ok after ↔
        Readable ∧ t.Takes p v ∧ after = t.put p v := by
  rcases update_of_addresses h with hupdate | ⟨e, hupdate⟩
  · refine ⟨True, fun t v after => ?_⟩
    rw [hupdate, apply_edit_iff, true_and]
  · refine ⟨False, fun t v after => ?_⟩
    rw [hupdate, false_and]
    exact iff_of_false nofun not_false

/-- Only a path that addresses a place is ever updated. -/
theorem addresses_of_update {value : Data} (h : t.update (.str path) value = .ok after) :
    ∃ p, Place.Addresses path p := by
  cases hpath : Command.ofPath path value with
  | error e =>
    rw [update_of_error hpath] at h
    cases h
  | ok c =>
    rw [update_of_ok hpath] at h
    by_cases hfield : path ∈ Command.fieldPaths
    · simp only [Command.fieldPaths, Command.fixedPaths, List.map_cons, List.map_nil, List.mem_cons,
        List.not_mem_nil, or_false] at hfield
      rcases hfield with rfl | rfl | rfl | rfl | rfl | rfl | rfl | rfl | rfl | rfl | rfl | rfl <;>
        exact ⟨_, by constructor⟩
    by_cases hentry : ∃ segment, Command.Enters path segment
    · obtain ⟨segment, hs | ⟨hs, hf⟩⟩ := hentry
      · rw [Command.ofPath_sample hs] at hpath
        obtain ⟨n, hlooks, hread, _⟩ := Command.atPosition_eq_ok_iff.mp hpath
        exact ⟨_, .sample hlooks.1 (Text.denotes_of_read hread)⟩
      · rw [Command.ofPath_button hs hf] at hpath
        obtain ⟨n, hlooks, hread, hmembers⟩ := Command.atPosition_eq_ok_iff.mp hpath
        obtain ⟨v, hedit⟩ := Command.edit_of_ofMembers_button hmembers
        rw [hedit] at h
        obtain ⟨i, f, _, _, hname, _⟩ := setButtonField_eq_ok_iff.mp (liftEdit_eq_ok h)
        exact ⟨_, .button hlooks.1 (Text.denotes_of_read hread) hname⟩
    · rw [Command.ofPath_unknown hfield (not_exists.mp hentry)] at hpath
      cases hpath

/-- **Updates of different places are independent.** After an update, the place that its path
addresses has the value. Another update by a path to the same place, which may be spelt otherwise,
gives what it gives without the first. If updates by paths to different places both succeed, each
succeeds after the other, with the same result. No other paths are updated. -/
theorem update_places {t after : Template} {path : String} {p : Place} {v : p.Value}
    (hpath : Place.Addresses path p) (hupdate : t.update (.str path) (p.toData v) = .ok after) :
    after.get p = some v ∧
      (∀ path' w twice once, Place.Addresses path' p →
        after.update (.str path') (p.toData w) = .ok twice →
        t.update (.str path') (p.toData w) = .ok once → twice = once) ∧
      (∀ path' q w after', Place.Addresses path' q → p ≠ q →
        t.update (.str path') (q.toData w) = .ok after' →
        ∃ both, after.update (.str path') (q.toData w) = .ok both ∧
          after'.update (.str path) (p.toData v) = .ok both) ∧
      ∀ path' value after', t.update (.str path') value = .ok after' →
        ∃ q, Place.Addresses path' q := by
  obtain ⟨R, hR⟩ := update_iff hpath
  obtain ⟨hread, htakes, rfl⟩ := (hR t v after).mp hupdate
  refine ⟨get_put t htakes.hasRoom v, ?_, ?_, fun _ _ _ => addresses_of_update⟩
  · intro path' w twice once hpath' htwice honce
    obtain ⟨R', hR'⟩ := update_iff hpath'
    obtain ⟨-, -, rfl⟩ := (hR' _ w twice).mp htwice
    obtain ⟨-, -, rfl⟩ := (hR' t w once).mp honce
    exact put_put t v w
  · intro path' q w after' hpath' hne hupdate'
    obtain ⟨R', hR'⟩ := update_iff hpath'
    obtain ⟨hread', htakes', rfl⟩ := (hR' t w after').mp hupdate'
    have hfirst : (t.put p v).update (.str path') (q.toData w) = .ok ((t.put p v).put q w) :=
      (hR' _ w _).mpr ⟨hread', htakes'.put hne, rfl⟩
    have hsecond : (t.put q w).update (.str path) (p.toData v) = .ok ((t.put p v).put q w) :=
      (hR _ v _).mpr ⟨hread, htakes.put hne.symm, put_comm t hne v w⟩
    exact ⟨_, hfirst, hsecond⟩

/-- A sample behind the last one, and one that is filled up before it. -/
theorem update_places_filledUp :
    ∃ third first both, blank.update (.str "body.examples.2") (.str "Ana") = .ok third ∧
      third.get (.sample 2) = some "Ana" ∧
      blank.update (.str "body.examples.00") (.str "Bob") = .ok first ∧
      third.update (.str "body.examples.00") (.str "Bob") = .ok both ∧
      first.update (.str "body.examples.2") (.str "Ana") = .ok both ∧
      both.body.samples = ["Bob", "", "Ana"] := by
  have hthird : Place.Addresses "body.examples.2" (.sample 2) :=
    @Place.Addresses.sample "2" 2 nofun ⟨[2], rfl, rfl⟩
  have hfirst : Place.Addresses "body.examples.00" (.sample 0) :=
    @Place.Addresses.sample "00" 0 nofun ⟨[0, 0], rfl, rfl⟩
  obtain ⟨hget, -, hboth, -⟩ := update_places (t := blank) (v := "Ana") hthird rfl
  obtain ⟨both, hbehind, hbefore⟩ := hboth "body.examples.00" (.sample 0) "Bob" _ hfirst nofun rfl
  refine ⟨_, _, both, rfl, hget, rfl, hbehind, hbefore, ?_⟩
  obtain rfl := Except.ok.inj hbehind
  rfl

end Template

end MessageTemplate
