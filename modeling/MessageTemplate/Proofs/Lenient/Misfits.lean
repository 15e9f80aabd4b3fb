import MessageTemplate.Proofs.Data.Erasing
import Mathlib.Data.List.Basic
import Mathlib.Data.List.Nodup

/-!
# Values that do not fit a schema

* `Shape` — what a value should be: text, a truth value, a list of such values, or an object with
  such members;
* `Template.shape` — what a template should be;
* `Misfit` — a value that does not fit, with the place where it is given and the place where it
  stands when it is met;
* `Shape.Meets` — the misfits that are met in a value, said without any reading;
* `Shape.misfits`, `Shape.mem_misfits_iff` — the list of them;
* `Shape.nodup_misfits` — no two of them are given at the same place.

A member with two spellings is read under the first one that counts. The second one comes to light
only if the first does not fit and is gone, one round later. By then a list holds only the entries
that fit, so that the later places are counted among these.
-/

set_option autoImplicit false

namespace MessageTemplate

/-! ## Schemas -/

/-- What a value should be. The members of a part are given by their spellings, the preferred one
first, and by what each of them should be. -/
inductive Shape where
  | text
  | truth
  | list (entry : Shape)
  | part (name : String) (members : List (List String)) (shapeOf : List String → Shape)

namespace Shape

/-- What is wrong with the kind of a value. -/
def blame? : Shape → Data → Option Mismatch
  | .text, .str _ => none
  | .text, _ => some .noText
  | .truth, d => (Read.truth d).faults.head?.map Fault.mismatch
  | .list _, .list _ => none
  | .list _, _ => some .noList
  | .part _ _ _, .object _ => none
  | .part name _ _, _ => some (.noPart name)

/-- The value is of the kind that it should be. -/
def fits (s : Shape) (d : Data) : Bool := (s.blame? d).isNone

/-- All spellings of members of one part are different. -/
def Apart : Shape → Prop
  | .text => True
  | .truth => True
  | .list entry => entry.Apart
  | .part _ members shapeOf => members.flatten.Nodup ∧ ∀ names ∈ members, (shapeOf names).Apart

end Shape

namespace Header

/-- What a header should be. -/
def shape : Shape :=
  .part "Header" [["enabled"], ["format"], ["text"], ["example"], ["mediaUrl", "media_url"],
    ["mediaHandle", "media_handle"], ["filename"]] fun names =>
      if names = ["enabled"] then .truth else .text

end Header

namespace Body

/-- What a body should be. -/
def shape : Shape :=
  .part "Body" [["text"], ["examples"]] fun names =>
    if names = ["examples"] then .list .text else .text

end Body

namespace Footer

/-- What a footer should be. -/
def shape : Shape :=
  .part "Footer" [["enabled"], ["text"]] fun names =>
    if names = ["enabled"] then .truth else .text

end Footer

namespace Button

/-- What a button should be. -/
def shape : Shape :=
  .part "Button" [["type"], ["text"], ["url"], ["phoneNumber", "phone_number"], ["example"]]
    fun _ => .text

end Button

namespace ButtonSet

/-- What a set of buttons should be. -/
def shape : Shape :=
  .part "ButtonSet" [["enabled"], ["items"]] fun names =>
    if names = ["enabled"] then .truth else .list Button.shape

end ButtonSet

namespace Template

/-- What a template should be. -/
def shape : Shape :=
  .part "Template" [["id"], ["name"], ["language"], ["category"], ["header"], ["body"], ["footer"],
    ["buttons"]] fun names =>
      if names = ["header"] then Header.shape
      else if names = ["body"] then Body.shape
      else if names = ["footer"] then Footer.shape
      else if names = ["buttons"] then ButtonSet.shape
      else .text

end Template

/-! ## Misfits -/

/-- A value that does not fit: the round in which it is met, the place where it is given, the place
where it stands in this round, and what is wrong with it. -/
structure Misfit where
  round : Nat
  location : Location
  standing : Location
  mismatch : Mismatch
  deriving DecidableEq, Repr

namespace Misfit

/-- A value that does not fit as a whole. -/
def whole (m : Mismatch) : Misfit := ⟨0, [], [], m⟩

/-- The misfit seen from the object that has the value under the name. -/
def inMember (name : String) (v : Misfit) : Misfit :=
  { v with location := .name name :: v.location, standing := .name name :: v.standing }

/-- The misfit seen from the list that has the value as its `i`-th entry, and as the `j`-th entry
that fits. After the first round these are the only ones. -/
def inEntry (i j : Nat) (v : Misfit) : Misfit :=
  { v with
    location := .index i :: v.location
    standing := .index (if v.round = 0 then i else j) :: v.standing }

/-- The misfit of a value that comes to light some rounds later. -/
def delayed (rounds : Nat) (v : Misfit) : Misfit := { v with round := v.round + rounds }

/-- The misfit as a fault, at the place where the value stands. -/
def fault (v : Misfit) : Fault := ⟨v.standing, v.mismatch⟩

end Misfit

/-- The value of a member, if it counts: a member that is null is none. -/
def Members.counted? (ms : Members) (name : String) : Option Data :=
  (ms.lookup name).filter fun d => !d.isNull

theorem Members.counted?_eq_some {ms : Members} {name : String} {d : Data} :
    ms.counted? name = some d ↔ ms.lookup name = some d ∧ d.isNull = false := by
  rw [counted?, Option.filter_eq_some_iff, Bool.not_eq_true']

namespace Shape

/-- The values in a value that are met when it is read as it should be, and do not fit. A value that
does not fit as a whole is not looked into. A member is met under a spelling if those before it,
as far as they count, do not fit; each of them takes a round. -/
inductive Meets : Shape → Data → Misfit → Prop where
  | whole {s : Shape} {d : Data} {m : Mismatch} (h : s.blame? d = some m) : Meets s d (.whole m)
  | entry {entry : Shape} {before after : List Data} {d : Data} {v : Misfit}
      (h : Meets entry d v) :
      Meets (.list entry) (.list (before ++ d :: after))
        (v.inEntry before.length (before.countP entry.fits))
  | member {part : String} {members : List (List String)} {shapeOf : List String → Shape}
      {ms : Members} {before after : List String} {name : String} {d : Data} {v : Misfit}
      (hmember : before ++ name :: after ∈ members)
      (hbefore : ∀ other ∈ before, ∀ e, ms.counted? other = some e →
        (shapeOf (before ++ name :: after)).fits e = false)
      (hd : ms.counted? name = some d) (h : Meets (shapeOf (before ++ name :: after)) d v) :
      Meets (.part part members shapeOf) (.object ms)
        ((v.inMember name).delayed (before.countP fun other => (ms.counted? other).isSome))

/-- The misfits among the entries of a list that stand behind `i` others, of which `j` fit. -/
def entryMisfits (fits : Data → Bool) (misfits : Data → List Misfit) :
    Nat → Nat → List Data → List Misfit
  | _, _, [] => []
  | i, j, d :: rest =>
    (misfits d).map (.inEntry i j) ++
      entryMisfits fits misfits (i + 1) (if fits d then j + 1 else j) rest

/-- The misfits in the member of the given spellings. -/
def memberMisfits (fits : Data → Bool) (misfits : Data → List Misfit) (ms : Members) :
    List String → List Misfit
  | [] => []
  | name :: names =>
    match ms.counted? name with
    | none => memberMisfits fits misfits ms names
    | some d =>
      (misfits d).map (.inMember name) ++
        if fits d then [] else (memberMisfits fits misfits ms names).map (.delayed 1)

/-- The misfits that are met in a value. -/
def misfits : Shape → Data → List Misfit
  | s, d =>
    match s.blame? d with
    | some m => [.whole m]
    | none =>
      match s, d with
      | .list entry, .list items => entryMisfits entry.fits entry.misfits 0 0 items
      | .part _ members shapeOf, .object ms =>
        members.flatMap fun names =>
          memberMisfits (shapeOf names).fits (shapeOf names).misfits ms names
      | _, _ => []

end Shape

namespace Misfit

theorem delayed_delayed (v : Misfit) (n m : Nat) : (v.delayed n).delayed m = v.delayed (n + m) := by
  simp only [delayed, Nat.add_assoc]

end Misfit

namespace Shape

/-! ## The misfits of a value are the ones that are met -/

variable {part : String} {members : List (List String)} {shapeOf : List String → Shape}
  {s entry : Shape} {d : Data} {ms : Members} {v : Misfit}

theorem misfits_of_blame {m : Mismatch} (h : s.blame? d = some m) :
    s.misfits d = [.whole m] := by
  unfold misfits
  rw [h]

theorem misfits_of_not_fits (h : s.fits d = false) : ∃ m, s.misfits d = [.whole m] := by
  unfold fits at h
  cases hm : s.blame? d with
  | none =>
    rw [hm] at h
    cases h
  | some m => exact ⟨m, misfits_of_blame hm⟩

theorem misfits_truth (h : Shape.truth.blame? d = none) : Shape.truth.misfits d = [] := by
  unfold misfits
  rw [h]

theorem misfits_list (items : List Data) :
    (Shape.list entry).misfits (.list items) = entryMisfits entry.fits entry.misfits 0 0 items := rfl

theorem misfits_part (ms : Members) :
    (Shape.part part members shapeOf).misfits (.object ms) = members.flatMap fun names =>
      memberMisfits (shapeOf names).fits (shapeOf names).misfits ms names := rfl

/-- One entry more stands before it. -/
theorem inEntry_cons (fits : Data → Bool) (i j : Nat) (first : Data) (before : List Data) :
    v.inEntry (i + (first :: before).length) (j + (first :: before).countP fits) =
      v.inEntry (i + 1 + before.length)
        ((if fits first then j + 1 else j) + before.countP fits) := by
  have hlength : i + (first :: before).length = i + 1 + before.length := by
    rw [List.length_cons]
    omega
  have hcount : j + (first :: before).countP fits =
      (if fits first then j + 1 else j) + before.countP fits := by
    rw [List.countP_cons]
    split <;> omega
  rw [hlength, hcount]

/-- The misfits among entries, each with the number of entries before it and of those that fit. -/
theorem mem_entryMisfits {fits : Data → Bool} {misfits : Data → List Misfit} {i j : Nat}
    {items : List Data} :
    v ∈ entryMisfits fits misfits i j items ↔
      ∃ before d after, items = before ++ d :: after ∧
        ∃ w ∈ misfits d, v = w.inEntry (i + before.length) (j + before.countP fits) := by
  induction items generalizing i j with
  | nil => simp [entryMisfits]
  | cons first rest ih =>
    rw [entryMisfits, List.mem_append, ih]
    constructor
    · rintro (hfirst | ⟨before, d, after, rfl, w, hw, rfl⟩)
      · obtain ⟨w, hw, rfl⟩ := List.mem_map.mp hfirst
        exact ⟨[], first, rest, rfl, w, hw, rfl⟩
      · exact ⟨first :: before, d, after, rfl, w, hw, (inEntry_cons fits i j first before).symm⟩
    · rintro ⟨before, d, after, hitems, w, hw, rfl⟩
      cases before with
      | nil =>
        obtain ⟨rfl, rfl⟩ := List.cons.inj hitems
        exact .inl (List.mem_map.mpr ⟨w, hw, rfl⟩)
      | cons head before =>
        obtain ⟨rfl, rfl⟩ := List.cons.inj hitems
        exact .inr ⟨before, d, after, rfl, w, hw, inEntry_cons fits i j first before⟩

/-- The misfits in a member, each with the spelling that it is found under. -/
theorem mem_memberMisfits {fits : Data → Bool} {misfits : Data → List Misfit}
    {names : List String} :
    v ∈ memberMisfits fits misfits ms names ↔
      ∃ before name after, names = before ++ name :: after ∧
        (∀ other ∈ before, ∀ e, ms.counted? other = some e → fits e = false) ∧
        ∃ d, ms.counted? name = some d ∧ ∃ w ∈ misfits d,
          v = (w.inMember name).delayed (before.countP fun other => (ms.counted? other).isSome) := by
  induction names generalizing v with
  | nil => simp [memberMisfits]
  | cons first names ih =>
    constructor
    · intro hv
      cases hfirst : ms.counted? first with
      | none =>
        simp only [memberMisfits, hfirst] at hv
        obtain ⟨before, name, after, rfl, hbefore, d, hd, w, hw, rfl⟩ := ih.mp hv
        refine ⟨first :: before, name, after, rfl, ?_, d, hd, w, hw, ?_⟩
        · refine List.forall_mem_cons.mpr ⟨?_, hbefore⟩
          rw [hfirst]
          exact nofun
        · simp [hfirst]
      | some d =>
        simp only [memberMisfits, hfirst, List.mem_append] at hv
        rcases hv with hhere | hlater
        · obtain ⟨w, hw, rfl⟩ := List.mem_map.mp hhere
          exact ⟨[], first, names, rfl, nofun, d, hfirst, w, hw, rfl⟩
        · cases hfits : fits d with
          | true => simp [hfits] at hlater
          | false =>
            simp only [hfits, Bool.false_eq_true, if_false] at hlater
            obtain ⟨u, hu, rfl⟩ := List.mem_map.mp hlater
            obtain ⟨before, name, after, rfl, hbefore, e, he, w, hw, rfl⟩ := ih.mp hu
            refine ⟨first :: before, name, after, rfl, ?_, e, he, w, hw, ?_⟩
            · refine List.forall_mem_cons.mpr ⟨?_, hbefore⟩
              intro d' hd'
              obtain rfl := Option.some.inj (hfirst.symm.trans hd')
              exact hfits
            · simp [Misfit.delayed_delayed, hfirst]
    · rintro ⟨before, name, after, hnames, hbefore, d, hd, w, hw, rfl⟩
      cases before with
      | nil =>
        obtain ⟨rfl, rfl⟩ := List.cons.inj hnames
        simp only [memberMisfits, hd]
        exact List.mem_append_left _ (List.mem_map.mpr ⟨w, hw, rfl⟩)
      | cons head before =>
        obtain ⟨rfl, rfl⟩ := List.cons.inj hnames
        obtain ⟨hhead, hbefore⟩ := List.forall_mem_cons.mp hbefore
        have hrest := ih.mpr ⟨before, name, after, rfl, hbefore, d, hd, w, hw, rfl⟩
        cases hfirst : ms.counted? first with
        | none => simpa [memberMisfits, hfirst] using hrest
        | some e =>
          simp only [memberMisfits, hfirst, hhead e hfirst, Bool.false_eq_true, if_false]
          refine List.mem_append_right _ (List.mem_map.mpr ⟨_, hrest, ?_⟩)
          simp [Misfit.delayed_delayed, hfirst]

/-- A value that does not fit as a whole is the only misfit in it. -/
theorem mem_misfits_iff_of_blame {m : Mismatch} (hm : s.blame? d = some m) :
    v ∈ s.misfits d ↔ s.Meets d v := by
  rw [misfits_of_blame hm, List.mem_singleton]
  constructor
  · rintro rfl
    exact .whole hm
  · intro h
    cases h with
    | whole h =>
      obtain rfl := Option.some.inj (hm.symm.trans h)
      rfl
    | entry _ => cases hm
    | member _ _ _ _ => cases hm

/-- **The misfits of a value are exactly those that are met in it.** -/
theorem mem_misfits_iff : v ∈ s.misfits d ↔ s.Meets d v := by
  induction s generalizing d v with
  | text =>
    cases d with
    | str text => exact ⟨nofun, fun h => by cases h with | whole h => cases h⟩
    | _ => exact mem_misfits_iff_of_blame rfl
  | truth =>
    cases hm : Shape.truth.blame? d with
    | some m => exact mem_misfits_iff_of_blame hm
    | none =>
      rw [misfits_truth hm]
      exact ⟨nofun, fun h => by cases h with | whole h => rw [hm] at h; cases h⟩
  | list entry ih =>
    cases d with
    | list items =>
      rw [misfits_list, mem_entryMisfits]
      simp only [ih, Nat.zero_add]
      constructor
      · rintro ⟨before, d, after, rfl, w, hw, rfl⟩
        exact .entry hw
      · intro h
        cases h with
        | whole h => cases h
        | entry h => exact ⟨_, _, _, rfl, _, h, rfl⟩
    | _ => exact mem_misfits_iff_of_blame rfl
  | part name members shapeOf ih =>
    cases d with
    | object ms =>
      rw [misfits_part, List.mem_flatMap]
      simp only [mem_memberMisfits, ih]
      constructor
      · rintro ⟨_, hmember, before, name, after, rfl, hbefore, d, hd, w, hw, rfl⟩
        exact .member hmember hbefore hd hw
      · intro h
        cases h with
        | whole h => cases h
        | member hmember hbefore hd h =>
          exact ⟨_, hmember, _, _, _, rfl, hbefore, _, hd, _, h, rfl⟩
    | _ => exact mem_misfits_iff_of_blame rfl

/-- A misfit is a value that is given, and that something is wrong with. -/
theorem Meets.given (h : s.Meets d v) :
    ∃ e, d.at? v.location = some e ∧ ∃ s : Shape, s.blame? e = some v.mismatch := by
  induction h with
  | @whole s d m h => exact ⟨d, rfl, s, h⟩
  | @entry entry before after d v h ih =>
    obtain ⟨e, he, hblame⟩ := ih
    refine ⟨e, ?_, hblame⟩
    rw [← he]
    show (Data.list (before ++ d :: after)).at? (.index before.length :: v.location) = _
    simp [Data.at?, Data.position?_length]
  | @member part members shapeOf ms before after name d v hmember hbefore hd h ih =>
    obtain ⟨e, he, hblame⟩ := ih
    have hlookup := (Members.counted?_eq_some.mp hd).1
    refine ⟨e, ?_, hblame⟩
    rw [← he]
    show (Data.object ms).at? (.name name :: v.location) = _
    rw [Data.at?, Members.resolve?_of_lookup hlookup, Option.bind_some, hlookup, Option.bind_some]

/-! ## No value is met twice -/

theorem nodup_entryMisfits {fits : Data → Bool} {misfits : Data → List Misfit}
    (h : ∀ d, ((misfits d).map Misfit.location).Nodup) (i j : Nat) (items : List Data) :
    ((entryMisfits fits misfits i j items).map Misfit.location).Nodup := by
  induction items generalizing i j with
  | nil => exact List.nodup_nil
  | cons d rest ih =>
    rw [entryMisfits, List.map_append, List.nodup_append']
    refine ⟨?_, ih _ _, ?_⟩
    · have hlocations : Misfit.location ∘ Misfit.inEntry i j =
          (Key.index i :: ·) ∘ Misfit.location := rfl
      rw [List.map_map, hlocations, ← List.map_map]
      exact (h d).map List.cons_injective
    · intro loc hfirst hrest
      obtain ⟨_, hv, rfl⟩ := List.mem_map.mp hfirst
      obtain ⟨v, _, rfl⟩ := List.mem_map.mp hv
      obtain ⟨u, hu, hsame⟩ := List.mem_map.mp hrest
      obtain ⟨before, d, after, _, w, _, rfl⟩ := mem_entryMisfits.mp hu
      have hindex := (List.cons.inj hsame).1
      simp only [Key.index.injEq] at hindex
      omega

/-- The misfits in a member are in it under one of its spellings. -/
theorem location_of_mem_memberMisfits {fits : Data → Bool} {misfits : Data → List Misfit}
    {names : List String} (hv : v ∈ memberMisfits fits misfits ms names) :
    ∃ name ∈ names, v.location.head? = some (.name name) := by
  obtain ⟨before, name, after, rfl, _, d, _, w, _, rfl⟩ := mem_memberMisfits.mp hv
  exact ⟨name, List.mem_append_right _ List.mem_cons_self, rfl⟩

theorem nodup_memberMisfits {fits : Data → Bool} {misfits : Data → List Misfit}
    (h : ∀ d, ((misfits d).map Misfit.location).Nodup) (ms : Members) {names : List String}
    (hnames : names.Nodup) :
    ((memberMisfits fits misfits ms names).map Misfit.location).Nodup := by
  induction names with
  | nil => exact List.nodup_nil
  | cons first names ih =>
    rw [List.nodup_cons] at hnames
    cases hfirst : ms.counted? first with
    | none => simpa only [memberMisfits, hfirst] using ih hnames.2
    | some d =>
      have hhere : (((misfits d).map (Misfit.inMember first)).map Misfit.location).Nodup := by
        have hlocations : Misfit.location ∘ Misfit.inMember first =
            (Key.name first :: ·) ∘ Misfit.location := rfl
        rw [List.map_map, hlocations, ← List.map_map]
        exact (h d).map List.cons_injective
      simp only [memberMisfits, hfirst]
      split
      · rwa [List.append_nil]
      · have hdelayed : Misfit.location ∘ Misfit.delayed 1 = Misfit.location := rfl
        rw [List.map_append, List.nodup_append']
        refine ⟨hhere, by rw [List.map_map, hdelayed]; exact ih hnames.2, ?_⟩
        intro loc hloc hlater
        rw [List.map_map, hdelayed] at hlater
        obtain ⟨_, hv, rfl⟩ := List.mem_map.mp hloc
        obtain ⟨v, _, rfl⟩ := List.mem_map.mp hv
        obtain ⟨u, hu, hsame⟩ := List.mem_map.mp hlater
        obtain ⟨name, hname, hhead⟩ := location_of_mem_memberMisfits hu
        rw [hsame] at hhead
        cases hhead
        exact hnames.1 hname

/-- **No two misfits are given at the same place.** -/
theorem nodup_misfits (h : s.Apart) (d : Data) : ((s.misfits d).map Misfit.location).Nodup := by
  induction s generalizing d with
  | text =>
    cases d with
    | str text => exact List.nodup_nil
    | _ => exact List.nodup_singleton _
  | truth =>
    cases hm : Shape.truth.blame? d with
    | some m => exact misfits_of_blame hm ▸ List.nodup_singleton _
    | none => exact misfits_truth hm ▸ List.nodup_nil
  | list entry ih =>
    cases d with
    | list items => exact nodup_entryMisfits (ih h) 0 0 items
    | _ => exact List.nodup_singleton _
  | part name members shapeOf ih =>
    cases d with
    | object ms =>
      obtain ⟨hnames, hshapes⟩ := h
      obtain ⟨hnodup, hdisjoint⟩ := List.nodup_flatten.mp hnames
      rw [misfits_part, List.map_flatMap, List.nodup_flatMap]
      refine ⟨?_, hdisjoint.imp ?_⟩
      · intro names hmember
        exact nodup_memberMisfits (ih names (hshapes names hmember)) ms (hnodup names hmember)
      · intro names others hapart loc hloc hother
        obtain ⟨v, hv, rfl⟩ := List.mem_map.mp hloc
        obtain ⟨u, hu, hsame⟩ := List.mem_map.mp hother
        obtain ⟨name, hname, hhead⟩ := location_of_mem_memberMisfits hv
        obtain ⟨other, hother, hhead'⟩ := location_of_mem_memberMisfits hu
        rw [hsame, hhead] at hhead'
        cases hhead'
        exact hapart hname hother
    | _ => exact List.nodup_singleton _

end Shape

end MessageTemplate
