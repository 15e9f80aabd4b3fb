import MessageTemplate.Proofs.Lenient.Dues
import Mathlib.Data.List.Perm.Basic

/-!
# One issue for each value that does not fit

* `Shape.Round`, `Shape.round` — what is due in a value stands in it, and to take it away leaves what
  is due later;
* `Template.reported_of_settles` — over all rounds everything that is due is reported;
* `Template.each_misfit_reported_once` — the issues of lenient reading are those of the misfits, each
  with one.

What is left of a value after a round has its misfits at other places than the value itself: the
entries of a list have moved up. A round is therefore stated about what is due.
-/

set_option autoImplicit false

namespace MessageTemplate

namespace Shape

/-- The locations of what is due now. -/
def dueLocations (dues : List Due) : List Location := (Due.now dues).map Fault.location

theorem dueLocations_append (dues others : List Due) :
    dueLocations (dues ++ others) = dueLocations dues ++ dueLocations others := by
  rw [dueLocations, Due.now_append, List.map_append]
  rfl

theorem dueLocations_under (k k' : Key) (dues : List Due) :
    dueLocations (dues.map (Due.under k k')) = (dueLocations dues).map (k :: ·) := by
  rw [dueLocations, Due.now_under, dueLocations, List.map_map, List.map_map]
  rfl

theorem dueLocations_postponed (dues : List Due) : dueLocations (dues.map Due.postponed) = [] := by
  rw [dueLocations, Due.now_postponed]
  rfl

/-- What a round does to a value that fits as a whole: everything due now can be taken away. That
leaves a value that fits, in which the rest is due. -/
structure Round (s : Shape) (d : Data) : Prop where
  stands : ∀ loc ∈ dueLocations (s.dues d), (d.erase? loc).isSome = true
  fits : s.fits (d.eraseAll (dueLocations (s.dues d))) = true
  dues : s.dues (d.eraseAll (dueLocations (s.dues d))) = Due.later (s.dues d)

variable {s entry : Shape} {ms : Members}

/-- A round over the entries of a list: those that do not fit are gone. -/
theorem entries_round (h : ∀ d, entry.fits d = true → entry.Round d) (before items : List Data)
    (j : Nat) : ∃ left,
      Data.ClearsEntries before items (dueLocations (entry.entryDues before.length j items)) left ∧
        entry.entryDues j j left = Due.later (entry.entryDues before.length j items) := by
  induction items generalizing before j with
  | nil => exact ⟨[], .nil before, rfl⟩
  | cons d rest ih =>
    cases hfits : entry.fits d with
    | false =>
      obtain ⟨m, hm⟩ := dues_of_not_fits hfits
      obtain ⟨left, hclears, hleft⟩ := ih (before ++ [d]) j
      rw [List.length_append, List.length_singleton] at hclears hleft
      refine ⟨left, ?_, ?_⟩
      · rw [entryDues_cons, dueLocations_append, dueLocations_under, hm, hfits]
        exact hclears.dropped
      · rw [entryDues_cons, Due.later_append, Due.later_under, hm, hfits]
        exact hleft
    | true =>
      obtain ⟨hstands, hfitsLeft, hdues⟩ := h d hfits
      obtain ⟨left, hclears, hleft⟩ := ih (before ++ [d]) (j + 1)
      rw [List.length_append, List.length_singleton] at hclears hleft
      refine ⟨d.eraseAll (dueLocations (entry.dues d)) :: left, ?_, ?_⟩
      · rw [entryDues_cons, dueLocations_append, dueLocations_under, hfits]
        exact hclears.kept hstands
      · rw [entryDues_cons, entryDues_cons, Due.later_append, Due.later_under, hdues, hfitsLeft, hfits]
        simp only [if_true, hleft]

/-- What a round does to the members of some names: it leaves what is due later, in every object with
what `after` says about them. -/
def MembersRound (names : List String) (dues : Members → List Due) (ms : Members) : Prop :=
  ∃ after, Clears names ms (dueLocations (dues ms)) after ∧
    ∀ ms' : Members, (∀ s ∈ names, ms'.lookup s = after s) → dues ms' = Due.later (dues ms)

theorem MembersRound.append {names others : List String} {dues dues' : Members → List Due}
    (h : MembersRound names dues ms) (h' : MembersRound others dues' ms)
    (hdisjoint : ∀ s ∈ names, s ∉ others) :
    MembersRound (names ++ others) (fun ms => dues ms ++ dues' ms) ms := by
  obtain ⟨after, hclears, hnext⟩ := h
  obtain ⟨after', hclears', hnext'⟩ := h'
  refine ⟨fun s => if s ∈ names then after s else after' s, ?_, ?_⟩
  · rw [dueLocations_append]
    exact hclears.append hclears' hdisjoint
  · intro ms' hafter
    have hfirst : dues ms' = Due.later (dues ms) := by
      refine hnext ms' fun s hs => ?_
      exact (hafter s (List.mem_append_left _ hs)).trans (if_pos hs)
    have hlast : dues' ms' = Due.later (dues' ms) := by
      refine hnext' ms' fun s hs => ?_
      exact (hafter s (List.mem_append_right _ hs)).trans (if_neg fun hs' => hdisjoint s hs' hs)
    simp only [Due.later_append, hfirst, hlast]

/-- A round that only concerns the member of the first spelling. -/
theorem first_round {name : String} {names : List String} {locations : List Location}
    {left : Option Data} (hnew : name ∉ names)
    (hlocs : dueLocations (s.memberDues ms (name :: names)) = locations)
    (hclears : Clears [name] ms locations fun _ => left)
    (hnext : ∀ ms' : Members, ms'.lookup name = left → Members.AgreeOn names ms ms' →
      s.memberDues ms' (name :: names) = Due.later (s.memberDues ms (name :: names))) :
    MembersRound (name :: names) (fun ms => s.memberDues ms (name :: names)) ms := by
  have hdisjoint : ∀ s ∈ [name], s ∉ names := fun s hs => (List.mem_singleton.mp hs).symm ▸ hnew
  refine ⟨fun s => if s ∈ [name] then left else ms.lookup s, ?_, ?_⟩
  · have hboth := hclears.append (Clears.nil names ms) hdisjoint
    rw [List.append_nil] at hboth
    exact hlocs ▸ hboth
  · intro ms' hafter
    refine hnext ms' ?_ ?_
    · exact (hafter name List.mem_cons_self).trans (if_pos (List.mem_singleton.mpr rfl))
    · intro s hs
      exact (hafter s (List.mem_cons_of_mem name hs)).trans (if_neg fun h => hdisjoint s h hs)

/-- A round over the member of some spellings. A value that does not fit is gone, and the next
spelling is read. -/
theorem member_round (h : ∀ d, s.fits d = true → s.Round d) {names : List String}
    (hnames : names.Nodup) (ms : Members) :
    MembersRound names (fun ms => s.memberDues ms names) ms := by
  induction names with
  | nil => exact ⟨fun s => ms.lookup s, Clears.nil [] ms, fun _ _ => rfl⟩
  | cons name names ih =>
    rw [List.nodup_cons] at hnames
    cases hname : ms.counted? name with
    | none =>
      obtain ⟨after, hclears, hnext⟩ := ih hnames.2
      have hdisjoint : ∀ s ∈ [name], s ∉ names :=
        fun s hs => (List.mem_singleton.mp hs).symm ▸ hnames.1
      refine ⟨fun s => if s ∈ [name] then ms.lookup s else after s, ?_, ?_⟩
      · simp only [memberDues_of_none hname]
        exact (Clears.nil [name] ms).append hclears hdisjoint
      · intro ms' hafter
        have hsame : ms'.lookup name = ms.lookup name :=
          (hafter name List.mem_cons_self).trans (if_pos (List.mem_singleton.mpr rfl))
        have hname' : ms'.counted? name = none := by
          rw [Members.counted?, hsame]
          exact hname
        simp only [memberDues_of_none hname, memberDues_of_none hname']
        refine hnext ms' fun s hs => ?_
        exact (hafter s (List.mem_cons_of_mem name hs)).trans (if_neg fun h => hdisjoint s h hs)
    | some d =>
      obtain ⟨hd, hnull⟩ := Members.counted?_eq_some.mp hname
      cases hfits : s.fits d with
      | true =>
        obtain ⟨hstands, hfitsLeft, hdues⟩ := h d hfits
        refine first_round hnames.1 ?_ (Clears.inMember hd hstands) ?_
        · rw [memberDues_of_fits hname hfits, dueLocations_under]
        · intro ms' hleft _
          have hname' := Members.counted?_eq_some.mpr ⟨hleft, (Data.isNull_eraseAll d _).trans hnull⟩
          rw [memberDues_of_fits hname' hfitsLeft, memberDues_of_fits hname hfits, hdues,
            Due.later_under]
      | false =>
        obtain ⟨m, hm⟩ := dues_of_not_fits hfits
        refine first_round hnames.1 ?_ (Clears.member hd) ?_
        · rw [memberDues_of_not_fits hname hfits, dueLocations_append, dueLocations_under, hm,
            dueLocations_postponed]
          rfl
        · intro ms' hleft hagree
          have hname' : ms'.counted? name = none := by
            rw [Members.counted?, hleft]
            rfl
          rw [memberDues_of_none hname', memberDues_agree hagree, memberDues_of_not_fits hname hfits,
            Due.later_append, Due.later_under, hm, Due.later_postponed]
          rfl

/-- A round over all members of a part. -/
theorem members_round {shapeOf : List String → Shape} {members : List (List String)}
    (h : ∀ names ∈ members, ∀ d, (shapeOf names).fits d = true → (shapeOf names).Round d)
    (hmembers : members.flatten.Nodup) (ms : Members) :
    MembersRound members.flatten
      (fun ms => members.flatMap fun names => (shapeOf names).memberDues ms names) ms := by
  induction members with
  | nil => exact ⟨fun s => ms.lookup s, Clears.nil [] ms, fun _ _ => rfl⟩
  | cons names members ih =>
    obtain ⟨hnames, hrest⟩ := List.forall_mem_cons.mp h
    rw [List.flatten_cons, List.nodup_append'] at hmembers
    obtain ⟨hnodup, hnodupRest, hdisjoint⟩ := hmembers
    exact (member_round hnames hnodup ms).append (ih hrest hnodupRest) fun s hs => hdisjoint hs

/-- **A round leaves what is due later.** -/
theorem round (h : s.Apart) {d : Data} (hfits : s.fits d = true) : s.Round d := by
  induction s generalizing d with
  | text =>
    cases d with
    | str text => exact ⟨List.forall_mem_nil _, rfl, rfl⟩
    | _ => cases hfits
  | truth =>
    have hdues : Shape.truth.dues d = [] := by
      rw [dues, misfits_truth (Option.isNone_iff_eq_none.mp hfits)]
      rfl
    constructor
    · rw [hdues]
      exact List.forall_mem_nil _
    · rw [hdues]
      exact hfits
    · rw [hdues]
      exact hdues
  | list entry ih =>
    cases d with
    | list items =>
      obtain ⟨left, ⟨hstands, hleaves⟩, hleft⟩ := entries_round (fun d => ih h) [] items 0
      have hround : (Data.list items).eraseAll
          (dueLocations ((Shape.list entry).dues (.list items))) = .list left := hleaves
      exact ⟨hstands, by rw [hround]; rfl, by rw [hround]; exact hleft⟩
    | _ => cases hfits
  | part name members shapeOf ih =>
    cases d with
    | object ms =>
      obtain ⟨after, hclears, hnext⟩ :=
        members_round (fun names hmember d => ih names (h.2 names hmember)) h.1 ms
      have hagree : Members.AgreeOn members.flatten ms ms := fun _ _ => rfl
      obtain ⟨left, hleaves, hlookup⟩ := hclears.leaves ms hagree
      have hround : (Data.object ms).eraseAll
          (dueLocations ((Shape.part name members shapeOf).dues (.object ms))) = .object left := by
        rw [dues_part]
        exact hleaves
      constructor
      · rw [dues_part]
        exact hclears.stands ms hagree
      · rw [hround]
        rfl
      · rw [hround, dues_part, dues_part]
        exact hnext left fun s hs => (hlookup s).trans (if_pos hs)
    | _ => cases hfits

end Shape

/-! ## All rounds -/

theorem Header.apart_shape : Header.shape.Apart := by
  refine ⟨by decide, fun names _ => ?_⟩
  show (if names = ["enabled"] then Shape.truth else Shape.text).Apart
  split <;> trivial

theorem Body.apart_shape : Body.shape.Apart := by
  refine ⟨by decide, fun names _ => ?_⟩
  show (if names = ["examples"] then Shape.text.list else Shape.text).Apart
  split <;> trivial

theorem Footer.apart_shape : Footer.shape.Apart := by
  refine ⟨by decide, fun names _ => ?_⟩
  show (if names = ["enabled"] then Shape.truth else Shape.text).Apart
  split <;> trivial

theorem Button.apart_shape : Button.shape.Apart := ⟨by decide, fun _ _ => trivial⟩

theorem ButtonSet.apart_shape : ButtonSet.shape.Apart := by
  refine ⟨by decide, fun names _ => ?_⟩
  show (if names = ["enabled"] then Shape.truth else Button.shape.list).Apart
  split
  · trivial
  · exact Button.apart_shape

theorem Template.apart_shape : Template.shape.Apart := by
  refine ⟨by decide, fun names _ => ?_⟩
  show (if names = ["header"] then Header.shape else if names = ["body"] then Body.shape
    else if names = ["footer"] then Footer.shape else if names = ["buttons"] then ButtonSet.shape
    else Shape.text).Apart
  split_ifs
  · exact Header.apart_shape
  · exact Body.apart_shape
  · exact Footer.apart_shape
  · exact ButtonSet.apart_shape
  · trivial

namespace Template

variable {ms : Members}

theorem locations_read (hnames : (Data.object ms).namesOnce = true) :
    (Template.read (.object ms)).locations =
      Shape.dueLocations (Template.shape.dues (.object ms)) := by
  rw [Reading.locations, Template.describes _ hnames]
  rfl

/-- What is left of an object after a round is an object. -/
theorem round_object (ms : Members) : ∃ left,
    (Data.object ms).eraseAll (Shape.dueLocations (Template.shape.dues (.object ms))) =
        .object left ∧
      Template.shape.dues (.object left) = Due.later (Template.shape.dues (.object ms)) := by
  obtain ⟨_, hfits, hdues⟩ := Shape.round apart_shape (d := .object ms) rfl
  revert hfits hdues
  cases (Data.object ms).eraseAll (Shape.dueLocations (Template.shape.dues (.object ms))) with
  | object left => exact fun _ hdues => ⟨left, rfl, hdues⟩
  | _ => exact nofun

/-- An object that is read without a fault has no misfit that would come to light later. -/
theorem dues_of_value {t : Template} (hnames : (Data.object ms).namesOnce = true)
    (h : Template.read (.object ms) = .value t) : Template.shape.dues (.object ms) = [] := by
  obtain ⟨left, hleft, hdues⟩ := round_object ms
  rw [← locations_read hnames, h, Reading.locations_value, Data.eraseAll_nil] at hleft
  cases hleft
  exact Due.eq_nil_of_later hdues.symm

/-- **Over all rounds everything that is due is reported**, and nothing else. -/
theorem reported_of_settles {t : Template} {rounds : Nat}
    (hnames : (Data.object ms).namesOnce = true)
    (h : Settles Template.read t rounds (.object ms)) :
    ∃ faults : List Fault, faults.Perm ((Template.shape.dues (.object ms)).map Prod.snd) ∧
      (readRepeatedly (rounds + 1) (.object ms)).2 = faults.map Fault.toIssue := by
  induction rounds generalizing ms with
  | zero =>
    have hread : Template.read (.object ms) = .value t := h
    refine ⟨[], by rw [dues_of_value hnames hread]; rfl, ?_⟩
    rw [readRepeatedly, hread]
    rfl
  | succ rounds ih =>
    obtain ⟨left, hleft, hdues⟩ := round_object ms
    rw [← locations_read hnames] at hleft
    have hnamesLeft : (Data.object left).namesOnce = true :=
      hleft ▸ Data.namesOnce_eraseAll hnames _
    obtain ⟨faults, hfaults, hissues⟩ := ih hnamesLeft (hleft ▸ h.2.2)
    refine ⟨Due.now (Template.shape.dues (.object ms)) ++ faults, ?_, ?_⟩
    · rw [hdues] at hfaults
      exact (hfaults.append_left _).trans (Due.perm_now_later _)
    · rw [issues_of_settles h, hleft, hissues, Template.describes _ hnames, List.map_append]

/-- What lenient reading reports are the misfits, in the order of the rounds. -/
theorem readLenient_misfits (hnames : (Data.object ms).namesOnce = true) :
    ∃ values : List Misfit, values.Perm (Template.shape.misfits (.object ms)) ∧
      readLenient (.object ms) =
        (some (Template.salvage ms), values.map fun v => v.fault.toIssue) := by
  have hsettles := Data.settles_object hnames
  obtain ⟨faults, hperm, hissues⟩ := reported_of_settles hnames hsettles
  have hfaults : (Template.shape.dues (.object ms)).map Prod.snd =
      (Template.shape.misfits (.object ms)).map Misfit.fault := by
    rw [Shape.dues, List.map_map]
    rfl
  rw [hfaults] at hperm
  -- The faults are in the order of the rounds, so that the misfits have to be put in it.
  have hcomp := congrFun (congrFun (List.eq_map_comp_perm Misfit.fault) faults)
    (Template.shape.misfits (.object ms))
  obtain ⟨values, rfl, hvalues⟩ := hcomp.mpr hperm
  obtain ⟨issues, hread, _⟩ := readRepeatedly_of_settles hsettles
  rw [hread, List.map_map] at hissues
  obtain rfl : issues = values.map (Fault.toIssue ∘ Misfit.fault) := hissues
  exact ⟨values, hvalues, hread⟩

/-- **Each value that does not fit is reported once**: the issues of lenient reading are those of the
values that are met and do not fit, one for each, in some order. -/
theorem each_misfit_reported_once (hnames : (Data.object ms).namesOnce = true) :
    ∃ values : List Misfit,
      (∀ v, v ∈ values ↔ Template.shape.Meets (.object ms) v) ∧
      (values.map Misfit.location).Nodup ∧
      (∀ v ∈ values, ∃ d, (Data.object ms).at? v.location = some d ∧
        ∃ s : Shape, s.blame? d = some v.mismatch) ∧
      Template.recover (.object ms) =
        if Data.deepestCopy < (Data.object ms).nesting then .error .tooDeep
        else .ok (some (Template.salvage ms), values.map fun v => v.fault.toIssue) := by
  obtain ⟨values, hvalues, hread⟩ := readLenient_misfits hnames
  have hmeets : ∀ v, v ∈ values ↔ Template.shape.Meets (.object ms) v := fun v => by
    rw [hvalues.mem_iff, Shape.mem_misfits_iff]
  refine ⟨values, hmeets, ?_, fun v hv => ((hmeets v).mp hv).given, ?_⟩
  · exact (hvalues.map _).nodup_iff.mpr (Shape.nodup_misfits apart_shape _)
  · rw [recover, hread]

/-- The number of a call comes to light when its other spelling is gone, and by then its button is
the first of the list. -/
theorem each_misfit_reported_once_misfitting :
    ∃ values : List Misfit,
      ⟨1, [.name "buttons", .name "items", .index 1, .name "phone_number"],
        [.name "buttons", .name "items", .index 0, .name "phone_number"], .noText⟩ ∈ values ∧
      (values.map Misfit.location).Nodup ∧
      Template.recover (.object Template.misfitting) =
        .ok (some (Template.salvage Template.misfitting),
          values.map fun v => v.fault.toIssue) := by
  have hnames : (Data.object Template.misfitting).namesOnce = true := by decide
  obtain ⟨values, hmeets, hnodup, _, hrecover⟩ := each_misfit_reported_once hnames
  refine ⟨values, (hmeets _).mpr (Shape.mem_misfits_iff.mp ?_), hnodup, ?_⟩
  · decide
  · rw [hrecover, if_neg (by decide)]

end Template

end MessageTemplate
