import MessageTemplate.Proofs.Lenient.Salvage

/-!
# Members of a template apart from each other

* `Data.eraseAll_apart` — what taking values away leaves of a member depends on this member and on
  the locations inside of it;
* `ReadsApart` — the faults that a reader finds in some members depend on these members;
* `Template.issues_agree` — so do the issues in some members, over all rounds of lenient reading.

A fault in one member makes lenient reading read all of them again. The induction over the rounds
therefore compares two objects that agree on some members and may be at fault in all others.
-/

set_option autoImplicit false

namespace MessageTemplate

variable {α β : Type}

/-! ## Taking values away -/

/-- The name is not taken for another spelling when no member has it. -/
def IsPlain (s : String) : Prop := String.ofList (Text.snake s.toList) = s

instance (s : String) : Decidable (IsPlain s) := inferInstanceAs (Decidable (_ = _))

namespace Location

/-- Whether the location leads into a member of one of the names. -/
def isIn (names : List String) : Location → Bool
  | .name s :: _ => names.contains s
  | _ => false

/-- The way on inside of a member, if the location leads into it. -/
def within? (s : String) : Location → Option Location
  | .name s' :: rest => if s' = s then some rest else none
  | _ => none

theorem isIn_iff {names : List String} {loc : Location} :
    loc.isIn names = true ↔ ∃ s ∈ names, ∃ rest, loc = .name s :: rest := by
  constructor
  · intro h
    unfold isIn at h
    split at h
    · rename_i s rest
      exact ⟨s, List.contains_iff_mem.mp h, rest, rfl⟩
    · cases h
  · rintro ⟨s, hs, rest, rfl⟩
    exact List.contains_iff_mem.mpr hs

/-- The ways on inside of a member are found among the locations in some members with it. -/
theorem within?_filter {names : List String} {s : String} (hs : s ∈ names)
    (locations : List Location) :
    (locations.filter (isIn names)).filterMap (within? s) = locations.filterMap (within? s) := by
  rw [List.filterMap_filter]
  apply List.filterMap_congr
  intro loc _
  split_ifs with hin
  · rfl
  · unfold within?
    split
    · rw [if_neg]
      rintro rfl
      exact hin (isIn_iff.mpr ⟨_, hs, _, rfl⟩)
    · rfl

end Location

namespace Data

/-- What is left of a member without the value at a location inside of it, or without itself. -/
def leftOf (loc : Location) (d? : Option Data) : Option Data :=
  if loc.isEmpty then none else d?.map fun d => (d.erase? loc).getD d

theorem erase?_absent {ms : Members} {s : String} (hs : IsPlain s) (h : ms.lookup s = none)
    (loc : Location) : (object ms).erase? (.name s :: loc) = none := by
  have hhas : ms.has s = false := by
    rw [Members.has, List.any_eq_false]
    intro m hm hname
    have hne := bne_iff_ne.mp (List.lookup_eq_none_iff.mp h m hm)
    exact hne (beq_iff_eq.mp hname).symm
  have hresolve : ms.resolve? (.name s) = none := by
    unfold Members.resolve? Key.text
    simp only [show String.ofList (Text.snake s.toList) = s from hs, hhas, Bool.false_eq_true,
      if_false]
  cases loc with
  | nil => rw [erase?, hresolve, Option.map_none]
  | cons k rest =>
    rw [erase?]
    · rw [hresolve, Option.bind_none]
    · exact List.cons_ne_nil k rest

/-- Taking one value away changes the member that it is in, and no other. -/
theorem erase?_apart {s : String} (hs : IsPlain s) (ms : Members) (loc : Location) :
    ∃ left, ((object ms).erase? (.name s :: loc)).getD (object ms) = object left ∧
      ∀ s', List.lookup s' left =
        if s' = s then leftOf loc (ms.lookup s) else ms.lookup s' := by
  cases hd : ms.lookup s with
  | none =>
    refine ⟨ms, by rw [erase?_absent hs hd, Option.getD_none], fun s' => ?_⟩
    by_cases hs' : s' = s
    · rw [if_pos hs', hs', hd]
      unfold leftOf
      split <;> rfl
    · rw [if_neg hs']
  | some d =>
    cases loc with
    | nil =>
      refine ⟨ms.erase s, by rw [erase?_member hd, Option.getD_some], fun s' => ?_⟩
      exact Members.lookup_erase ms s s'
    | cons k rest =>
      have hinside := erase?_inMember hd (List.cons_ne_nil k rest)
      cases hleft : d.erase? (k :: rest) with
      | none =>
        refine ⟨ms, by rw [hinside, hleft]; rfl, fun s' => ?_⟩
        by_cases hs' : s' = s
        · rw [if_pos hs', hs', hd]
          simp [leftOf, hleft]
        · rw [if_neg hs']
      | some left =>
        refine ⟨ms.set s left, by rw [hinside, hleft]; rfl, fun s' => ?_⟩
        rw [Members.lookup_set hd]
        simp [leftOf, hleft]

/-- **Taking values away leaves of a member what the locations inside of it leave.** -/
theorem eraseAll_apart {names : List String} (hplain : ∀ s ∈ names, IsPlain s) (ms : Members)
    {locations : List Location} (hlocs : ∀ loc ∈ locations, loc.isIn names = true) :
    ∃ left, (object ms).eraseAll locations = object left ∧
      ∀ s, List.lookup s left =
        (locations.filterMap (Location.within? s)).foldr leftOf (ms.lookup s) := by
  induction locations with
  | nil => exact ⟨ms, rfl, fun _ => rfl⟩
  | cons loc rest ih =>
    obtain ⟨hloc, hrest⟩ := List.forall_mem_cons.mp hlocs
    obtain ⟨mid, hmid, hlookup⟩ := ih hrest
    obtain ⟨s, hs, inner, rfl⟩ := Location.isIn_iff.mp hloc
    obtain ⟨left, hleft, hlast⟩ := erase?_apart (hplain s hs) mid inner
    refine ⟨left, by rw [eraseAll_cons, hmid, hleft], fun s' => ?_⟩
    rw [hlast, List.filterMap_cons, hlookup, hlookup]
    by_cases hs' : s' = s
    · simp [Location.within?, hs']
    · simp [Location.within?, hs', Ne.symm hs']

end Data

/-- Objects that agree on some members still do after values are taken away, the same ones from
these members. -/
theorem Members.AgreeOn.eraseAll {names all : List String} (hplain : ∀ s ∈ all, IsPlain s)
    {ms ms' : Members} (h : Members.AgreeOn names ms ms') {locations locations' : List Location}
    (hlocs : ∀ loc ∈ locations, loc.isIn all = true)
    (hlocs' : ∀ loc ∈ locations', loc.isIn all = true)
    (hsame : locations'.filter (Location.isIn names) = locations.filter (Location.isIn names)) :
    ∃ left left', (Data.object ms).eraseAll locations = .object left ∧
      (Data.object ms').eraseAll locations' = .object left' ∧ Members.AgreeOn names left left' := by
  obtain ⟨left, hleft, hlookup⟩ := Data.eraseAll_apart hplain ms hlocs
  obtain ⟨left', hleft', hlookup'⟩ := Data.eraseAll_apart hplain ms' hlocs'
  refine ⟨left, left', hleft, hleft', fun s hs => ?_⟩
  rw [hlookup, hlookup', h s hs, ← Location.within?_filter hs, hsame, Location.within?_filter hs]

/-! ## Reading -/

/-- A reader of the members of the given names. The faults that it finds in some members depend on
these members. -/
structure ReadsApart (names : List String) (read : Members → Reading α) : Prop where
  inside : ∀ ms, ∀ f ∈ (read ms).faults, f.location.isIn names = true
  agree : ∀ (chosen : List String) (ms ms' : Members), Members.AgreeOn chosen ms ms' →
    (read ms').faults.filter (fun f => f.location.isIn chosen) =
      (read ms).faults.filter fun f => f.location.isIn chosen

theorem ReadsApart.value (a : α) : ReadsApart [] fun _ => Reading.value a where
  inside _ := nofun
  agree _ _ _ _ := rfl

theorem ReadsApart.ap {names others : List String} {readF : Members → Reading (α → β)}
    {read : Members → Reading α} (hf : ReadsApart names readF) (ha : ReadsApart others read) :
    ReadsApart (names ++ others) fun ms => (readF ms).ap (read ms) where
  inside ms f h := by
    rw [Reading.faults_ap] at h
    rw [Location.isIn_iff]
    rcases List.mem_append.mp h with hfirst | hlast
    · obtain ⟨s, hs, rest⟩ := Location.isIn_iff.mp (hf.inside ms f hfirst)
      exact ⟨s, List.mem_append_left _ hs, rest⟩
    · obtain ⟨s, hs, rest⟩ := Location.isIn_iff.mp (ha.inside ms f hlast)
      exact ⟨s, List.mem_append_right _ hs, rest⟩
  agree chosen ms ms' h := by
    rw [Reading.faults_ap, Reading.faults_ap, List.filter_append, List.filter_append,
      hf.agree chosen ms ms' h, ha.agree chosen ms ms' h]

/-- The faults of a member are found in it. -/
theorem field_inside {ms : Members} {s : String} {default : α} {read : Data → Reading α}
    {f : Fault} (h : f ∈ (Read.field ms [s] default read).faults) :
    ∃ rest, f.location = .name s :: rest := by
  rw [field_cons] at h
  cases hd : ms.lookup s with
  | none =>
    rw [hd] at h
    cases h
  | some d =>
    rw [hd] at h
    simp only at h
    cases hread : read d with
    | value a =>
      rw [hread] at h
      cases h
    | faulty faults =>
      rw [hread] at h
      obtain ⟨inner, _, rfl⟩ := List.mem_map.mp h
      exact ⟨inner.location, rfl⟩

theorem ReadsApart.field (s : String) (default : α) (read : Data → Reading α) :
    ReadsApart [s] fun ms => Read.field ms [s] default read where
  inside ms f h := Location.isIn_iff.mpr ⟨s, List.mem_cons_self, field_inside h⟩
  agree chosen ms ms' h := by
    by_cases hs : s ∈ chosen
    · have hsame : Members.AgreeOn [s] ms ms' := fun s' hs' => h s' (List.mem_singleton.mp hs' ▸ hs)
      rw [field_agree hsame]
    · have hnone : ∀ ms : Members,
          (Read.field ms [s] default read).faults.filter (fun f => f.location.isIn chosen) = [] := by
        intro ms
        refine List.filter_eq_nil_iff.mpr fun f hf => ?_
        obtain ⟨rest, hrest⟩ := field_inside hf
        rw [hrest]
        exact fun hin => hs (List.contains_iff_mem.mp hin)
      rw [hnone, hnone]

namespace Template

/-- The names of the members of a template, in the order in which they are read. -/
def memberNames : List String :=
  ["id", "name", "language", "category", "header", "body", "footer", "buttons"]

theorem readsApart (complaint : Complaint) : ReadsApart memberNames (readMembers complaint) := by
  have hmembers := ((((((((ReadsApart.value Template.mk).ap
    (.field "id" none (Read.optional fun d => (Read.text d).map Identifier.text))).ap
    (.field "name" "" Read.text)).ap
    (.field "language" "" Read.text)).ap
    (.field "category" "" Read.text)).ap
    (.field "header" none fun d => (Header.read complaint d).map some)).ap
    (.field "body" {} (Body.read complaint))).ap
    (.field "footer" none fun d => (Footer.read complaint d).map some)).ap
    (.field "buttons" none fun d => (ButtonSet.read complaint d).map some)
  exact hmembers

theorem isPlain_memberNames : ∀ s ∈ memberNames, IsPlain s := by decide +kernel

/-! ## Repeated reading -/

/-- The issues on a value that settles are those of its reading, and then those on what is left. -/
theorem issues_of_settles {t : Template} {rounds : Nat} {d : Data}
    (h : Settles Template.read t (rounds + 1) d) :
    (readRepeatedly (rounds + 2) d).2 = (Template.read d).faults.map Fault.toIssue ++
      (readRepeatedly (rounds + 1) (d.eraseAll (Template.read d).locations)).2 := by
  obtain ⟨hvalue, hstands, _⟩ := h
  cases hd : Template.read d with
  | value t' => simp [readRepeatedly, hd, Data.eraseAll_nil]
  | faulty faults =>
    rw [hd] at hvalue hstands
    cases faults with
    | nil => cases hvalue rfl
    | cons f later =>
      have hsome : d.erasesSome ((f :: later).map Fault.location) = true :=
        List.any_eq_true.mpr ⟨f.location, List.mem_cons_self, hstands _ List.mem_cons_self⟩
      rw [readRepeatedly, hd]
      simp only [hsome, if_true]
      rfl

/-- Issues that are owned only in some members are found among the faults in these members. -/
theorem owned_issues {names : List String} {owned : Issue → Bool} {faults : List Fault}
    (howned : ∀ f ∈ faults, owned f.toIssue = true → f.location.isIn names = true) :
    (faults.map Fault.toIssue).filter owned =
      ((faults.filter fun f => f.location.isIn names).map Fault.toIssue).filter owned := by
  rw [List.filter_map, List.filter_map, List.filter_filter]
  congr 1
  apply List.filter_congr
  intro f hf
  rw [Function.comp_apply]
  cases hown : owned f.toIssue with
  | false => rfl
  | true => rw [howned f hf hown, Bool.and_true]

/-- **The issues in some members depend on these members**, for objects that settle. -/
theorem issues_agree {names : List String} (owned : Issue → Bool)
    (howned : ∀ f : Fault, f.location.isIn memberNames = true → owned f.toIssue = true →
      f.location.isIn names = true) {t t' : Template} {rounds : Nat} {ms ms' : Members}
    (hnames : (Data.object ms).namesOnce = true) (hnames' : (Data.object ms').namesOnce = true)
    (hsettles : Settles Template.read t rounds (.object ms))
    (hsettles' : Settles Template.read t' rounds (.object ms'))
    (hagree : Members.AgreeOn names ms ms') :
    (readRepeatedly (rounds + 1) (.object ms')).2.filter owned =
      (readRepeatedly (rounds + 1) (.object ms)).2.filter owned := by
  induction rounds generalizing ms ms' with
  | zero =>
    rw [readRepeatedly, readRepeatedly, show Template.read (.object ms) = .value t from hsettles,
      show Template.read (.object ms') = .value t' from hsettles']
  | succ rounds ih =>
    have hapart := readsApart .noPart
    have hfaults := hapart.agree names _ _ (hagree.withoutNulls hnames hnames')
    have hinside : ∀ ms, ∀ f ∈ (Template.read (.object ms)).faults,
        f.location.isIn memberNames = true := fun ms => hapart.inside _
    have hfirst : ((Template.read (.object ms')).faults.map Fault.toIssue).filter owned =
        ((Template.read (.object ms)).faults.map Fault.toIssue).filter owned := by
      rw [owned_issues fun f hf => howned f (hinside ms' f hf),
        owned_issues fun f hf => howned f (hinside ms f hf)]
      exact congrArg (fun faults : List Fault => (faults.map Fault.toIssue).filter owned) hfaults
    have hlocations : (Template.read (.object ms')).locations.filter (Location.isIn names) =
        (Template.read (.object ms)).locations.filter (Location.isIn names) := by
      simp only [Reading.locations, List.filter_map]
      exact congrArg (List.map Fault.location) hfaults
    have hlocs : ∀ ms, ∀ loc ∈ (Template.read (.object ms)).locations,
        loc.isIn memberNames = true := fun ms => List.forall_mem_map.mpr (hinside ms)
    obtain ⟨left, left', hleft, hleft', hagreeLeft⟩ :=
      hagree.eraseAll isPlain_memberNames (hlocs ms) (hlocs ms') hlocations
    have hrest := ih (hleft ▸ Data.namesOnce_eraseAll hnames _)
      (hleft' ▸ Data.namesOnce_eraseAll hnames' _) (hleft ▸ hsettles.2.2)
      (hleft' ▸ hsettles'.2.2) hagreeLeft
    rw [issues_of_settles hsettles, issues_of_settles hsettles', hleft, hleft',
      List.filter_append, List.filter_append, hfirst, hrest]

end Template

end MessageTemplate
