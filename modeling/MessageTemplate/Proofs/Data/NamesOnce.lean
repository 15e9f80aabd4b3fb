import MessageTemplate.Json.Reader
import MessageTemplate.Template.Lenient
import Mathlib.Data.List.Nodup

/-!
# Objects that hold each name once

* `Data.namesOnce` — every object in a value holds each name once;
* `Members.lookup_named`, `Members.lookup_erase`, `Members.lookup_set`,
  `Members.lookup_withoutNulls` — what becomes of the members of such an object;
* `Data.namesOnce_eraseAll` — taking parts away keeps it so;
* `Json.namesOnce_document` — and it is so in every document.
-/

set_option autoImplicit false

namespace MessageTemplate

/-! ## Members -/

namespace Members

theorem mem_of_lookup {ms : Members} {s : String} {d : Data} (h : ms.lookup s = some d) :
    (s, d) ∈ ms := by
  induction ms with
  | nil => cases h
  | cons m rest ih =>
    obtain ⟨name, value⟩ := m
    rw [List.lookup_cons] at h
    by_cases hs : s = name
    · subst hs
      simp only [beq_self_eq_true] at h
      cases h
      exact List.mem_cons_self
    · rw [beq_eq_false_iff_ne.mpr hs] at h
      exact List.mem_cons_of_mem _ (ih h)

theorem has_of_lookup {ms : Members} {s : String} {d : Data} (h : ms.lookup s = some d) :
    ms.has s = true :=
  List.any_eq_true.mpr ⟨(s, d), mem_of_lookup h, beq_self_eq_true s⟩

theorem resolve?_of_lookup {ms : Members} {s : String} {d : Data} (h : ms.lookup s = some d) :
    ms.resolve? (.name s) = some s := by
  simp only [resolve?, has_of_lookup h, if_true]

/-- The members with a name of some kind. -/
def named (ms : Members) (p : String → Bool) : Members := ms.filter fun m => p m.1

theorem lookup_named (ms : Members) (p : String → Bool) (s : String) :
    (ms.named p).lookup s = if p s then ms.lookup s else none := by
  unfold named
  induction ms with
  | nil => simp
  | cons m rest ih =>
    obtain ⟨name, value⟩ := m
    rw [List.filter_cons, List.lookup_cons]
    by_cases hs : s = name
    · subst hs
      cases hp : p s with
      | true => simp
      | false => simpa [hp] using ih
    · have hne : (s == name) = false := beq_eq_false_iff_ne.mpr hs
      rw [hne]
      split
      · rw [List.lookup_cons, hne]
        exact ih
      · exact ih

theorem lookup_erase (ms : Members) (s s' : String) :
    (ms.erase s).lookup s' = if s' = s then none else ms.lookup s' := by
  have hnamed : ms.erase s = ms.named fun name => !(name == s) := rfl
  rw [hnamed, lookup_named]
  by_cases hs : s' = s
  · simp [hs]
  · simp [hs]

theorem name_ne_of_lookup_none {ms : Members} {s : String} (h : ms.lookup s = none)
    {m : String × Data} (hm : m ∈ ms) : m.1 ≠ s := by
  have hne := List.lookup_eq_none_iff.mp h m hm
  exact Ne.symm (bne_iff_ne.mp hne)

theorem erase_of_lookup_none {ms : Members} {s : String} (h : ms.lookup s = none) :
    ms.erase s = ms := by
  refine List.filter_eq_self.mpr fun m hm => ?_
  simpa using name_ne_of_lookup_none h hm

/-- Replacing the value of a member replaces no other. -/
theorem lookup_set {ms : Members} {s : String} {d : Data} (h : ms.lookup s = some d) (d' : Data)
    (s' : String) : (ms.set s d').lookup s' = if s' = s then some d' else ms.lookup s' := by
  have hreplace : ∀ rest : Members,
      (rest.map fun m => if m.1 == s then (s, d') else m).lookup s' =
        if s' = s then (rest.lookup s).map fun _ => d' else rest.lookup s' := by
    intro rest
    induction rest with
    | nil => simp
    | cons m rest ih =>
      obtain ⟨name, value⟩ := m
      rw [List.map_cons]
      by_cases hname : name = s
      · subst hname
        simp only [beq_self_eq_true, if_true, List.lookup_cons]
        by_cases hs : s' = name
        · subst hs
          simp
        · rw [if_neg hs, beq_eq_false_iff_ne.mpr hs]
          simp only [ih, if_neg hs]
      · have hne : (name == s) = false := beq_eq_false_iff_ne.mpr hname
        have hne' : (s == name) = false := beq_eq_false_iff_ne.mpr (Ne.symm hname)
        simp only [hne, Bool.false_eq_true, if_false, List.lookup_cons, hne']
        by_cases hs : s' = name
        · subst hs
          simp [hname]
        · rw [beq_eq_false_iff_ne.mpr hs]
          exact ih
  unfold set
  rw [if_pos (has_of_lookup h), hreplace, h]
  rfl

theorem withoutNulls_cons (m : String × Data) (rest : Members) :
    withoutNulls (m :: rest) = if m.2.isNull then rest.withoutNulls else m :: rest.withoutNulls := by
  obtain ⟨name, value⟩ := m
  cases value <;> rfl

/-- Without the members that are null, those with another value are left. -/
theorem lookup_withoutNulls {ms : Members} (hnames : (ms.map Prod.fst).Nodup) (s : String) :
    ms.withoutNulls.lookup s = (ms.lookup s).filter fun d => !d.isNull := by
  induction ms with
  | nil => rfl
  | cons m rest ih =>
    obtain ⟨name, value⟩ := m
    rw [List.map_cons, List.nodup_cons] at hnames
    have hrest := ih hnames.2
    rw [withoutNulls_cons, List.lookup_cons]
    by_cases hs : s = name
    · subst hs
      have hnone : rest.lookup s = none := by
        cases hlook : rest.lookup s with
        | none => rfl
        | some d =>
          exact absurd (List.mem_map.mpr ⟨(s, d), mem_of_lookup hlook, rfl⟩) hnames.1
      rw [hnone, Option.filter_none] at hrest
      simp only [beq_self_eq_true, Option.filter_some]
      cases hnull : value.isNull with
      | true => simpa only [if_true, Bool.not_true, Bool.false_eq_true, if_false] using hrest
      | false => simp
    · have hne : (s == name) = false := beq_eq_false_iff_ne.mpr hs
      rw [hne]
      cases hnull : value.isNull with
      | true => simpa [hnull] using hrest
      | false => simpa [hnull, List.lookup_cons, hne] using hrest

theorem withoutNulls_idem (ms : Members) : ms.withoutNulls.withoutNulls = ms.withoutNulls := by
  unfold withoutNulls
  rw [List.filter_filter]
  simp only [Bool.and_self]

theorem withoutNulls_named (ms : Members) (p : String → Bool) :
    (ms.named p).withoutNulls = ms.withoutNulls.named p := by
  unfold withoutNulls named
  rw [List.filter_filter, List.filter_filter]
  simp only [Bool.and_comm]

/-- Setting a member to the value that it has changes nothing, and a missing one becomes null. -/
theorem withoutNulls_set_lookup {ms : Members} (hnames : (ms.map Prod.fst).Nodup) (s : String) :
    (ms.set s ((ms.lookup s).getD .null)).withoutNulls = ms.withoutNulls := by
  cases hlookup : ms.lookup s with
  | none =>
    have habsent : ms.has s = false :=
      List.any_eq_false.mpr fun m hm => by simpa using name_ne_of_lookup_none hlookup hm
    rw [set, habsent]
    exact (List.filter_append ..).trans (List.append_nil _)
  | some d =>
    have hsame (m : String × Data) (hm : m ∈ ms) :
        (if m.1 == s then (s, d) else m) = m := by
      split
      · rename_i hname
        exact List.inj_on_of_nodup_map hnames (mem_of_lookup hlookup) hm
          (beq_iff_eq.mp hname).symm
      · rfl
    rw [set, has_of_lookup hlookup, if_pos rfl]
    exact congrArg withoutNulls ((List.map_congr_left hsame).trans (List.map_id' _))

/-- The names stay in place when a value is replaced, and a new name comes last. -/
theorem names_set (ms : Members) (s : String) (d : Data) :
    (ms.set s d).map Prod.fst =
      if ms.has s then ms.map Prod.fst else ms.map Prod.fst ++ [s] := by
  unfold set
  split
  · rw [List.map_map]
    apply List.map_congr_left
    rintro ⟨name, value⟩ _
    by_cases hname : name = s
    · simp [hname]
    · simp [hname]
  · rw [List.map_append]
    rfl

theorem nodup_set {ms : Members} (hnames : (ms.map Prod.fst).Nodup) (s : String) (d : Data) :
    ((ms.set s d).map Prod.fst).Nodup := by
  rw [names_set]
  split
  · exact hnames
  · rename_i hhas
    refine List.nodup_append.mpr ⟨hnames, by simp, ?_⟩
    intro name hname other hother
    rw [List.mem_singleton.mp hother]
    rintro rfl
    obtain ⟨m, hm, rfl⟩ := List.mem_map.mp hname
    exact hhas (List.any_eq_true.mpr ⟨m, hm, beq_self_eq_true m.1⟩)

theorem mem_set {ms : Members} {s : String} {d : Data} {m : String × Data} (h : m ∈ ms.set s d) :
    m = (s, d) ∨ m ∈ ms := by
  unfold set at h
  split at h
  · obtain ⟨m', hm', heq⟩ := List.mem_map.mp h
    split at heq
    · exact Or.inl heq.symm
    · exact Or.inr (heq ▸ hm')
  · rcases List.mem_append.mp h with hm | hm
    · exact Or.inr hm
    · exact Or.inl (List.mem_singleton.mp hm)

end Members

/-! ## Values -/

namespace Data

mutual

/-- Whether every object in a value holds each name once. -/
def namesOnce : Data → Bool
  | .list items => itemsNamesOnce items
  | .object ms => decide (ms.map Prod.fst).Nodup && membersNamesOnce ms
  | _ => true

/-- Whether every object in the entries of a list holds each name once. -/
def itemsNamesOnce : List Data → Bool
  | [] => true
  | d :: rest => d.namesOnce && itemsNamesOnce rest

/-- Whether every object in the members of an object holds each name once. -/
def membersNamesOnce : List (String × Data) → Bool
  | [] => true
  | (_, d) :: rest => d.namesOnce && membersNamesOnce rest

end

theorem namesOnce_list {items : List Data} :
    (list items).namesOnce = true ↔ ∀ d ∈ items, d.namesOnce = true := by
  rw [namesOnce]
  induction items with
  | nil => simp [itemsNamesOnce]
  | cons d rest ih => rw [itemsNamesOnce, Bool.and_eq_true, ih, List.forall_mem_cons]

theorem namesOnce_object {ms : Members} :
    (object ms).namesOnce = true ↔
      (ms.map Prod.fst).Nodup ∧ ∀ m ∈ ms, m.2.namesOnce = true := by
  have hmembers : ∀ ms : Members,
      membersNamesOnce ms = true ↔ ∀ m ∈ ms, m.2.namesOnce = true := by
    intro ms
    induction ms with
    | nil => simp [membersNamesOnce]
    | cons m rest ih =>
      obtain ⟨name, d⟩ := m
      rw [membersNamesOnce, Bool.and_eq_true, ih, List.forall_mem_cons]
  rw [namesOnce, Bool.and_eq_true, decide_eq_true_iff, hmembers]

theorem namesOnce_lookup {ms : Members} (h : (object ms).namesOnce = true) {s : String} {d : Data}
    (hd : ms.lookup s = some d) : d.namesOnce = true :=
  (namesOnce_object.mp h).2 (s, d) (Members.mem_of_lookup hd)

theorem namesOnce_erase {ms : Members} (h : (object ms).namesOnce = true) (s : String) :
    (object (ms.erase s)).namesOnce = true := by
  obtain ⟨hnames, hvalues⟩ := namesOnce_object.mp h
  have hsub : (ms.erase s).Sublist ms := List.filter_sublist
  exact namesOnce_object.mpr
    ⟨hnames.sublist (hsub.map Prod.fst), fun m hm => hvalues m (hsub.subset hm)⟩

theorem namesOnce_set {ms : Members} (h : (object ms).namesOnce = true) (s : String) {d : Data}
    (hd : d.namesOnce = true) : (object (ms.set s d)).namesOnce = true := by
  obtain ⟨hnames, hvalues⟩ := namesOnce_object.mp h
  refine namesOnce_object.mpr ⟨Members.nodup_set hnames s d, ?_⟩
  intro m hm
  rcases Members.mem_set hm with rfl | hold
  · exact hd
  · exact hvalues m hold

/-! ## Taking parts away -/

theorem namesOnce_erase? {d : Data} (h : d.namesOnce = true) {loc : Location} {rest : Data}
    (hrest : d.erase? loc = some rest) : rest.namesOnce = true := by
  induction loc generalizing d rest with
  | nil =>
    rw [erase?] at hrest
    cases hrest
  | cons k tail ih =>
    -- The last step takes a member or an entry away, every other one replaces one.
    cases d with
    | object ms =>
      cases tail with
      | nil =>
        obtain ⟨name, _, rfl⟩ := Option.map_eq_some_iff.mp hrest
        exact namesOnce_erase h name
      | cons k' tail =>
        obtain ⟨name, _, hname⟩ := Option.bind_eq_some_iff.mp hrest
        obtain ⟨part, hpart, hmap⟩ := Option.bind_eq_some_iff.mp hname
        obtain ⟨left, hleft, rfl⟩ := Option.map_eq_some_iff.mp hmap
        exact namesOnce_set h name (ih (namesOnce_lookup h hpart) hleft)
    | list items =>
      have hitems := namesOnce_list.mp h
      cases tail with
      | nil =>
        obtain ⟨i, _, rfl⟩ := Option.map_eq_some_iff.mp hrest
        exact namesOnce_list.mpr fun d hd => hitems d (List.mem_of_mem_eraseIdx hd)
      | cons k' tail =>
        obtain ⟨i, _, hi⟩ := Option.bind_eq_some_iff.mp hrest
        obtain ⟨part, hpart, hmap⟩ := Option.bind_eq_some_iff.mp hi
        obtain ⟨left, hleft, rfl⟩ := Option.map_eq_some_iff.mp hmap
        refine namesOnce_list.mpr fun d hd => ?_
        rcases List.mem_or_eq_of_mem_set hd with hold | rfl
        · exact hitems d hold
        · exact ih (hitems part (List.mem_of_getElem? hpart)) hleft
    | _ => cases tail <;> cases hrest

theorem namesOnce_eraseAll {d : Data} (h : d.namesOnce = true) (locations : List Location) :
    (d.eraseAll locations).namesOnce = true := by
  induction locations with
  | nil => exact h
  | cons loc rest ih =>
    show (((d.eraseAll rest).erase? loc).getD (d.eraseAll rest)).namesOnce = true
    cases hloc : (d.eraseAll rest).erase? loc with
    | none => exact ih
    | some left => exact namesOnce_erase? ih hloc

end Data

/-! ## Documents -/

namespace Json

theorem namesOnce_number {cs rest : List Char} {d : Data} (h : number cs = .ok (d, rest)) :
    d.namesOnce = true := by
  have hscalar : (∃ n, d = .int n) ∨ ∃ x, d = .float x := by
    unfold number blame at h
    simp only at h
    -- The sign makes no difference to the kind of the number.
    split at h
    all_goals
      simp only at h
      split at h
      · cases h
      · split at h
        · cases h
          exact Or.inr ⟨_, rfl⟩
        · split at h
          · split at h
            · cases h
              exact Or.inl ⟨_, rfl⟩
            · cases h
          · cases h
            exact Or.inr ⟨_, rfl⟩
  rcases hscalar with ⟨n, rfl⟩ | ⟨x, rfl⟩
  · rfl
  · rfl

theorem namesOnce_scalar {cs rest : List Char} {d : Data} (h : scalar cs = .ok (d, rest)) :
    d.namesOnce = true := by
  unfold scalar at h
  split at h
  · rename_i word d' hword
    cases h
    have hall : ∀ w ∈ words, w.2.namesOnce = true := by decide
    exact hall _ (List.mem_of_find?_eq_some hword)
  · exact namesOnce_number h

/-- What is read with some fuel holds each name once, whichever of the readers reads it. -/
theorem namesOnce_readers (fuel : Nat) :
    (∀ room cs d rest, value room fuel cs = .ok (d, rest) → d.namesOnce = true) ∧
    (∀ room acc cs d rest, (∀ d ∈ acc, d.namesOnce = true) →
      items room fuel acc cs = .ok (d, rest) → d.namesOnce = true) ∧
    (∀ room acc cs d rest, (Data.object acc).namesOnce = true →
      members room fuel acc cs = .ok (d, rest) → d.namesOnce = true) := by
  induction fuel with
  | zero =>
    refine ⟨?_, ?_, ?_⟩
    · intro room cs d rest h
      cases h
    · intro room acc cs d rest _ h
      cases h
    · intro room acc cs d rest _ h
      cases h
  | succ fuel ih =>
    obtain ⟨ihValue, ihItems, ihMembers⟩ := ih
    refine ⟨?_, ?_, ?_⟩
    · intro room cs d rest h
      rw [value.eq_def] at h
      simp only at h
      split at h
      · cases h
      · split at h
        · cases h
          rfl
        · cases h
      · cases h
      · cases h
      · split at h
        · cases h
          rfl
        · exact ihItems _ _ _ _ _ (List.forall_mem_nil _) h
      · split at h
        · cases h
          rfl
        · exact ihMembers _ _ _ _ _ rfl h
      · exact namesOnce_scalar h
    · intro room acc cs d rest hacc h
      rw [items.eq_def] at h
      simp only at h
      split at h
      · cases h
      · rename_i d' left hvalue
        have hall : ∀ d ∈ d' :: acc, d.namesOnce = true :=
          List.forall_mem_cons.mpr ⟨ihValue _ _ _ _ hvalue, hacc⟩
        split at h
        · cases h
          exact Data.namesOnce_list.mpr fun d hd => hall d (List.mem_reverse.mp hd)
        · exact ihItems _ _ _ _ _ hall h
        · cases h
    · intro room acc cs d rest hacc h
      rw [members.eq_def] at h
      simp only at h
      split at h
      · split at h
        · cases h
        · rename_i name left _
          split at h
          · split at h
            · cases h
            · rename_i d' left' hvalue
              have hset : (Data.object (Members.set acc name d')).namesOnce = true :=
                Data.namesOnce_set hacc name (ihValue _ _ _ _ hvalue)
              split at h
              · cases h
                exact hset
              · exact ihMembers _ _ _ _ _ hset h
              · cases h
          · cases h
      · cases h

/-- **In a document every object holds each name once**: of a name that is given twice the last
value counts. -/
theorem namesOnce_document {room : Nat} {cs : List Char} {d : Data}
    (h : document room cs = .ok d) : d.namesOnce = true := by
  unfold document at h
  split at h
  · cases h
  · rename_i d' rest hvalue
    split at h
    · cases h
      exact (namesOnce_readers _).1 _ _ _ _ hvalue
    · cases h

end Json

end MessageTemplate
