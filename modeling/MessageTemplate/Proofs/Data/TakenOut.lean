import MessageTemplate.Proofs.Data.Erasing

/-!
# Values without a part

* `Data.Resolves` — a location leads to a part of a value;
* `Data.TakenOut` — a value without the part that a location leads to, and nothing else changed;
* `Data.TakenOut.unique` — there is one such value;
* `Data.TakenOut.erase?`, `Data.resolves_of_erase?` — it is the one that is left when the part is
  erased, in a value whose objects hold each name once.
-/

set_option autoImplicit false

namespace MessageTemplate

/-- The name of the member of an object that a step leads to: the step's own text, or else its
spelling with underscores. -/
inductive Key.LeadsTo (names : List String) : Key → String → Prop where
  | itself {s : String} (h : s ∈ names) : LeadsTo names (.name s) s
  | respelt {k : Key} (h : k.snake ∈ names) (hother : ∀ s ∈ names, k ≠ .name s) :
      LeadsTo names k k.snake

namespace Key

variable {names : List String} {k : Key} {s : String}

theorem LeadsTo.mem (h : k.LeadsTo names s) : s ∈ names := by
  cases h with
  | itself h => exact h
  | respelt h _ => exact h

theorem LeadsTo.unique {s' : String} (h : k.LeadsTo names s) (h' : k.LeadsTo names s') :
    s = s' := by
  cases h with
  | itself h =>
    cases h' with
    | itself _ => rfl
    | respelt _ hother => exact absurd rfl (hother s h)
  | respelt _ hother =>
    cases h' with
    | itself h => exact absurd rfl (hother _ h)
    | respelt _ _ => rfl

theorem LeadsTo.mem_spellings (h : k.LeadsTo names s) : s ∈ k.spellings := by
  cases h with
  | itself _ => exact List.mem_cons_self
  | respelt _ _ => cases k <;> simp [spellings]

/-- A step leads to the first of its spellings that is a name. -/
theorem leadsTo_of_spellings {tried rest : List String} (h : k.spellings = tried ++ s :: rest)
    (hs : s ∈ names) (htried : ∀ t ∈ tried, t ∉ names) : k.LeadsTo names s := by
  cases tried with
  | nil =>
    cases k with
    | name t =>
      obtain ⟨rfl, _⟩ := List.cons.inj h
      exact .itself hs
    | index i =>
      obtain ⟨rfl, _⟩ := List.cons.inj h
      exact .respelt hs nofun
  | cons t tried =>
    cases k with
    | index i => simp [spellings] at h
    | name u =>
      obtain ⟨rfl, hsnake⟩ := List.cons.inj h
      rcases List.singleton_eq_append_iff.mp hsnake with ⟨_, hlast⟩ | ⟨_, hlast⟩
      · obtain ⟨rfl, _⟩ := List.cons.inj hlast
        refine .respelt hs ?_
        rintro _ ht ⟨rfl⟩
        exact htried u List.mem_cons_self ht
      · cases hlast

end Key

namespace Data

/-- A location leads to a part of a value: through members by their names, and through entries by
their positions. -/
inductive Resolves : Data → Location → Prop where
  | whole (d : Data) : Resolves d []
  | member {ms : Members} {k : Key} {s : String} {d : Data} {loc : Location}
      (hname : k.LeadsTo (ms.map Prod.fst) s) (hd : ms.lookup s = some d) (h : Resolves d loc) :
      Resolves (.object ms) (k :: loc)
  | entry {items : List Data} {i : Nat} {d : Data} {loc : Location}
      (hd : items[i]? = some d) (h : Resolves d loc) : Resolves (.list items) (.index i :: loc)

/-- A value, a location, the part that it leads to, and what is left without this part: the members
and entries before and after it, and before and after everything around it. -/
inductive TakenOut : Data → Location → Data → Data → Prop where
  | member {before after : Members} {k : Key} {s : String} {part : Data}
      (hname : k.LeadsTo ((before ++ (s, part) :: after).map Prod.fst) s)
      (hfirst : s ∉ before.map Prod.fst) :
      TakenOut (.object (before ++ (s, part) :: after)) [k] part (.object (before ++ after))
  | entry {before after : List Data} {part : Data} :
      TakenOut (.list (before ++ part :: after)) [.index before.length] part
        (.list (before ++ after))
  | inMember {before after : Members} {k : Key} {s : String} {d part rest : Data} {loc : Location}
      (hname : k.LeadsTo ((before ++ (s, d) :: after).map Prod.fst) s)
      (hfirst : s ∉ before.map Prod.fst) (h : TakenOut d loc part rest) :
      TakenOut (.object (before ++ (s, d) :: after)) (k :: loc) part
        (.object (before ++ (s, rest) :: after))
  | inEntry {before after : List Data} {d part rest : Data} {loc : Location}
      (h : TakenOut d loc part rest) :
      TakenOut (.list (before ++ d :: after)) (.index before.length :: loc) part
        (.list (before ++ rest :: after))

end Data

/-! ## What a location leads to -/

namespace Members

theorem lookup_split {before : Members} {s : String} (hfirst : s ∉ before.map Prod.fst) (d : Data)
    (after : Members) : List.lookup s (before ++ (s, d) :: after) = some d := by
  have hnone : List.lookup s before = none := by
    refine List.lookup_eq_none_iff.mpr fun m hm => bne_iff_ne.mpr ?_
    rintro rfl
    exact hfirst (List.mem_map_of_mem hm)
  rw [List.lookup_append, hnone, Option.none_or, List.lookup_cons_self]

end Members

namespace Data

variable {loc : Location} {k : Key} {s : String} {d : Data}

theorem getElem?_middle (before : List Data) (d : Data) (after : List Data) :
    (before ++ d :: after)[before.length]? = some d := by
  rw [List.getElem?_append_right (Nat.le_refl _), Nat.sub_self, List.getElem?_cons_zero]

theorem Resolves.inMember {before after : Members}
    (h : Resolves (.object (before ++ (s, d) :: after)) (k :: loc))
    (hname : k.LeadsTo ((before ++ (s, d) :: after).map Prod.fst) s)
    (hfirst : s ∉ before.map Prod.fst) : Resolves d loc := by
  cases h with
  | member hname' hd h =>
    obtain rfl := hname.unique hname'
    rw [Members.lookup_split hfirst] at hd
    obtain rfl := Option.some.inj hd
    exact h

theorem Resolves.inEntry {before after : List Data}
    (h : Resolves (.list (before ++ d :: after)) (.index before.length :: loc)) :
    Resolves d loc := by
  generalize hk : Key.index before.length = k at h
  cases h with
  | entry hd h =>
    obtain rfl := Int.ofNat_inj.mp (Key.index.inj hk)
    rw [getElem?_middle] at hd
    obtain rfl := Option.some.inj hd
    exact h

/-- What is taken out is where the location leads to. -/
theorem TakenOut.resolves {part rest : Data} (h : TakenOut d loc part rest) : Resolves d loc := by
  induction h with
  | member hname hfirst => exact .member hname (Members.lookup_split hfirst _ _) (.whole _)
  | entry => exact .entry (getElem?_middle ..) (.whole _)
  | inMember hname hfirst _ ih => exact .member hname (Members.lookup_split hfirst _ _) ih
  | inEntry _ ih => exact .entry (getElem?_middle ..) ih

end Data

/-! ## Only one value is left -/

theorem Members.split_inj {before before' after after' : Members} {s : String} {d d' : Data}
    (hfirst : s ∉ before.map Prod.fst) (hfirst' : s ∉ before'.map Prod.fst)
    (h : before ++ (s, d) :: after = before' ++ (s, d') :: after') :
    before = before' ∧ d = d' ∧ after = after' := by
  induction before generalizing before' with
  | nil =>
    cases before' with
    | nil =>
      cases h
      exact ⟨rfl, rfl, rfl⟩
    | cons m rest =>
      obtain ⟨rfl, _⟩ := List.cons.inj h
      exact absurd List.mem_cons_self hfirst'
  | cons m rest ih =>
    cases before' with
    | nil =>
      obtain ⟨rfl, _⟩ := List.cons.inj h
      exact absurd List.mem_cons_self hfirst
    | cons m' rest' =>
      obtain ⟨rfl, htail⟩ := List.cons.inj h
      obtain ⟨rfl, rfl, rfl⟩ := ih (List.not_mem_of_not_mem_cons hfirst)
        (List.not_mem_of_not_mem_cons hfirst') htail
      exact ⟨rfl, rfl, rfl⟩

namespace Data

variable {loc : Location} {d part rest : Data}

theorem TakenOut.ne_nil (h : TakenOut d loc part rest) : loc ≠ [] := by
  cases h <;> exact List.cons_ne_nil _ _

theorem TakenOut.object_inv {ms : Members} {k : Key}
    (h : TakenOut (.object ms) (k :: loc) part rest) :
    ∃ before s d after, ms = before ++ (s, d) :: after ∧ k.LeadsTo (ms.map Prod.fst) s ∧
      s ∉ before.map Prod.fst ∧
      (loc = [] ∧ part = d ∧ rest = .object (before ++ after) ∨
        ∃ left, TakenOut d loc part left ∧ rest = .object (before ++ (s, left) :: after)) := by
  cases h with
  | member hname hfirst => exact ⟨_, _, _, _, rfl, hname, hfirst, .inl ⟨rfl, rfl, rfl⟩⟩
  | inMember hname hfirst h => exact ⟨_, _, _, _, rfl, hname, hfirst, .inr ⟨_, h, rfl⟩⟩

theorem TakenOut.list_inv {items : List Data} {k : Key}
    (h : TakenOut (.list items) (k :: loc) part rest) :
    ∃ before d after, items = before ++ d :: after ∧ k = .index before.length ∧
      (loc = [] ∧ part = d ∧ rest = .list (before ++ after) ∨
        ∃ left, TakenOut d loc part left ∧ rest = .list (before ++ left :: after)) := by
  cases h with
  | entry => exact ⟨_, _, _, rfl, rfl, .inl ⟨rfl, rfl, rfl⟩⟩
  | inEntry h => exact ⟨_, _, _, rfl, rfl, .inr ⟨_, h, rfl⟩⟩

/-- One location leads to one part, and there is one value without it. -/
theorem TakenOut.unique {part' rest' : Data} (h : TakenOut d loc part rest)
    (h' : TakenOut d loc part' rest') : part = part' ∧ rest = rest' := by
  induction loc generalizing d rest rest' with
  | nil => exact absurd rfl h.ne_nil
  | cons k loc ih =>
    have hends : ∀ {d gone rest rest' : Data} {put : Data → Data},
        (loc = [] ∧ part = d ∧ rest = gone ∨ ∃ left, TakenOut d loc part left ∧ rest = put left) →
        (loc = [] ∧ part' = d ∧ rest' = gone ∨ ∃ left, TakenOut d loc part' left ∧ rest' = put left) →
        part = part' ∧ rest = rest' := by
      rintro d gone rest rest' put (⟨rfl, rfl, rfl⟩ | ⟨left, hleft, rfl⟩) hend'
      · rcases hend' with ⟨_, rfl, rfl⟩ | ⟨_, hleft', _⟩
        · exact ⟨rfl, rfl⟩
        · exact absurd rfl hleft'.ne_nil
      · rcases hend' with ⟨rfl, _, _⟩ | ⟨left', hleft', rfl⟩
        · exact absurd rfl hleft.ne_nil
        · obtain ⟨rfl, rfl⟩ := ih hleft hleft'
          exact ⟨rfl, rfl⟩
    cases d with
    | object ms =>
      obtain ⟨before, s, d, after, rfl, hname, hfirst, hend⟩ := h.object_inv
      obtain ⟨before', s', d', after', hms, hname', hfirst', hend'⟩ := h'.object_inv
      obtain rfl := hname.unique hname'
      obtain ⟨rfl, rfl, rfl⟩ := Members.split_inj hfirst hfirst' hms
      exact hends hend hend'
    | list items =>
      obtain ⟨before, d, after, rfl, rfl, hend⟩ := h.list_inv
      obtain ⟨before', d', after', hitems, hk, hend'⟩ := h'.list_inv
      obtain ⟨rfl, htail⟩ := List.append_inj hitems (Int.ofNat_inj.mp (Key.index.inj hk))
      obtain ⟨rfl, rfl⟩ := List.cons.inj htail
      exact hends hend hend'
    | _ => cases h

end Data

/-! ## Erasing at once -/

namespace Members

variable {ms before after : Members} {k : Key} {s : String} {d : Data}

theorem has_iff : ms.has s = true ↔ s ∈ ms.map Prod.fst := by
  simp [has]

theorem resolve?_eq_some_iff : ms.resolve? k = some s ↔ k.LeadsTo (ms.map Prod.fst) s := by
  constructor
  · intro h
    cases k with
    | name t =>
      simp only [resolve?] at h
      split at h
      · rename_i hself
        obtain rfl := Option.some.inj h
        exact .itself (has_iff.mp hself)
      · rename_i hself
        split at h
        · rename_i hsnake
          obtain rfl := Option.some.inj h
          refine .respelt (has_iff.mp hsnake) ?_
          rintro _ ht ⟨rfl⟩
          exact hself (has_iff.mpr ht)
        · cases h
    | index i =>
      simp only [resolve?] at h
      split at h
      · rename_i hsnake
        obtain rfl := Option.some.inj h
        refine .respelt (has_iff.mp hsnake) ?_
        rintro _ _ ⟨⟩
      · cases h
  · intro h
    cases h with
    | itself h => simp only [resolve?, has_iff.mpr h, if_true]
    | respelt h hother =>
      have hsnake : ms.has (String.ofList (Text.snake k.text.toList)) = true := has_iff.mpr h
      cases k with
      | name t =>
        have hself : ms.has t = false :=
          Bool.eq_false_iff.mpr fun hhas => hother t (has_iff.mp hhas) rfl
        simp only [resolve?, hself, hsnake, Bool.false_eq_true, if_false, if_true, Key.snake]
      | index i => simp only [resolve?, hsnake, if_true, Key.snake]

theorem name_ne_of_nodup (h : ((before ++ (s, d) :: after).map Prod.fst).Nodup) {m : String × Data}
    (hm : m ∈ before ++ after) : m.1 ≠ s := by
  rw [List.map_append, List.map_cons, List.nodup_middle, ← List.map_append, List.nodup_cons] at h
  intro hname
  exact h.1 (List.mem_map.mpr ⟨m, hm, hname⟩)

theorem erase_split (h : ((before ++ (s, d) :: after).map Prod.fst).Nodup) :
    erase (before ++ (s, d) :: after) s = before ++ after := by
  have hothers : (before ++ after).filter (fun m => !(m.1 == s)) = before ++ after :=
    List.filter_eq_self.mpr fun m hm => by simpa using name_ne_of_nodup h hm
  rw [List.filter_append] at hothers
  simp only [erase, List.filter_append, List.filter_cons, beq_self_eq_true, Bool.not_true,
    Bool.false_eq_true, if_false, hothers]

theorem set_split (h : ((before ++ (s, d) :: after).map Prod.fst).Nodup) (d' : Data) :
    set (before ++ (s, d) :: after) s d' = before ++ (s, d') :: after := by
  have hothers : ∀ m ∈ before ++ after, (if m.1 == s then (s, d') else m) = m :=
    fun m hm => if_neg (by simpa using name_ne_of_nodup h hm)
  obtain ⟨hbefore, hafter⟩ := List.forall_mem_append.mp hothers
  have hhas : has (before ++ (s, d) :: after) s = true := has_iff.mpr (by simp)
  rw [set, if_pos hhas, List.map_append, List.map_cons, List.map_congr_left hbefore,
    List.map_congr_left hafter]
  simp

end Members

namespace Data

theorem TakenOut.erase? {d part rest : Data} {loc : Location} (h : TakenOut d loc part rest)
    (hd : d.namesOnce = true) : d.erase? loc = some rest := by
  induction h with
  | member hname hfirst =>
    rw [Data.erase?, Members.resolve?_eq_some_iff.mpr hname, Option.map_some,
      Members.erase_split (namesOnce_object.mp hd).1]
  | entry => exact erase?_entry
  | @inMember before after k s d part rest loc hname hfirst h ih =>
    obtain ⟨hnames, hvalues⟩ := namesOnce_object.mp hd
    have hrest := ih (hvalues (s, d) (by simp))
    rw [Data.erase?]
    · simp only [Members.resolve?_eq_some_iff.mpr hname, Members.lookup_split hfirst,
        Option.bind_some, hrest, Option.map_some, Members.set_split hnames]
    · exact h.ne_nil
  | inEntry h ih =>
    rw [erase?_inEntry h.ne_nil, ih (namesOnce_list.mp hd _ (by simp)), Option.map_some]

theorem position?_eq_some_iff {items : List Data} {k : Key} {i : Nat} :
    position? items k = some i ↔ k = .index i ∧ i < items.length := by
  cases k with
  | name s => simp [position?]
  | index n =>
    simp only [position?, Bool.and_eq_true, decide_eq_true_eq, Option.ite_none_right_eq_some,
      Option.some.injEq, Key.index.injEq]
    omega

/-- What can be erased is what a location leads to. -/
theorem resolves_of_erase? {d rest : Data} {loc : Location} (h : d.erase? loc = some rest) :
    d.Resolves loc := by
  induction loc generalizing d rest with
  | nil => cases h
  | cons k loc ih =>
    cases d with
    | object ms =>
      cases loc with
      | nil =>
        obtain ⟨s, hs, _⟩ := Option.map_eq_some_iff.mp h
        have hname := Members.resolve?_eq_some_iff.mp hs
        obtain ⟨m, hm, rfl⟩ := List.mem_map.mp hname.mem
        cases hd : ms.lookup m.1 with
        | none => exact absurd rfl (Members.name_ne_of_lookup_none hd hm)
        | some d => exact .member hname hd (.whole d)
      | cons next loc =>
        obtain ⟨s, hs, hpart⟩ := Option.bind_eq_some_iff.mp h
        obtain ⟨part, hlookup, hleft⟩ := Option.bind_eq_some_iff.mp hpart
        obtain ⟨left, hleft, _⟩ := Option.map_eq_some_iff.mp hleft
        exact .member (Members.resolve?_eq_some_iff.mp hs) hlookup (ih hleft)
    | list items =>
      cases loc with
      | nil =>
        obtain ⟨i, hi, _⟩ := Option.map_eq_some_iff.mp h
        obtain ⟨rfl, hless⟩ := position?_eq_some_iff.mp hi
        exact .entry (List.getElem?_eq_getElem hless) (.whole _)
      | cons next loc =>
        obtain ⟨i, hi, hpart⟩ := Option.bind_eq_some_iff.mp h
        obtain ⟨part, hget, hleft⟩ := Option.bind_eq_some_iff.mp hpart
        obtain ⟨left, hleft, _⟩ := Option.map_eq_some_iff.mp hleft
        obtain ⟨rfl, _⟩ := position?_eq_some_iff.mp hi
        exact .entry hget (ih hleft)
    | _ => cases loc <;> cases h

end Data

end MessageTemplate
