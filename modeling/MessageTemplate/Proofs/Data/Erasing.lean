import MessageTemplate.Proofs.Data.NamesOnce

/-!
# Taking parts of values away

* `Data.eraseAll_inMember` — what is taken away inside of a member changes no other member;
* `Data.eraseAll_inEntry` — what is taken away inside of an entry changes no other entry;
* `Data.erase?_member`, `Data.erase?_entry` — a member and an entry that are taken away themselves;
* `Data.ClearsEntries` — what taking parts away makes of the entries of a list, one after another.
-/

set_option autoImplicit false

namespace MessageTemplate.Data

theorem eraseAll_nil (d : Data) : d.eraseAll [] = d := rfl

theorem eraseAll_cons (d : Data) (loc : Location) (rest : List Location) :
    d.eraseAll (loc :: rest) = ((d.eraseAll rest).erase? loc).getD (d.eraseAll rest) := rfl

/-- The last locations are taken away first. -/
theorem eraseAll_append (d : Data) (first last : List Location) :
    d.eraseAll (first ++ last) = (d.eraseAll last).eraseAll first := List.foldr_append

theorem ne_nil_of_erase? {d : Data} {loc : Location} (h : (d.erase? loc).isSome = true) :
    loc ≠ [] := by
  rintro rfl
  cases h

theorem isNull_erase? {d rest : Data} {loc : Location} (h : d.erase? loc = some rest) :
    rest.isNull = d.isNull := by
  cases loc with
  | nil => cases h
  | cons k tail =>
    cases d with
    | object ms =>
      cases tail with
      | nil =>
        obtain ⟨name, _, rfl⟩ := Option.map_eq_some_iff.mp h
        rfl
      | cons k' tail =>
        obtain ⟨name, _, hname⟩ := Option.bind_eq_some_iff.mp h
        obtain ⟨part, _, hmap⟩ := Option.bind_eq_some_iff.mp hname
        obtain ⟨left, _, rfl⟩ := Option.map_eq_some_iff.mp hmap
        rfl
    | list items =>
      cases tail with
      | nil =>
        obtain ⟨i, _, rfl⟩ := Option.map_eq_some_iff.mp h
        rfl
      | cons k' tail =>
        obtain ⟨i, _, hi⟩ := Option.bind_eq_some_iff.mp h
        obtain ⟨part, _, hmap⟩ := Option.bind_eq_some_iff.mp hi
        obtain ⟨left, _, rfl⟩ := Option.map_eq_some_iff.mp hmap
        rfl
    | _ => cases tail <;> cases h

theorem isNull_eraseAll (d : Data) (locations : List Location) :
    (d.eraseAll locations).isNull = d.isNull := by
  induction locations with
  | nil => rfl
  | cons loc rest ih =>
    rw [eraseAll_cons]
    cases hloc : (d.eraseAll rest).erase? loc with
    | none => exact ih
    | some left => exact (isNull_erase? hloc).trans ih

/-! ## Members -/

variable {ms : Members} {s : String} {d : Data}

theorem erase?_member (h : ms.lookup s = some d) :
    (object ms).erase? [.name s] = some (object (ms.erase s)) := by
  rw [erase?, Members.resolve?_of_lookup h, Option.map_some]

theorem erase?_inMember (h : ms.lookup s = some d) {loc : Location} (hloc : loc ≠ []) :
    (object ms).erase? (.name s :: loc) =
      (d.erase? loc).map fun part => object (ms.set s part) := by
  obtain ⟨k, rest, rfl⟩ := List.exists_cons_of_ne_nil hloc
  rw [erase?]
  · rw [Members.resolve?_of_lookup h, Option.bind_some, h, Option.bind_some]
  · exact hloc

/-- **What is taken away inside of a member changes no other one.** -/
theorem eraseAll_inMember (h : ms.lookup s = some d) {locations : List Location}
    (hlocs : ∀ loc ∈ locations, loc ≠ []) :
    ∃ ms', (object ms).eraseAll (locations.map (Key.name s :: ·)) = object ms' ∧
      ∀ s', List.lookup s' ms' =
        if s' = s then some (d.eraseAll locations) else ms.lookup s' := by
  induction locations with
  | nil =>
    refine ⟨ms, rfl, ?_⟩
    intro s'
    by_cases hs : s' = s
    · rw [if_pos hs, hs, h]
      rfl
    · rw [if_neg hs]
  | cons loc rest ih =>
    obtain ⟨hloc, hrest⟩ := List.forall_mem_cons.mp hlocs
    obtain ⟨ms', hms', hlookup⟩ := ih hrest
    have hpart : List.lookup s ms' = some (d.eraseAll rest) := by rw [hlookup, if_pos rfl]
    rw [List.map_cons, eraseAll_cons, hms', erase?_inMember hpart hloc, eraseAll_cons]
    cases hleft : (d.eraseAll rest).erase? loc with
    | none => exact ⟨ms', rfl, hlookup⟩
    | some left =>
      refine ⟨Members.set ms' s left, rfl, ?_⟩
      intro s'
      rw [Members.lookup_set hpart, hlookup]
      by_cases hs : s' = s
      · rw [if_pos hs, if_pos hs]
        rfl
      · rw [if_neg hs, if_neg hs, if_neg hs]

/-! ## Entries -/

variable {before after : List Data}

theorem position?_length (before : List Data) (d : Data) (after : List Data) :
    position? (before ++ d :: after) (.index before.length) = some before.length := by
  have hpositive : (0 : Int) ≤ before.length := Int.natCast_nonneg _
  have hless : (before.length : Int) < (before ++ d :: after).length := by
    rw [List.length_append, List.length_cons]
    omega
  simp only [position?, hpositive, hless, decide_true, Bool.and_true, if_true, Int.toNat_natCast]

theorem erase?_entry :
    (list (before ++ d :: after)).erase? [.index before.length] =
      some (list (before ++ after)) := by
  rw [erase?, position?_length, Option.map_some, List.eraseIdx_append_of_length_le (Nat.le_refl _),
    Nat.sub_self, List.eraseIdx_cons_zero]

theorem erase?_inEntry {loc : Location} (hloc : loc ≠ []) :
    (list (before ++ d :: after)).erase? (.index before.length :: loc) =
      (d.erase? loc).map fun part => list (before ++ part :: after) := by
  obtain ⟨k, rest, rfl⟩ := List.exists_cons_of_ne_nil hloc
  rw [erase?]
  · have hset : ∀ part, (before ++ d :: after).set before.length part = before ++ part :: after := by
      intro part
      simp
    simp only [position?_length, Option.bind_some, List.getElem?_append_right (Nat.le_refl _),
      Nat.sub_self, List.getElem?_cons_zero, hset]
  · exact hloc

/-- **What is taken away inside of an entry changes no other one.** -/
theorem eraseAll_inEntry {locations : List Location} (hlocs : ∀ loc ∈ locations, loc ≠ []) :
    (list (before ++ d :: after)).eraseAll (locations.map (Key.index before.length :: ·)) =
      list (before ++ d.eraseAll locations :: after) := by
  induction locations with
  | nil => rfl
  | cons loc rest ih =>
    obtain ⟨hloc, hrest⟩ := List.forall_mem_cons.mp hlocs
    rw [List.map_cons, eraseAll_cons, ih hrest, erase?_inEntry hloc, eraseAll_cons]
    cases (d.eraseAll rest).erase? loc with
    | none => rfl
    | some left => rfl

/-- The locations stand in the entries of a list that are behind some others. To take them away
leaves `left` of these entries. -/
structure ClearsEntries (before items : List Data) (locations : List Location)
    (left : List Data) : Prop where
  stands : ∀ loc ∈ locations, ((list (before ++ items)).erase? loc).isSome = true
  leaves : (list (before ++ items)).eraseAll locations = list (before ++ left)

namespace ClearsEntries

variable {rest left : List Data} {locations : List Location}

theorem nil (before : List Data) : ClearsEntries before [] [] [] where
  stands := nofun
  leaves := rfl

/-- The entries behind one more entry, seen from the list that it belongs to. -/
theorem behind (h : ClearsEntries (before ++ [d]) rest locations left) :
    (∀ loc ∈ locations, ((list (before ++ d :: rest)).erase? loc).isSome = true) ∧
      (list (before ++ d :: rest)).eraseAll locations = list (before ++ d :: left) := by
  obtain ⟨hstands, hleaves⟩ := h
  rw [← List.append_cons] at hstands hleaves
  rw [← List.append_cons] at hleaves
  exact ⟨hstands, hleaves⟩

/-- An entry is taken away, and parts of those behind it. -/
theorem dropped (h : ClearsEntries (before ++ [d]) rest locations left) :
    ClearsEntries before (d :: rest) ([.index before.length] :: locations) left := by
  obtain ⟨hstands, hleaves⟩ := h.behind
  constructor
  · refine List.forall_mem_cons.mpr ⟨?_, hstands⟩
    rw [erase?_entry]
    rfl
  · rw [eraseAll_cons, hleaves, erase?_entry]
    rfl

/-- Parts of an entry are taken away, and of those behind it. -/
theorem kept {inside : List Location} (hinside : ∀ loc ∈ inside, (d.erase? loc).isSome = true)
    (h : ClearsEntries (before ++ [d]) rest locations left) :
    ClearsEntries before (d :: rest) (inside.map (.index before.length :: ·) ++ locations)
      (d.eraseAll inside :: left) := by
  obtain ⟨hstands, hleaves⟩ := h.behind
  have hnonempty : ∀ loc ∈ inside, loc ≠ [] := fun loc hloc => ne_nil_of_erase? (hinside loc hloc)
  constructor
  · intro loc hloc
    rcases List.mem_append.mp hloc with hfirst | hlater
    · obtain ⟨inner, hinner, rfl⟩ := List.mem_map.mp hfirst
      rw [erase?_inEntry (hnonempty inner hinner), Option.isSome_map]
      exact hinside inner hinner
    · exact hstands loc hlater
  · rw [eraseAll_append, hleaves, eraseAll_inEntry hnonempty]

end ClearsEntries

end MessageTemplate.Data
