import MessageTemplate.Proofs.Data.TakenOut

/-!
# Dropping parts of values

* `Marked.drop_outcome` — a part is dropped, or the location leads to none;
* `Marked.erase?_eq_drop` — to erase a part at once is to drop it and to strip what is left;
* `Marked.drop_exact` — a part goes exactly if the location leads to one, and nothing else goes.
-/

set_option autoImplicit false

namespace MessageTemplate

/-! ## Values with nothing taken away -/

namespace Marked

theorem ofItems_eq (items : List Data) : ofItems items = items.map fun d => some (ofData d) := by
  induction items with
  | nil => rfl
  | cons d rest ih => rw [ofItems, ih, List.map_cons]

theorem ofMembers_eq (ms : Members) : ofMembers ms = ms.map fun m => (m.1, ofData m.2) := by
  induction ms with
  | nil => rfl
  | cons m rest ih => rw [ofMembers, ih, List.map_cons]

theorem stripEntries_eq (entries : List (Option Marked)) :
    stripEntries entries = entries.filterMap (Option.map strip) := by
  induction entries with
  | nil => rfl
  | cons entry rest ih =>
    cases entry with
    | none => rw [stripEntries, ih, List.filterMap_cons, Option.map_none]
    | some d => rw [stripEntries, ih, List.filterMap_cons, Option.map_some]

theorem stripMembers_eq (ms : List (String × Marked)) :
    stripMembers ms = ms.map fun m => (m.1, m.2.strip) := by
  induction ms with
  | nil => rfl
  | cons m rest ih => rw [stripMembers, ih, List.map_cons]

mutual

/-- Nothing is taken away at first. -/
@[simp]
theorem strip_ofData : (d : Data) → (ofData d).strip = d
  | .null | .bool _ | .int _ | .float _ | .str _ => rfl
  | .list items => by rw [ofData, strip, stripEntries_ofItems]
  | .object ms => by rw [ofData, strip, stripMembers_ofMembers]

@[simp]
theorem stripEntries_ofItems : (items : List Data) → stripEntries (ofItems items) = items
  | [] => rfl
  | d :: rest => by rw [ofItems, stripEntries, strip_ofData, stripEntries_ofItems]

@[simp]
theorem stripMembers_ofMembers : (ms : Members) → stripMembers (ofMembers ms) = ms
  | [] => rfl
  | (name, d) :: rest => by rw [ofMembers, stripMembers, strip_ofData, stripMembers_ofMembers]

end

theorem stripEntries_append (front behind : List (Option Marked)) :
    stripEntries (front ++ behind) = stripEntries front ++ stripEntries behind := by
  rw [stripEntries_eq, stripEntries_eq, stripEntries_eq, List.filterMap_append]

theorem stripMembers_append (front behind : List (String × Marked)) :
    stripMembers (front ++ behind) = stripMembers front ++ stripMembers behind := by
  rw [stripMembers_eq, stripMembers_eq, stripMembers_eq, List.map_append]

theorem ofItems_append_cons (before : List Data) (d : Data) (after : List Data) :
    ofItems (before ++ d :: after) = ofItems before ++ some (ofData d) :: ofItems after := by
  rw [ofItems_eq, ofItems_eq, ofItems_eq, List.map_append, List.map_cons]

theorem ofMembers_append_cons (before : Members) (s : String) (d : Data) (after : Members) :
    ofMembers (before ++ (s, d) :: after) =
      ofMembers before ++ (s, ofData d) :: ofMembers after := by
  rw [ofMembers_eq, ofMembers_eq, ofMembers_eq, List.map_append, List.map_cons]

@[simp]
theorem length_ofItems (items : List Data) : (ofItems items).length = items.length := by
  rw [ofItems_eq, List.length_map]

@[simp]
theorem length_ofMembers (ms : Members) : (ofMembers ms).length = ms.length := by
  rw [ofMembers_eq, List.length_map]

theorem names_ofMembers (ms : Members) : (ofMembers ms).map Prod.fst = ms.map Prod.fst := by
  rw [ofMembers_eq, List.map_map]
  rfl

/-! ## One step -/

/-- The first member of a name, if there is one. -/
theorem findFinIdx?_name (ms : List (String × Marked)) (s : String) :
    match ms.findFinIdx? fun m => m.1 == s with
    | some i => (ms.get i).1 = s ∧ s ∉ (ms.map Prod.fst).take i
    | none => s ∉ ms.map Prod.fst := by
  split
  · rename_i i hi
    obtain ⟨hname, hfirst⟩ := List.findFinIdx?_eq_some_iff.mp hi
    refine ⟨beq_iff_eq.mp hname, fun hmem => ?_⟩
    rw [← List.map_take] at hmem
    obtain ⟨m, hm, hs⟩ := List.mem_map.mp hmem
    obtain ⟨j, hj, rfl⟩ := List.mem_take_iff_getElem.mp hm
    obtain ⟨hless, hbound⟩ := Nat.lt_min.mp hj
    exact hfirst ⟨j, hbound⟩ hless (beq_iff_eq.mpr hs)
  · rename_i hnone
    intro hmem
    obtain ⟨m, hm, hs⟩ := List.mem_map.mp hmem
    exact List.findFinIdx?_eq_none_iff.mp hnone m hm (beq_iff_eq.mpr hs)

/-- The member that a step names is the first one of the name that the step leads to. -/
theorem memberAt?_eq_some {ms : List (String × Marked)} {k : Key} {i : Fin ms.length}
    (h : memberAt? ms k = some i) :
    k.LeadsTo (ms.map Prod.fst) (ms.get i).1 ∧ (ms.get i).1 ∉ (ms.map Prod.fst).take i := by
  obtain ⟨tried, s, rest, hspellings, hs, htried⟩ := List.findSome?_eq_some_iff.mp h
  have hfound := findFinIdx?_name ms s
  rw [hs] at hfound
  obtain ⟨rfl, hfirst⟩ := hfound
  refine ⟨Key.leadsTo_of_spellings hspellings (List.mem_map_of_mem (List.getElem_mem i.isLt)) ?_,
    hfirst⟩
  intro t ht
  have hmissing := findFinIdx?_name ms t
  rwa [htried t ht] at hmissing

theorem not_leadsTo_of_memberAt? {ms : List (String × Marked)} {k : Key} (h : memberAt? ms k = none)
    (s : String) : ¬ k.LeadsTo (ms.map Prod.fst) s := by
  intro hs
  have hmissing := findFinIdx?_name ms s
  rw [List.findSome?_eq_none_iff.mp h s hs.mem_spellings] at hmissing
  exact hmissing hs.mem

/-- The members around the one that a step names. -/
theorem exists_split_of_memberAt? {ms : Members} {k : Key} {i : Fin (ofMembers ms).length}
    (h : memberAt? (ofMembers ms) k = some i) :
    ∃ before s d after, ms = before ++ (s, d) :: after ∧ i.val = before.length ∧
      k.LeadsTo (ms.map Prod.fst) s ∧ s ∉ before.map Prod.fst := by
  obtain ⟨hname, hfirst⟩ := memberAt?_eq_some h
  have hi : i.val < ms.length := by simpa using i.isLt
  have hget : (ofMembers ms).get i = (ms[i.val].1, ofData ms[i.val].2) := by
    simp [ofMembers_eq]
  rw [hget, names_ofMembers] at hname
  rw [hget, names_ofMembers, ← List.map_take] at hfirst
  refine ⟨ms.take i, ms[i.val].1, ms[i.val].2, ms.drop (i + 1), ?_, ?_, hname, hfirst⟩
  · rw [List.getElem_cons_drop, List.take_append_drop]
  · rw [List.length_take, Nat.min_eq_left (Nat.le_of_lt hi)]

/-- The entries around the one that a step names. -/
theorem exists_split_of_entryAt? {items : List Data} {k : Key}
    {i : Fin (ofItems items).length} (h : entryAt? (ofItems items) k = some i) :
    ∃ before d after, items = before ++ d :: after ∧ i.val = before.length ∧
      k = .index before.length := by
  cases k with
  | name s => cases h
  | index n =>
    simp only [entryAt?] at h
    split at h
    · rename_i hn
      obtain rfl := Option.some.inj h
      have hi : n.toNat < items.length := by simpa using hn.2
      have hlength : (items.take n.toNat).length = n.toNat := by
        rw [List.length_take, Nat.min_eq_left (Nat.le_of_lt hi)]
      refine ⟨items.take n.toNat, items[n.toNat], items.drop (n.toNat + 1), ?_, ?_, ?_⟩
      · rw [List.getElem_cons_drop, List.take_append_drop]
      · exact hlength.symm
      · rw [hlength, Int.toNat_of_nonneg hn.1]
    · cases h

/-! ## Dropping -/

theorem not_resolves_of_memberAt? {ms : Members} {k : Key} (h : memberAt? (ofMembers ms) k = none)
    (loc : Location) : ¬ (Data.object ms).Resolves (k :: loc) := by
  intro hresolves
  cases hresolves with
  | member hname _ _ => exact not_leadsTo_of_memberAt? h _ (names_ofMembers ms ▸ hname)

theorem not_resolves_of_entryAt? {items : List Data} {k : Key}
    (h : entryAt? (ofItems items) k = none) (loc : Location) :
    ¬ (Data.list items).Resolves (k :: loc) := by
  intro hresolves
  cases hresolves with
  | @entry _ i _ _ hd _ =>
    obtain ⟨hi, _⟩ := List.getElem?_eq_some_iff.mp hd
    simp [entryAt?, hi] at h

/-- What dropping can come to: the part is gone in the end, or there is none and nothing is
changed. -/
inductive Outcome (d : Data) (loc : Location) : Marked × Bool → Prop where
  | gone {part rest : Data} {left : Marked} (h : d.TakenOut loc part rest)
      (hleft : left.strip = rest) : Outcome d loc (left, true)
  | kept (h : ¬ d.Resolves loc) : Outcome d loc (ofData d, false)

theorem dropPart_outcome (d : Data) (k : Key) : Outcome d [k] ((ofData d).dropPart k) := by
  cases d with
  | list items =>
    rw [ofData, dropPart]
    cases h : entryAt? (ofItems items) k with
    | none => exact .kept (not_resolves_of_entryAt? h [])
    | some i =>
      obtain ⟨before, part, after, rfl, hi, rfl⟩ := exists_split_of_entryAt? h
      have hleft : (list ((ofItems (before ++ part :: after)).set i none)).strip =
          .list (before ++ after) := by
        rw [hi, ofItems_append_cons]
        simp [strip, stripEntries_append, stripEntries]
      exact .gone .entry hleft
  | object ms =>
    rw [ofData, dropPart]
    cases h : memberAt? (ofMembers ms) k with
    | none => exact .kept (not_resolves_of_memberAt? h [])
    | some i =>
      obtain ⟨before, s, part, after, rfl, hi, hname, hfirst⟩ := exists_split_of_memberAt? h
      have hleft : (object ((ofMembers (before ++ (s, part) :: after)).eraseIdx i)).strip =
          .object (before ++ after) := by
        rw [hi, ofMembers_append_cons, List.eraseIdx_append_of_length_le (by simp)]
        simp [strip, stripMembers_append]
      exact .gone (.member hname hfirst) hleft
  | _ => exact .kept nofun

/-- **A part at a location is dropped, or the location leads to none.** -/
theorem drop_outcome (d : Data) {loc : Location} (hloc : loc ≠ []) :
    Outcome d loc ((ofData d).drop loc) := by
  induction loc generalizing d with
  | nil => exact absurd rfl hloc
  | cons k loc ih =>
    cases loc with
    | nil => exact dropPart_outcome d k
    | cons next loc =>
      -- The part that the first step leads to is replaced by what the others leave of it.
      cases d with
      | list items =>
        rw [ofData, drop]
        cases h : entryAt? (ofItems items) k with
        | none => exact .kept (not_resolves_of_entryAt? h _)
        | some i =>
          obtain ⟨before, d, after, rfl, hi, rfl⟩ := exists_split_of_entryAt? h
          have hget : (ofItems (before ++ d :: after)).get i = some (ofData d) := by
            simp [ofItems_append_cons, hi]
          have hset : ∀ part, (ofItems (before ++ d :: after)).set i (some part) =
              ofItems before ++ some part :: ofItems after := by
            intro part
            simp [ofItems_append_cons, hi]
          simp only [hget, hset]
          have hpart := ih d (List.cons_ne_nil next loc)
          generalize (ofData d).drop (next :: loc) = result at hpart
          cases hpart with
          | gone h hleft =>
            exact .gone (.inEntry h) (by simp [strip, stripEntries_append, stripEntries, hleft])
          | kept hnone =>
            rw [← ofItems_append_cons]
            exact .kept fun hresolves => hnone hresolves.inEntry
      | object ms =>
        rw [ofData, drop]
        cases h : memberAt? (ofMembers ms) k with
        | none => exact .kept (not_resolves_of_memberAt? h _)
        | some i =>
          obtain ⟨before, s, d, after, rfl, hi, hname, hfirst⟩ := exists_split_of_memberAt? h
          have hget : (ofMembers (before ++ (s, d) :: after)).get i = (s, ofData d) := by
            simp [ofMembers_append_cons, hi]
          have hset : ∀ part, (ofMembers (before ++ (s, d) :: after)).set i (s, part) =
              ofMembers before ++ (s, part) :: ofMembers after := by
            intro part
            simp [ofMembers_append_cons, hi]
          simp only [hget, hset]
          have hpart := ih d (List.cons_ne_nil next loc)
          generalize (ofData d).drop (next :: loc) = result at hpart
          cases hpart with
          | gone h hleft =>
            exact .gone (.inMember hname hfirst h)
              (by simp [strip, stripMembers_append, stripMembers, hleft])
          | kept hnone =>
            rw [← ofMembers_append_cons]
            exact .kept fun hresolves => hnone (hresolves.inMember hname hfirst)
      | _ => exact .kept nofun

/-- **To erase a part at once is to drop it and to strip what is left.** -/
theorem erase?_eq_drop {d : Data} (hd : d.namesOnce = true) {loc : Location} (hloc : loc ≠ []) :
    d.erase? loc =
      if ((ofData d).drop loc).2 then some ((ofData d).drop loc).1.strip else none := by
  have houtcome := drop_outcome d hloc
  generalize (ofData d).drop loc = result at houtcome
  cases houtcome with
  | gone h hleft => rw [h.erase? hd, if_pos rfl, hleft]
  | kept h =>
    rw [if_neg Bool.false_ne_true, Option.eq_none_iff_forall_ne_some]
    exact fun rest hrest => h (Data.resolves_of_erase? hrest)

/-- **A part is dropped exactly if the location leads to one**, by names as they are or else with
underscores and by positions that are there. Otherwise the value is unchanged; and if the part is
dropped, then only this part is missing in the end. A value without the part is the one that is
left, unless it is nested too deeply. -/
theorem drop_exact (d : Data) (loc : Location) (hloc : loc ≠ []) :
    let (left, dropped) := (ofData d).drop loc
    (dropped = true ↔ d.Resolves loc) ∧
      (dropped = false → left = ofData d) ∧
      (dropped = true → ∃ part, d.TakenOut loc part left.strip) ∧
      d.without loc =
        if Data.deepestCopy < left.strip.nesting then .error .tooDeep
        else .ok (left.strip, dropped) := by
  have hwithout : d.without loc = _ := if_neg (by simpa using hloc)
  have houtcome := drop_outcome d hloc
  generalize (ofData d).drop loc = result at hwithout houtcome ⊢
  cases houtcome with
  | gone h hleft =>
    exact ⟨iff_of_true rfl h.resolves, nofun, fun _ => ⟨_, hleft ▸ h⟩, hwithout⟩
  | kept h => exact ⟨iff_of_false Bool.false_ne_true h, fun _ => rfl, nofun, hwithout⟩

/-- Two buttons, the first one with a member that is spelt with an underscore. -/
def twoButtons : Data :=
  .object
    [("name", .str "order_update"),
      ("buttons", .object
        [("items", .list
          [.object [("type", .str "PHONE_NUMBER"), ("phone_number", .int 1), ("text", .str "Call")],
            .str "Yes"])])]

/-- The first button can lose its number and the second one can leave the list; there is no third
one. -/
theorem drop_exact_twoButtons :
    (∃ part, twoButtons.TakenOut
      [.name "buttons", .name "items", .index 0, .name "phoneNumber"] part
      (.object
        [("name", .str "order_update"),
          ("buttons", .object
            [("items", .list
              [.object [("type", .str "PHONE_NUMBER"), ("text", .str "Call")], .str "Yes"])])])) ∧
    (∃ part, twoButtons.TakenOut [.name "buttons", .name "items", .index 1] part
      (.object
        [("name", .str "order_update"),
          ("buttons", .object
            [("items", .list
              [.object
                [("type", .str "PHONE_NUMBER"), ("phone_number", .int 1),
                  ("text", .str "Call")]])])])) ∧
    ¬ twoButtons.Resolves [.name "buttons", .name "items", .index 2] := by
  obtain ⟨_, _, hnumber, _⟩ := drop_exact twoButtons
    [.name "buttons", .name "items", .index 0, .name "phoneNumber"] (by decide)
  obtain ⟨_, _, hsecond, _⟩ := drop_exact twoButtons
    [.name "buttons", .name "items", .index 1] (by decide)
  obtain ⟨hthird, _⟩ := drop_exact twoButtons
    [.name "buttons", .name "items", .index 2] (by decide)
  refine ⟨hnumber rfl, hsecond rfl, ?_⟩
  rw [← hthird]
  exact Bool.false_ne_true

end Marked

end MessageTemplate
