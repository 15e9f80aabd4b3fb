import MessageTemplate.Proofs.Lenient.Rounds

/-!
# Rounds over the members of an object

* `Members.fitting?` — the value of the first of some names whose value fits;
* `Clears` — what taking parts away makes of the members of some names, whatever the others are;
* `Salvages` — a reader of members that only looks at some names and settles on what fits;
* `Salvages.field`, `Salvages.optional`, `Salvages.ap` — one member, and several next to each other;
* `Salvages.part` — the object that has these members.
-/

set_option autoImplicit false

namespace MessageTemplate

variable {α β : Type}

/-- The value of the first of the names whose value fits. -/
def Members.fitting? (ms : Members) (names : List String) (fit? : Data → Option α) : Option α :=
  names.findSome? fun name => (ms.lookup name).bind fit?

/-- Whether two objects have the same members of the given names. -/
def Members.AgreeOn (names : List String) (ms ms' : Members) : Prop :=
  ∀ s ∈ names, ms'.lookup s = ms.lookup s

/-- The locations stand in the members of some names. To take them away leaves of these members
what `after` says, and every other member as it is, whatever the others are. -/
structure Clears (names : List String) (ms : Members) (locations : List Location)
    (after : String → Option Data) : Prop where
  stands : ∀ ms', Members.AgreeOn names ms ms' →
    ∀ loc ∈ locations, ((Data.object ms').erase? loc).isSome = true
  leaves : ∀ ms', Members.AgreeOn names ms ms' →
    ∃ left, (Data.object ms').eraseAll locations = .object left ∧
      ∀ s, List.lookup s left = if s ∈ names then after s else ms'.lookup s

/-- Within the given number of rounds the members that are not null are read as `a`. Only the
members of the given names matter. -/
def FieldsSettle (names : List String) (read : Members → Reading α) (a : α) :
    Nat → Members → Prop
  | 0, ms => read ms.withoutNulls = .value a
  | rounds + 1, ms =>
    ((read ms.withoutNulls).faults = [] → read ms.withoutNulls = .value a) ∧
      ∃ after, Clears names ms (read ms.withoutNulls).locations after ∧
        ∀ ms' : Members, (Data.object ms').namesOnce = true →
          (∀ s ∈ names, ms'.lookup s = after s) → FieldsSettle names read a rounds ms'

/-- A reader of members that only looks at the given names, and for which `fit` says what it
settles on within the given number of rounds, for members each name of which is given once. -/
structure Salvages (rounds : Nat) (names : List String) (read : Members → Reading α)
    (fit : Members → α) : Prop where
  only : ∀ ms ms' : Members, Members.AgreeOn names ms ms' → read ms' = read ms
  settles : ∀ ms : Members, (Data.object ms).namesOnce = true →
    FieldsSettle names read (fit ms) rounds ms

/-! ## Taking parts of members away -/

theorem Clears.nil (names : List String) (ms : Members) :
    Clears names ms [] fun s => ms.lookup s where
  stands _ _ := nofun
  leaves ms' hagree := by
    refine ⟨ms', rfl, ?_⟩
    intro s
    split
    · rename_i hs
      exact hagree s hs
    · rfl

/-- Parts of members of different names do not get in each other's way. -/
theorem Clears.append {names others : List String} {ms : Members}
    {locations locations' : List Location} {after after' : String → Option Data}
    (h : Clears names ms locations after) (h' : Clears others ms locations' after')
    (hdisjoint : ∀ s ∈ names, s ∉ others) :
    Clears (names ++ others) ms (locations ++ locations')
      fun s => if s ∈ names then after s else after' s where
  stands ms' hagree loc hloc := by
    rcases List.mem_append.mp hloc with hfirst | hlast
    · exact h.stands ms' (fun s hs => hagree s (List.mem_append_left _ hs)) loc hfirst
    · exact h'.stands ms' (fun s hs => hagree s (List.mem_append_right _ hs)) loc hlast
  leaves ms' hagree := by
    obtain ⟨mid, hmid, hlookup⟩ :=
      h'.leaves ms' fun s hs => hagree s (List.mem_append_right _ hs)
    have hagreeMid : Members.AgreeOn names ms mid := by
      intro s hs
      rw [hlookup, if_neg (hdisjoint s hs)]
      exact hagree s (List.mem_append_left _ hs)
    obtain ⟨left, hleft, hlast⟩ := h.leaves mid hagreeMid
    refine ⟨left, by rw [Data.eraseAll_append, hmid, hleft], ?_⟩
    intro s
    rw [hlast, hlookup]
    simp only [List.mem_append]
    split_ifs <;> tauto

theorem Clears.member {ms : Members} {s : String} {d : Data} (h : ms.lookup s = some d) :
    Clears [s] ms [[.name s]] fun _ => none where
  stands ms' hagree loc hloc := by
    obtain rfl := List.mem_singleton.mp hloc
    have hd : ms'.lookup s = some d := (hagree s List.mem_cons_self).trans h
    rw [Data.erase?_member hd]
    rfl
  leaves ms' hagree := by
    have hd : ms'.lookup s = some d := (hagree s List.mem_cons_self).trans h
    refine ⟨ms'.erase s, ?_, ?_⟩
    · rw [Data.eraseAll_cons, Data.eraseAll_nil, Data.erase?_member hd]
      rfl
    · intro s'
      rw [Members.lookup_erase]
      simp only [List.mem_singleton]

theorem Clears.inMember {ms : Members} {s : String} {d : Data} (h : ms.lookup s = some d)
    {locations : List Location}
    (hstands : ∀ loc ∈ locations, (d.erase? loc).isSome = true) :
    Clears [s] ms (locations.map (Key.name s :: ·)) fun _ => some (d.eraseAll locations) := by
  have hnonempty : ∀ loc ∈ locations, loc ≠ [] :=
    fun loc hloc => Data.ne_nil_of_erase? (hstands loc hloc)
  constructor
  · intro ms' hagree loc hloc
    have hd : ms'.lookup s = some d := (hagree s List.mem_cons_self).trans h
    obtain ⟨inner, hinner, rfl⟩ := List.mem_map.mp hloc
    rw [Data.erase?_inMember hd (hnonempty inner hinner), Option.isSome_map]
    exact hstands inner hinner
  · intro ms' hagree
    have hd : ms'.lookup s = some d := (hagree s List.mem_cons_self).trans h
    obtain ⟨left, hleft, hlookup⟩ := Data.eraseAll_inMember hd hnonempty
    refine ⟨left, hleft, ?_⟩
    intro s'
    rw [hlookup]
    simp only [List.mem_singleton]

/-! ## Members next to each other -/

theorem Members.AgreeOn.withoutNulls {names : List String} {ms ms' : Members}
    (h : Members.AgreeOn names ms ms') (hnames : (Data.object ms).namesOnce = true)
    (hnames' : (Data.object ms').namesOnce = true) :
    Members.AgreeOn names ms.withoutNulls ms'.withoutNulls := by
  intro s hs
  rw [Members.lookup_withoutNulls (Data.namesOnce_object.mp hnames).1,
    Members.lookup_withoutNulls (Data.namesOnce_object.mp hnames').1, h s hs]

/-- What is read without a fault stays as it is, round after round. -/
theorem FieldsSettle.of_value {names : List String} {read : Members → Reading α} {a : α}
    (honly : ∀ ms ms', Members.AgreeOn names ms ms' → read ms' = read ms) {ms : Members}
    (hnames : (Data.object ms).namesOnce = true) (h : read ms.withoutNulls = .value a)
    (rounds : Nat) : FieldsSettle names read a rounds ms := by
  induction rounds generalizing ms with
  | zero => exact h
  | succ rounds ih =>
    refine ⟨fun _ => h, fun s => ms.lookup s, ?_, ?_⟩
    · rw [h]
      exact Clears.nil names ms
    · intro ms' hnames' hagree
      have hsame : read ms'.withoutNulls = read ms.withoutNulls :=
        honly _ _ (Members.AgreeOn.withoutNulls hagree hnames hnames')
      exact ih hnames' (hsame.trans h)

theorem Salvages.value (rounds : Nat) (a : α) :
    Salvages rounds [] (fun _ => Reading.value a) fun _ => a where
  only _ _ _ := rfl
  settles ms hnames := by
    apply FieldsSettle.of_value
    · exact fun _ _ _ => rfl
    · exact hnames
    · rfl

theorem Reading.locations_ap (f : Reading (α → β)) (r : Reading α) :
    (f.ap r).locations = f.locations ++ r.locations := by
  simp only [locations, faults_ap, List.map_append]

/-- **Members of different names settle next to each other.** -/
theorem FieldsSettle.ap {names others : List String} {readF : Members → Reading (α → β)}
    {read : Members → Reading α} {f : α → β} {a : α} (hdisjoint : ∀ s ∈ names, s ∉ others)
    {rounds : Nat} {ms : Members} (hf : FieldsSettle names readF f rounds ms)
    (ha : FieldsSettle others read a rounds ms) :
    FieldsSettle (names ++ others) (fun ms => (readF ms).ap (read ms)) (f a) rounds ms := by
  induction rounds generalizing ms with
  | zero =>
    show (readF ms.withoutNulls).ap (read ms.withoutNulls) = .value (f a)
    rw [show readF ms.withoutNulls = .value f from hf, show read ms.withoutNulls = .value a from ha]
    rfl
  | succ rounds ih =>
    obtain ⟨hvalueF, after, hclears, hnext⟩ := hf
    obtain ⟨hvalue, after', hclears', hnext'⟩ := ha
    refine ⟨?_, fun s => if s ∈ names then after s else after' s, ?_, ?_⟩
    · intro hnone
      rw [Reading.faults_ap] at hnone
      obtain ⟨hnoneF, hnoneA⟩ := List.append_eq_nil_iff.mp hnone
      show (readF ms.withoutNulls).ap (read ms.withoutNulls) = .value (f a)
      rw [hvalueF hnoneF, hvalue hnoneA]
      rfl
    · rw [Reading.locations_ap]
      exact hclears.append hclears' hdisjoint
    · intro ms' hnames hafter
      refine ih (hnext ms' hnames ?_) (hnext' ms' hnames ?_)
      · intro s hs
        exact (hafter s (List.mem_append_left _ hs)).trans (if_pos hs)
      · intro s hs
        exact (hafter s (List.mem_append_right _ hs)).trans (if_neg fun hs' => hdisjoint s hs' hs)

theorem Salvages.ap {rounds : Nat} {names others : List String}
    {readF : Members → Reading (α → β)} {read : Members → Reading α} {fitF : Members → α → β}
    {fit : Members → α} (hf : Salvages rounds names readF fitF) (ha : Salvages rounds others read fit)
    (hdisjoint : ∀ s ∈ names, s ∉ others := by decide) :
    Salvages rounds (names ++ others) (fun ms => (readF ms).ap (read ms))
      (fun ms => fitF ms (fit ms)) where
  only ms ms' hagree := by
    rw [hf.only ms ms' fun s hs => hagree s (List.mem_append_left _ hs),
      ha.only ms ms' fun s hs => hagree s (List.mem_append_right _ hs)]
  settles ms hnames := FieldsSettle.ap hdisjoint (hf.settles ms hnames) (ha.settles ms hnames)

/-! ## One member -/

section Field

variable {read : Data → Reading α} {default : α} {s : String} {names : List String}

theorem field_cons (ms : Members) :
    Read.field ms (s :: names) default read =
      match ms.lookup s with
      | some d => (read d).under (.name s)
      | none => Read.field ms names default read := by
  unfold Read.field Read.member?
  rw [List.findSome?_cons]
  cases ms.lookup s <;> rfl

theorem field_agree {ms ms' : Members} (h : Members.AgreeOn names ms ms') :
    Read.field ms' names default read = Read.field ms names default read := by
  induction names with
  | nil => rfl
  | cons s names ih =>
    rw [field_cons, field_cons, h s List.mem_cons_self,
      ih fun s' hs' => h s' (List.mem_cons_of_mem s hs')]

/-- A name that no member has, or a null one, makes no difference. -/
theorem FieldsSettle.skip {a : α} (hnew : s ∉ names) {rounds : Nat} {ms : Members}
    (hnames : (Data.object ms).namesOnce = true)
    (hs : (ms.lookup s).filter (fun d => !d.isNull) = none)
    (h : FieldsSettle names (fun ms => Read.field ms names default read) a rounds ms) :
    FieldsSettle (s :: names) (fun ms => Read.field ms (s :: names) default read) a rounds ms := by
  have hread : Read.field ms.withoutNulls (s :: names) default read =
      Read.field ms.withoutNulls names default read := by
    rw [field_cons, Members.lookup_withoutNulls (Data.namesOnce_object.mp hnames).1, hs]
  induction rounds generalizing ms with
  | zero => exact hread.trans h
  | succ rounds ih =>
    obtain ⟨hvalue, after, hclears, hnext⟩ := h
    have hdisjoint : ∀ s' ∈ [s], s' ∉ names := by
      intro s' hs'
      rw [List.mem_singleton.mp hs']
      exact hnew
    refine ⟨?_, fun s' => if s' ∈ [s] then ms.lookup s' else after s', ?_, ?_⟩
    · simp only [hread]
      exact hvalue
    · simp only [hread]
      exact (Clears.nil [s] ms).append hclears hdisjoint
    · intro ms' hnames' hafter
      have hs' : ms'.lookup s = ms.lookup s :=
        (hafter s List.mem_cons_self).trans (if_pos (List.mem_singleton.mpr rfl))
      refine ih hnames' (by rw [hs', hs]) (hnext ms' hnames' ?_) ?_
      · intro s'' hs''
        exact (hafter s'' (List.mem_cons_of_mem s hs'')).trans
          (if_neg fun h => hdisjoint s'' h hs'')
      · rw [field_cons, Members.lookup_withoutNulls (Data.namesOnce_object.mp hnames').1, hs', hs]

theorem field_visible {ms : Members} {d : Data} (hnames : (Data.object ms).namesOnce = true)
    (hs : ms.lookup s = some d) (hnull : d.isNull = false) :
    Read.field ms.withoutNulls (s :: names) default read = (read d).under (.name s) := by
  rw [field_cons, Members.lookup_withoutNulls (Data.namesOnce_object.mp hnames).1, hs,
    Option.filter_some, hnull]
  rfl

/-- A round that only concerns the member of the first name. -/
theorem FieldsSettle.round_first {a : α} (hnew : s ∉ names) {rounds : Nat} {ms : Members}
    {d : Data} {left : Option Data} (hnames : (Data.object ms).namesOnce = true)
    (hs : ms.lookup s = some d) (hnull : d.isNull = false)
    (hvalue : (read d).faults = [] → read d = .value a)
    (hclears : Clears [s] ms ((read d).locations.map (Key.name s :: ·)) fun _ => left)
    (hnext : ∀ ms' : Members, (Data.object ms').namesOnce = true → ms'.lookup s = left →
      Members.AgreeOn names ms ms' →
      FieldsSettle (s :: names) (fun ms => Read.field ms (s :: names) default read) a rounds ms') :
    FieldsSettle (s :: names) (fun ms => Read.field ms (s :: names) default read) a (rounds + 1)
      ms := by
  have hread : Read.field ms.withoutNulls (s :: names) default read = (read d).under (.name s) :=
    field_visible hnames hs hnull
  have hdisjoint : ∀ s' ∈ [s], s' ∉ names := fun s' hs' => (List.mem_singleton.mp hs').symm ▸ hnew
  refine ⟨?_, fun s' => if s' ∈ [s] then left else ms.lookup s', ?_, ?_⟩
  · simp only [hread, Reading.faults_under_eq_nil]
    intro hnone
    rw [hvalue hnone]
    rfl
  · simp only [hread, Reading.locations_under]
    have hboth := hclears.append (Clears.nil names ms) hdisjoint
    rwa [List.append_nil] at hboth
  · intro ms' hnames' hafter
    refine hnext ms' hnames' ?_ ?_
    · exact (hafter s List.mem_cons_self).trans (if_pos (List.mem_singleton.mpr rfl))
    · intro s' hs'
      exact (hafter s' (List.mem_cons_of_mem s hs')).trans (if_neg fun h => hdisjoint s' h hs')

/-- A member that settles is read as what it settles on. -/
theorem FieldsSettle.found {a : α} (hnew : s ∉ names) {rounds : Nat} {ms : Members} {d : Data}
    (hnames : (Data.object ms).namesOnce = true) (hs : ms.lookup s = some d)
    (hnull : d.isNull = false) (h : Settles read a rounds d) :
    FieldsSettle (s :: names) (fun ms => Read.field ms (s :: names) default read) a rounds ms := by
  induction rounds generalizing ms d with
  | zero =>
    refine (field_visible hnames hs hnull).trans ?_
    rw [show read d = .value a from h]
    rfl
  | succ rounds ih =>
    obtain ⟨hvalue, hstands, hrest⟩ := h
    refine FieldsSettle.round_first hnew hnames hs hnull hvalue (Clears.inMember hs hstands) ?_
    intro ms' hnames' hs' _
    have hnull' : (d.eraseAll (read d).locations).isNull = false := by
      rw [Data.isNull_eraseAll, hnull]
    exact ih hnames' hs' hnull' hrest

/-- A member that does not fit is taken away in the first round. -/
theorem FieldsSettle.misfit {a : α} (hnew : s ∉ names) {rounds : Nat} {ms : Members} {d : Data}
    {m : Mismatch} (hnames : (Data.object ms).namesOnce = true) (hs : ms.lookup s = some d)
    (hnull : d.isNull = false) (hd : read d = .mismatch m)
    (h : ∀ ms' : Members, (Data.object ms').namesOnce = true → Members.AgreeOn names ms ms' →
      FieldsSettle names (fun ms => Read.field ms names default read) a rounds ms') :
    FieldsSettle (s :: names) (fun ms => Read.field ms (s :: names) default read) a (rounds + 1)
      ms := by
  have hclears : Clears [s] ms ((read d).locations.map (Key.name s :: ·)) fun _ => none := by
    rw [hd]
    exact Clears.member hs
  refine FieldsSettle.round_first hnew hnames hs hnull ?_ hclears ?_
  · rw [hd]
    exact nofun
  · intro ms' hnames' hs' hagree
    exact FieldsSettle.skip hnew hnames' (by rw [hs']; rfl) (h ms' hnames' hagree)

theorem fitting?_cons (ms : Members) (fit? : Data → Option α) :
    ms.fitting? (s :: names) fit? = ((ms.lookup s).bind fit?).or (ms.fitting? names fit?) := by
  unfold Members.fitting?
  rw [List.findSome?_cons]
  cases (ms.lookup s).bind fit? <;> rfl

theorem fitting?_agree {ms ms' : Members} (fit? : Data → Option α)
    (h : Members.AgreeOn names ms ms') : ms'.fitting? names fit? = ms.fitting? names fit? := by
  induction names with
  | nil => rfl
  | cons s names ih =>
    rw [fitting?_cons, fitting?_cons, h s List.mem_cons_self,
      ih fun s' hs' => h s' (List.mem_cons_of_mem s hs')]

/-- **A member settles on the value of the first of its names whose value fits.** A name whose
value does not fit takes a round. -/
theorem Salvages.field {few rounds : Nat} {fit? : Data → Option α} (names : List String)
    (default : α) (h : Lenient few read fit?) (hnew : names.Nodup := by decide)
    (hlength : names.length ≤ rounds := by decide)
    (hfew : names.length + few ≤ rounds + 1 := by decide) :
    Salvages rounds names (fun ms => Read.field ms names default read)
      fun ms => (ms.fitting? names fit?).getD default where
  only _ _ hagree := field_agree hagree
  settles ms hnames := by
    induction names generalizing rounds ms with
    | nil =>
      apply FieldsSettle.of_value
      · exact fun _ _ => field_agree
      · exact hnames
      · rfl
    | cons s names ih =>
      rw [List.nodup_cons] at hnew
      rw [List.length_cons] at hlength hfew
      simp only [fitting?_cons]
      cases hs : (ms.lookup s).filter fun d => !d.isNull with
      | none =>
        -- No member of this name counts.
        have hnone : (ms.lookup s).bind fit? = none := by
          cases hd : ms.lookup s with
          | none => rfl
          | some d =>
            rw [hd, Option.filter_some] at hs
            cases d <;> first | exact h.null | cases hs
        rw [hnone, Option.none_or]
        exact FieldsSettle.skip hnew.1 hnames hs (ih hnew.2 (by omega) (by omega) ms hnames)
      | some d =>
        obtain ⟨hd, hnull⟩ := Option.filter_eq_some_iff.mp hs
        rw [Bool.not_eq_true'] at hnull
        rw [hd, Option.bind_some]
        cases hfit : fit? d with
        | some a =>
          have hsettles := h.settles d a (Data.namesOnce_lookup hnames hd) hfit
          exact FieldsSettle.found hnew.1 hnames hd hnull (hsettles.mono (by omega))
        | none =>
          obtain ⟨m, hm⟩ := h.misfit d hfit
          obtain ⟨rounds, rfl⟩ : ∃ n, rounds = n + 1 := ⟨rounds - 1, by omega⟩
          refine FieldsSettle.misfit hnew.1 hnames hd hnull hm ?_
          intro ms' hnames' hagree
          rw [Option.none_or, ← fitting?_agree fit? hagree]
          exact ih hnew.2 (by omega) (by omega) ms' hnames'

end Field

/-! ## Members that may be null -/

theorem isNull_of_lookup_withoutNulls {ms : Members} {s : String} {d : Data}
    (h : ms.withoutNulls.lookup s = some d) : d.isNull = false := by
  have hmem := Members.mem_of_lookup h
  cases d with
  | null => exact absurd (List.of_mem_filter hmem) (by simp)
  | _ => rfl

/-- Among the members that count there is no null to be read. -/
theorem field_optional (ms : Members) (names : List String) (read : Data → Reading α) :
    Read.field ms.withoutNulls names none (Read.optional read) =
      Read.field ms.withoutNulls names none fun d => (read d).map some := by
  induction names with
  | nil => rfl
  | cons s names ih =>
    rw [field_cons, field_cons, ih]
    cases hs : ms.withoutNulls.lookup s with
    | none => rfl
    | some d =>
      have hnull := isNull_of_lookup_withoutNulls hs
      cases d with
      | null => cases hnull
      | _ => rfl

theorem FieldsSettle.congr {names : List String} {read read' : Members → Reading α} {a : α}
    (hsame : ∀ ms : Members, read ms.withoutNulls = read' ms.withoutNulls) {rounds : Nat} {ms : Members}
    (h : FieldsSettle names read a rounds ms) : FieldsSettle names read' a rounds ms := by
  induction rounds generalizing ms with
  | zero => exact (hsame ms).symm.trans h
  | succ rounds ih =>
    rw [FieldsSettle, hsame] at h
    obtain ⟨hvalue, after, hclears, hnext⟩ := h
    exact ⟨hvalue, after, hclears, fun ms' hnames hafter => ih (hnext ms' hnames hafter)⟩

theorem fitting?_map (ms : Members) (names : List String) (fit? : Data → Option α) (f : α → β) :
    ms.fitting? names (fun d => (fit? d).map f) = (ms.fitting? names fit?).map f := by
  induction names with
  | nil => rfl
  | cons s names ih =>
    rw [fitting?_cons, fitting?_cons, ih]
    cases ms.lookup s with
    | none => rfl
    | some d => cases hfit : fit? d <;> simp [hfit]

theorem Salvages.fieldSome {few rounds : Nat} {read : Data → Reading α}
    {fit? : Data → Option α} (names : List String) (h : Lenient few read fit?)
    (hnew : names.Nodup := by decide) (hlength : names.length ≤ rounds := by decide)
    (hfew : names.length + few ≤ rounds + 1 := by decide) :
    Salvages rounds names (fun ms => Read.field ms names none fun d => (read d).map some)
      fun ms => ms.fitting? names fit? := by
  have hfield := Salvages.field names none (h.map some) hnew hlength hfew
  simp only [fitting?_map] at hfield
  have hsame : ∀ a : Option α, (a.map some).getD none = a := by
    intro a
    cases a <;> rfl
  simpa only [hsame] using hfield

theorem Salvages.optional {few rounds : Nat} {read : Data → Reading α}
    {fit? : Data → Option α} (names : List String) (h : Lenient few read fit?)
    (hnew : names.Nodup := by decide) (hlength : names.length ≤ rounds := by decide)
    (hfew : names.length + few ≤ rounds + 1 := by decide) :
    Salvages rounds names (fun ms => Read.field ms names none (Read.optional read))
      fun ms => ms.fitting? names fit? where
  only _ _ hagree := field_agree hagree
  settles ms hnames := by
    have hfield := (Salvages.fieldSome names h hnew hlength hfew).settles ms hnames
    exact hfield.congr fun ms => (field_optional ms names read).symm

/-! ## The whole object -/

/-- An object, by its members. -/
def Data.part? (fit : Members → α) : Data → Option α
  | .object ms => some (fit ms)
  | _ => none

theorem FieldsSettle.settles {names : List String} {read : Members → Reading α} {a : α}
    {rounds : Nat} {ms : Members} (hnames : (Data.object ms).namesOnce = true)
    (h : FieldsSettle names read a rounds ms) (complaint : Complaint) (name : String) :
    Settles (Read.part complaint name read) a rounds (.object ms) := by
  induction rounds generalizing ms with
  | zero => exact h
  | succ rounds ih =>
    obtain ⟨hvalue, after, hclears, hnext⟩ := h
    have hagree : Members.AgreeOn names ms ms := fun _ _ => rfl
    refine ⟨hvalue, hclears.stands ms hagree, ?_⟩
    obtain ⟨left, hleft, hlookup⟩ := hclears.leaves ms hagree
    have hnamesLeft : (Data.object left).namesOnce = true := by
      rw [← hleft]
      exact Data.namesOnce_eraseAll hnames _
    have hafter : ∀ s ∈ names, List.lookup s left = after s := by
      intro s hs
      rw [hlookup, if_pos hs]
    have hround : (Data.object ms).eraseAll
        (Read.part complaint name read (.object ms)).locations = .object left := hleft
    rw [hround]
    exact ih hnamesLeft (hnext left hnamesLeft hafter)

/-- **An object settles on what its members settle on.** -/
theorem Salvages.part {rounds : Nat} {names : List String} {read : Members → Reading α}
    {fit : Members → α} (h : Salvages rounds names read fit) (complaint : Complaint)
    (name : String) : Lenient rounds (Read.part complaint name read) (Data.part? fit) where
  null := rfl
  misfit d hnone := by
    cases d with
    | object ms => cases hnone
    | _ => exact ⟨complaint name, rfl⟩
  settles d a hnames hsome := by
    cases d with
    | object ms =>
      cases hsome
      exact (h.settles ms hnames).settles hnames complaint name
    | _ => cases hsome

end MessageTemplate
