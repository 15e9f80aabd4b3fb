import MessageTemplate.Proofs.Data.Erasing

/-!
# Rounds of reading and taking away

* `Settles` — what a value is read as once its faults have been taken away some number of times;
* `Lenient` — a reader that settles on everything that fits, and says where the rest does not;
* `Lenient.list` — a list settles on the entries that fit, in their order;
* `readRepeatedly_of_settles` — repeated reading comes to what a value settles on.
-/

set_option autoImplicit false

namespace MessageTemplate

variable {α β : Type}

/-- The locations of the faults of a reading. -/
def Reading.locations (r : Reading α) : List Location := r.faults.map Fault.location

/-- Within the given number of rounds a value is read as `a`: a round takes away what the faults
of a reading point at. Every fault points at something that can be taken away. -/
def Settles (read : Data → Reading α) (a : α) : Nat → Data → Prop
  | 0, d => read d = .value a
  | rounds + 1, d =>
    ((read d).faults = [] → read d = .value a) ∧
      (∀ loc ∈ (read d).locations, (d.erase? loc).isSome = true) ∧
      Settles read a rounds (d.eraseAll (read d).locations)

/-- A reader for which `fit?` says what fits and as what: the rest is blamed as a whole, and what
fits settles within the given number of rounds. Null does not fit. -/
structure Lenient (rounds : Nat) (read : Data → Reading α) (fit? : Data → Option α) : Prop where
  null : fit? .null = none
  misfit : ∀ d, fit? d = none → ∃ m, read d = .mismatch m
  settles : ∀ d a, d.namesOnce = true → fit? d = some a → Settles read a rounds d

/-! ## One value -/

@[simp] theorem Reading.locations_value (a : α) : (Reading.value a).locations = [] := rfl

theorem Reading.faults_map (f : α → β) (r : Reading α) : (r.map f).faults = r.faults := by
  cases r <;> rfl

theorem Reading.faults_under_eq_nil {k : Key} {r : Reading α} :
    (r.under k).faults = [] ↔ r.faults = [] := by
  cases r with
  | value a => rfl
  | faulty fs => exact List.map_eq_nil_iff

theorem Reading.locations_under (k : Key) (r : Reading α) :
    (r.under k).locations = r.locations.map (k :: ·) := by
  cases r with
  | value a => rfl
  | faulty fs =>
    simp only [locations, under, faults_faulty, List.map_map]
    rfl

/-- What is read without a fault stays as it is, round after round. -/
theorem Settles.of_value {read : Data → Reading α} {a : α} {d : Data} (h : read d = .value a)
    (rounds : Nat) : Settles read a rounds d := by
  induction rounds with
  | zero => exact h
  | succ rounds ih =>
    refine ⟨fun _ => h, ?_, ?_⟩
    · rw [h]
      exact nofun
    · rw [h]
      exact ih

theorem Settles.mono {read : Data → Reading α} {a : α} {few many : Nat} (hle : few ≤ many)
    {d : Data} (h : Settles read a few d) : Settles read a many d := by
  induction few generalizing many d with
  | zero => exact Settles.of_value h many
  | succ few ih =>
    obtain ⟨many, rfl⟩ : ∃ n, many = n + 1 := ⟨many - 1, by omega⟩
    obtain ⟨hvalue, herase, hrest⟩ := h
    exact ⟨hvalue, herase, ih (by omega) hrest⟩

theorem Settles.map {read : Data → Reading α} {a : α} {rounds : Nat} {d : Data}
    (h : Settles read a rounds d) (f : α → β) :
    Settles (fun d => (read d).map f) (f a) rounds d := by
  induction rounds generalizing d with
  | zero =>
    show (read d).map f = .value (f a)
    rw [show read d = .value a from h]
    rfl
  | succ rounds ih =>
    obtain ⟨hvalue, herase, hrest⟩ := h
    have hlocations : ((read d).map f).locations = (read d).locations := by
      rw [Reading.locations, Reading.faults_map, Reading.locations]
    refine ⟨?_, ?_, ?_⟩
    · intro hnone
      rw [Reading.faults_map] at hnone
      show (read d).map f = .value (f a)
      rw [hvalue hnone]
      rfl
    · rw [hlocations]
      exact herase
    · rw [hlocations]
      exact ih hrest

theorem Lenient.map {rounds : Nat} {read : Data → Reading α} {fit? : Data → Option α}
    (h : Lenient rounds read fit?) (f : α → β) :
    Lenient rounds (fun d => (read d).map f) (fun d => (fit? d).map f) where
  null := by rw [h.null, Option.map_none]
  misfit d hnone := by
    obtain ⟨m, hm⟩ := h.misfit d (Option.map_eq_none_iff.mp hnone)
    exact ⟨m, by rw [hm]; rfl⟩
  settles d b hnames hsome := by
    obtain ⟨a, ha, rfl⟩ := Option.map_eq_some_iff.mp hsome
    exact (h.settles d a hnames ha).map f

/-! ## Lists -/

/-- The entries of a list that stay are read as the given values, within the given number of
rounds; the others are blamed as a whole, and take a round. -/
inductive Entries (read : Data → Reading α) (rounds : Nat) : List Data → List α → Prop where
  | nil : Entries read rounds [] []
  | dropped {d : Data} {rest : List Data} {as : List α} {m : Mismatch}
      (hread : read d = .mismatch m) (hround : 0 < rounds) (hrest : Entries read rounds rest as) :
      Entries read rounds (d :: rest) as
  | kept {d : Data} {rest : List Data} {a : α} {as : List α} (hread : Settles read a rounds d)
      (hrest : Entries read rounds rest as) : Entries read rounds (d :: rest) (a :: as)

theorem Entries.of_lenient {few rounds : Nat} {read : Data → Reading α} {fit? : Data → Option α}
    (h : Lenient few read fit?) (hfew : few ≤ rounds) (hround : 0 < rounds) {items : List Data}
    (hnames : ∀ d ∈ items, d.namesOnce = true) :
    Entries read rounds items (items.filterMap fit?) := by
  induction items with
  | nil => exact .nil
  | cons d rest ih =>
    obtain ⟨hd, hrest⟩ := List.forall_mem_cons.mp hnames
    cases hfit : fit? d with
    | none =>
      obtain ⟨m, hm⟩ := h.misfit d hfit
      rw [List.filterMap_cons_none hfit]
      exact .dropped hm hround (ih hrest)
    | some a =>
      rw [List.filterMap_cons_some hfit]
      exact .kept ((h.settles d a hd hfit).mono hfew) (ih hrest)

theorem Entries.read_zero {read : Data → Reading α} {items : List Data} {as : List α}
    (h : Entries read 0 items as) (i : Nat) : Reading.entriesFrom read i items = .value as := by
  induction h generalizing i with
  | nil => rfl
  | dropped _ hround _ => exact absurd hround (Nat.lt_irrefl 0)
  | @kept d rest a as hread _ ih =>
    rw [Reading.entriesFrom, show read d = .value a from hread, ih]
    rfl

theorem entriesFrom_locations (read : Data → Reading α) (i : Nat) (d : Data) (rest : List Data) :
    (Reading.entriesFrom read i (d :: rest)).locations =
      (read d).locations.map (Key.index i :: ·) ++
        (Reading.entriesFrom read (i + 1) rest).locations := by
  rw [Reading.entriesFrom, ← Reading.locations_under]
  simp only [Reading.locations, Reading.faults_ap, Reading.faults_value, List.nil_append,
    List.map_append]

/-- What a round does to the entries of a list that stand behind some others: it leaves `left` of
them, and if it takes nothing away they are read as `as`. -/
structure ListRound (read : Data → Reading α) (before items : List Data) (as : List α)
    (left : List Data) : Prop where
  value : (Reading.entriesFrom read before.length items).faults = [] →
    Reading.entriesFrom read before.length items = .value as
  clears : Data.ClearsEntries before items
    (Reading.entriesFrom read before.length items).locations left

section ListRound

variable {read : Data → Reading α} {before rest left : List Data} {d : Data} {a : α} {as : List α}

theorem ListRound.behind (h : ListRound read (before ++ [d]) rest as left) :
    ((Reading.entriesFrom read (before.length + 1) rest).faults = [] →
        Reading.entriesFrom read (before.length + 1) rest = .value as) ∧
      Data.ClearsEntries (before ++ [d]) rest
        (Reading.entriesFrom read (before.length + 1) rest).locations left := by
  obtain ⟨hvalue, hclears⟩ := h
  rw [List.length_append, List.length_singleton] at hvalue hclears
  exact ⟨hvalue, hclears⟩

/-- An entry that is blamed as a whole is gone after a round. -/
theorem ListRound.dropped {m : Mismatch} (hread : read d = .mismatch m)
    (h : ListRound read (before ++ [d]) rest as left) :
    ListRound read before (d :: rest) as left := by
  obtain ⟨_, hclears⟩ := h.behind
  constructor
  · intro hnone
    rw [Reading.entriesFrom, Reading.faults_ap, Reading.faults_ap, hread] at hnone
    simp [Reading.mismatch, Reading.under] at hnone
  · rw [entriesFrom_locations, hread]
    exact hclears.dropped

/-- An entry that settles has gone one round further after a round. -/
theorem ListRound.kept (hvalue : (read d).faults = [] → read d = .value a)
    (hinside : ∀ loc ∈ (read d).locations, (d.erase? loc).isSome = true)
    (h : ListRound read (before ++ [d]) rest as left) :
    ListRound read before (d :: rest) (a :: as) (d.eraseAll (read d).locations :: left) := by
  obtain ⟨hvalues, hclears⟩ := h.behind
  constructor
  · intro hnone
    rw [Reading.entriesFrom, Reading.faults_ap, Reading.faults_ap] at hnone
    obtain ⟨hfirst, hlater⟩ := List.append_eq_nil_iff.mp hnone
    rw [Reading.entriesFrom, hvalue (Reading.faults_under_eq_nil.mp hfirst), hvalues hlater]
    rfl
  · rw [entriesFrom_locations]
    exact hclears.kept hinside

end ListRound

/-- **A round over a list** takes away the entries that are blamed as a whole, goes one round
inside each of the others and leaves what stands before them. -/
theorem Entries.round {read : Data → Reading α} {rounds : Nat} {items : List Data} {as : List α}
    (h : Entries read (rounds + 1) items as) (before : List Data) :
    ∃ left, ListRound read before items as left ∧ Entries read rounds left as := by
  induction h generalizing before with
  | nil => exact ⟨[], ⟨fun _ => rfl, .nil before⟩, .nil⟩
  | @dropped d rest as m hread hround hrest ih =>
    obtain ⟨left, hleft, hentries⟩ := ih (before ++ [d])
    exact ⟨left, hleft.dropped hread, hentries⟩
  | @kept d rest a as hread hrest ih =>
    obtain ⟨left, hleft, hentries⟩ := ih (before ++ [d])
    obtain ⟨hvalue, hinside, hsettles⟩ := hread
    exact ⟨_, hleft.kept hvalue hinside, .kept hsettles hentries⟩

theorem Entries.settles {read : Data → Reading α} {rounds : Nat} {items : List Data}
    {as : List α} (h : Entries read rounds items as) :
    Settles (Read.list read) as rounds (.list items) := by
  induction rounds generalizing items with
  | zero => exact h.read_zero 0
  | succ rounds ih =>
    obtain ⟨left, ⟨hvalue, hstands, hleaves⟩, hentries⟩ := h.round []
    have hround : (Data.list items).eraseAll (Read.list read (.list items)).locations =
        .list left := hleaves
    refine ⟨hvalue, hstands, ?_⟩
    rw [hround]
    exact ih hentries

/-- The entries of a list that fit, in their order. -/
def Data.list? (fit? : Data → Option α) : Data → Option (List α)
  | .list items => some (items.filterMap fit?)
  | _ => none

/-- **A list settles on the entries that fit, in their order.** -/
theorem Lenient.list {few : Nat} {read : Data → Reading α} {fit? : Data → Option α}
    (h : Lenient few read fit?) (rounds : Nat) (hfew : few ≤ rounds := by decide)
    (hround : 0 < rounds := by decide) :
    Lenient rounds (Read.list read) (Data.list? fit?) where
  null := rfl
  misfit d hnone := by
    cases d with
    | list items => cases hnone
    | _ => exact ⟨.noList, rfl⟩
  settles d as hnames hsome := by
    cases d with
    | list items =>
      cases hsome
      exact (Entries.of_lenient h hfew hround (Data.namesOnce_list.mp hnames)).settles
    | _ => cases hsome

/-! ## Repeated reading -/

/-- **Repeated reading comes to what a value settles on**, and reports nothing only where the value
has no fault. -/
theorem Template.readRepeatedly_of_settles {t : Template} {rounds : Nat} {d : Data}
    (h : Settles Template.read t rounds d) :
    ∃ issues, Template.readRepeatedly (rounds + 1) d = (some t, issues) ∧
      (issues = [] ↔ ∃ t', Template.read d = .value t') := by
  have hvalue : ∀ {n d}, Template.read d = .value t →
      ∃ issues, Template.readRepeatedly (n + 1) d = (some t, issues) ∧
        (issues = [] ↔ ∃ t', Template.read d = .value t') := by
    intro n d hd
    refine ⟨[], by rw [Template.readRepeatedly, hd], ?_⟩
    exact ⟨fun _ => ⟨t, hd⟩, fun _ => rfl⟩
  induction rounds generalizing d with
  | zero => exact hvalue h
  | succ rounds ih =>
    obtain ⟨hnone, herase, hrest⟩ := h
    cases hd : Template.read d with
    | value t' =>
      rw [← hd]
      exact hvalue (hnone (by rw [hd]; rfl))
    | faulty fs =>
      rw [hd] at hnone herase hrest
      have hfs : fs ≠ [] := by
        rintro rfl
        cases hnone rfl
      obtain ⟨f, later, rfl⟩ := List.exists_cons_of_ne_nil hfs
      have hsome : d.erasesSome ((f :: later).map Fault.location) = true :=
        List.any_eq_true.mpr ⟨f.location, List.mem_cons_self, herase _ List.mem_cons_self⟩
      obtain ⟨more, hmore, _⟩ := ih hrest
      have hmore' : Template.readRepeatedly (rounds + 1)
          (d.eraseAll ((f :: later).map Fault.location)) = (some t, more) := hmore
      refine ⟨(f :: later).map Fault.toIssue ++ more, ?_, ?_⟩
      · rw [Template.readRepeatedly, hd]
        simp only [hsome, if_true, hmore']
      · constructor
        · intro hempty
          cases hempty
        · rintro ⟨t', ht'⟩
          cases ht'

end MessageTemplate
