import MessageTemplate.Proofs.Lenient.Apart
import MessageTemplate.Proofs.Lenient.Misfits

/-!
# What is reported about a value, and when

* `Shape.dues` — what is reported about the misfits of a value, each with the rounds before it is;
* `Due.now`, `Due.later` — what is reported in this round, and what is left for the others;
* `Shape.Describes` — the faults of a reading are the misfits that are met at once;
* `Template.describes` — so it is with templates and all their parts.
-/

set_option autoImplicit false

namespace MessageTemplate

variable {α β : Type}

/-! ## What is reported, and when -/

/-- A fault, and the number of rounds before it is reported. -/
abbrev Due := Nat × Fault

namespace Due

/-- The faults that are reported in this round. -/
def now (dues : List Due) : List Fault :=
  dues.filterMap fun due => if due.1 = 0 then some due.2 else none

/-- What is reported in later rounds, as it is due after this one. -/
def later (dues : List Due) : List Due :=
  dues.filterMap fun due => if due.1 = 0 then none else some (due.1 - 1, due.2)

/-- Due one round later. -/
def postponed (due : Due) : Due := (due.1 + 1, due.2)

/-- What is due in a part of a value, seen from this value. The part stands under `k` in this round
and under `k'` in later ones. -/
def under (k k' : Key) (due : Due) : Due := (due.1, due.2.under (if due.1 = 0 then k else k'))

theorem now_append (dues others : List Due) : now (dues ++ others) = now dues ++ now others :=
  List.filterMap_append

theorem later_append (dues others : List Due) :
    later (dues ++ others) = later dues ++ later others :=
  List.filterMap_append

theorem now_postponed (dues : List Due) : now (dues.map postponed) = [] := by
  simp [now, postponed, List.filterMap_map]

theorem later_postponed (dues : List Due) : later (dues.map postponed) = dues := by
  unfold later
  rw [List.filterMap_map]
  exact List.filterMap_some

theorem now_under (k k' : Key) (dues : List Due) :
    now (dues.map (under k k')) = (now dues).map (Fault.under k) := by
  unfold now
  rw [List.filterMap_map, List.map_filterMap]
  apply List.filterMap_congr
  intro due _
  by_cases hround : due.1 = 0 <;> simp [under, hround]

theorem later_under (k k' : Key) (dues : List Due) :
    later (dues.map (under k k')) = (later dues).map (under k' k') := by
  unfold later
  rw [List.filterMap_map, List.map_filterMap]
  apply List.filterMap_congr
  intro due _
  by_cases hround : due.1 = 0 <;> simp [under, hround]

/-- Only nothing can stay due for good. -/
theorem eq_nil_of_later {dues : List Due} (h : later dues = dues) : dues = [] := by
  cases dues with
  | nil => rfl
  | cons due rest =>
    exfalso
    by_cases hround : due.1 = 0
    · have hlength : (later (due :: rest)).length ≤ rest.length := by
        rw [later, List.filterMap_cons_none (by rw [if_pos hround])]
        exact List.length_filterMap_le _ _
      rw [h, List.length_cons] at hlength
      omega
    · rw [later, List.filterMap_cons_some (by rw [if_neg hround])] at h
      have hfirst : due.1 - 1 = due.1 := congrArg Prod.fst (List.cons.inj h).1
      omega

/-- Everything is reported now or later. -/
theorem perm_now_later (dues : List Due) :
    (now dues ++ (later dues).map Prod.snd).Perm (dues.map Prod.snd) := by
  induction dues with
  | nil => exact .nil
  | cons due rest ih =>
    by_cases hround : due.1 = 0
    · rw [now, later, List.filterMap_cons_some (by rw [if_pos hround]),
        List.filterMap_cons_none (by rw [if_pos hround])]
      exact ih.cons due.2
    · rw [now, later, List.filterMap_cons_none (by rw [if_neg hround]),
        List.filterMap_cons_some (by rw [if_neg hround]), List.map_cons]
      exact List.perm_middle.trans (ih.cons due.2)

end Due

/-- When a misfit is reported, and as what. -/
def Misfit.due (v : Misfit) : Due := (v.round, v.fault)

/-- What is reported about the misfits of a value. -/
def Shape.dues (s : Shape) (d : Data) : List Due := (s.misfits d).map Misfit.due

theorem Misfit.due_inMember (s : String) (vs : List Misfit) :
    (vs.map (.inMember s)).map due = (vs.map due).map (Due.under (.name s) (.name s)) := by
  rw [List.map_map, List.map_map]
  apply List.map_congr_left
  intro v _
  by_cases hround : v.round = 0 <;>
    simp [due, Due.under, Misfit.inMember, Misfit.fault, Fault.under, hround]

theorem Misfit.due_inEntry (i j : Nat) (vs : List Misfit) :
    (vs.map (.inEntry i j)).map due = (vs.map due).map (Due.under (.index i) (.index j)) := by
  rw [List.map_map, List.map_map]
  apply List.map_congr_left
  intro v _
  by_cases hround : v.round = 0 <;>
    simp [due, Due.under, Misfit.inEntry, Misfit.fault, Fault.under, hround]

theorem Misfit.due_delayed (vs : List Misfit) :
    (vs.map (.delayed 1)).map due = (vs.map due).map Due.postponed := by
  simp [due, Due.postponed, Misfit.delayed, Misfit.fault]

namespace Shape

/-! ## What is due in a value -/

/-- What is due in the entries of a list that stand behind `i` others, of which `j` fit. -/
def entryDues (entry : Shape) (i j : Nat) (items : List Data) : List Due :=
  (entryMisfits entry.fits entry.misfits i j items).map Misfit.due

/-- What is due in the member of the given spellings. -/
def memberDues (s : Shape) (ms : Members) (names : List String) : List Due :=
  (memberMisfits s.fits s.misfits ms names).map Misfit.due

variable {s entry : Shape} {d : Data}

theorem dues_of_not_fits (h : s.fits d = false) : ∃ m, s.dues d = [(0, ⟨[], m⟩)] := by
  obtain ⟨m, hm⟩ := misfits_of_not_fits h
  exact ⟨m, by rw [dues, hm]; rfl⟩

theorem dues_part (name : String) (members : List (List String)) (shapeOf : List String → Shape)
    (ms : Members) : (Shape.part name members shapeOf).dues (.object ms) =
      members.flatMap fun names => (shapeOf names).memberDues ms names := by
  rw [dues, misfits_part, List.map_flatMap]
  rfl

theorem entryDues_cons (entry : Shape) (i j : Nat) (d : Data) (rest : List Data) :
    entryDues entry i j (d :: rest) =
      (entry.dues d).map (Due.under (.index i) (.index j)) ++
        entryDues entry (i + 1) (if entry.fits d then j + 1 else j) rest := by
  rw [entryDues, entryMisfits, List.map_append, Misfit.due_inEntry]
  rfl

variable {ms : Members} {name : String} {names : List String}

theorem memberDues_of_none (h : ms.counted? name = none) :
    s.memberDues ms (name :: names) = s.memberDues ms names := by
  simp only [memberDues, memberMisfits, h]

theorem memberDues_of_fits (h : ms.counted? name = some d) (hfits : s.fits d = true) :
    s.memberDues ms (name :: names) = (s.dues d).map (Due.under (.name name) (.name name)) := by
  simp only [memberDues, memberMisfits, h, hfits, if_true, List.append_nil, Misfit.due_inMember]
  rfl

theorem memberDues_of_not_fits (h : ms.counted? name = some d) (hfits : s.fits d = false) :
    s.memberDues ms (name :: names) =
      (s.dues d).map (Due.under (.name name) (.name name)) ++
        (s.memberDues ms names).map Due.postponed := by
  simp only [memberDues, memberMisfits, h, hfits, Bool.false_eq_true, if_false, List.map_append,
    Misfit.due_inMember, Misfit.due_delayed]
  rfl

theorem memberDues_agree {ms' : Members} (h : Members.AgreeOn names ms ms') :
    s.memberDues ms' names = s.memberDues ms names := by
  induction names with
  | nil => rfl
  | cons name names ih =>
    have hrest := ih fun s hs => h s (List.mem_cons_of_mem _ hs)
    have hname : ms'.counted? name = ms.counted? name := by
      rw [Members.counted?, h name List.mem_cons_self, Members.counted?]
    cases hd : ms.counted? name with
    | none => rw [memberDues_of_none hd, memberDues_of_none (hname.trans hd), hrest]
    | some d =>
      cases hfits : s.fits d with
      | true => rw [memberDues_of_fits hd hfits, memberDues_of_fits (hname.trans hd) hfits]
      | false =>
        rw [memberDues_of_not_fits hd hfits, memberDues_of_not_fits (hname.trans hd) hfits, hrest]

/-! ## Readings -/

/-- The faults of a reading are the misfits that are met at once. -/
def Describes (s : Shape) (read : Data → Reading α) : Prop :=
  ∀ d, d.namesOnce = true → (read d).faults = Due.now (s.dues d)

theorem Describes.text : Shape.text.Describes Read.text := by
  intro d _
  cases d <;> rfl

theorem Describes.truth : Shape.truth.Describes Read.truth := by
  intro d _
  rcases truth_cases d with ⟨b, hb⟩ | ⟨m, hm⟩
  · have hblame : Shape.truth.blame? d = none := by rw [blame?, hb]; rfl
    rw [dues, misfits_truth hblame, hb]
    rfl
  · have hblame : Shape.truth.blame? d = some m := by rw [blame?, hm]; rfl
    rw [dues, misfits_of_blame hblame, hm]
    rfl

theorem Describes.map {read : Data → Reading α} (h : s.Describes read) (f : α → β) :
    s.Describes fun d => (read d).map f := by
  intro d hnames
  rw [Reading.faults_map, h d hnames]

theorem faults_under (k : Key) (r : Reading α) :
    (r.under k).faults = r.faults.map (Fault.under k) := by
  cases r <;> rfl

theorem Describes.list {read : Data → Reading α} (h : entry.Describes read) :
    (Shape.list entry).Describes (Read.list read) := by
  intro d hnames
  cases d with
  | list items =>
    have hentries : ∀ (items : List Data), (∀ d ∈ items, d.namesOnce = true) → ∀ i j,
        (Reading.entriesFrom read i items).faults = Due.now (entryDues entry i j items) := by
      intro items hnames
      induction items with
      | nil => exact fun _ _ => rfl
      | cons d rest ih => 
        intro i j
        obtain ⟨hd, hrest⟩ := List.forall_mem_cons.mp hnames
        rw [Reading.entriesFrom, Reading.faults_ap, Reading.faults_ap, entryDues_cons,
          Due.now_append, Due.now_under, faults_under, h d hd, ih hrest]
        rfl
    exact hentries items (Data.namesOnce_list.mp hnames) 0 0
  | _ => rfl

/-- A member is described by its misfits, whichever spelling it has. -/
theorem Describes.field {read : Data → Reading α} (h : s.Describes read)
    (hnames : (Data.object ms).namesOnce = true) (names : List String) (default : α) :
    (Read.field ms.withoutNulls names default read).faults = Due.now (s.memberDues ms names) := by
  induction names with
  | nil => rfl
  | cons name names ih =>
    have hlookup : ms.withoutNulls.lookup name = ms.counted? name :=
      Members.lookup_withoutNulls (Data.namesOnce_object.mp hnames).1 name
    rw [field_cons, hlookup]
    cases hname : ms.counted? name with
    | none => rw [memberDues_of_none hname, ← ih]
    | some d =>
      have hd : d.namesOnce = true :=
        Data.namesOnce_lookup hnames (Option.filter_eq_some_iff.mp hname).1
      simp only
      rw [faults_under, h d hd, ← Due.now_under _ (.name name)]
      cases hfits : s.fits d with
      | true => rw [memberDues_of_fits hname hfits]
      | false =>
        rw [memberDues_of_not_fits hname hfits, Due.now_append, Due.now_postponed, List.append_nil]

/-- The same for a member that may be null. -/
theorem Describes.optional {read : Data → Reading α} (h : s.Describes read)
    (hnames : (Data.object ms).namesOnce = true) (names : List String) :
    (Read.field ms.withoutNulls names none (Read.optional read)).faults =
      Due.now (s.memberDues ms names) := by
  rw [field_optional, (h.map some).field hnames]

theorem Describes.part {name : String} {members : List (List String)}
    {shapeOf : List String → Shape} {read : Members → Reading α}
    (h : ∀ ms : Members, (Data.object ms).namesOnce = true → (read ms.withoutNulls).faults =
      Due.now (members.flatMap fun names => (shapeOf names).memberDues ms names)) :
    (Shape.part name members shapeOf).Describes (Read.part .noPart name read) := by
  intro d hnames
  cases d with
  | object ms => rw [dues_part, ← h ms hnames]; rfl
  | _ => rfl

end Shape

open Shape (Describes)

/-! ## The parts of a template -/

theorem Header.describes : Header.shape.Describes (Header.read .noPart) := by
  apply Describes.part
  intro ms hnames
  simp only [Header.readMembers, Reading.faults_ap, Reading.faults_value,
    Describes.truth.field hnames, Describes.text.field hnames, Describes.text.optional hnames,
    List.flatMap_cons, List.flatMap_nil, List.append_nil, Due.now_append, List.nil_append,
    List.append_assoc]
  rfl

theorem Body.describes : Body.shape.Describes (Body.read .noPart) := by
  apply Describes.part
  intro ms hnames
  simp only [Body.readMembers, Reading.faults_ap, Reading.faults_value,
    Describes.text.field hnames, Describes.text.list.field hnames,
    List.flatMap_cons, List.flatMap_nil, List.append_nil, Due.now_append, List.nil_append]
  rfl

theorem Footer.describes : Footer.shape.Describes (Footer.read .noPart) := by
  apply Describes.part
  intro ms hnames
  simp only [Footer.readMembers, Reading.faults_ap, Reading.faults_value,
    Describes.truth.field hnames, Describes.text.field hnames,
    List.flatMap_cons, List.flatMap_nil, List.append_nil, Due.now_append, List.nil_append]
  rfl

theorem Button.describes : Button.shape.Describes (Button.read .noPart) := by
  have hword : Shape.text.Describes Button.readText := Describes.text.map some
  apply Describes.part
  intro ms hnames
  simp only [Button.readMembers, Reading.faults_ap, Reading.faults_value,
    hword.field hnames, Describes.text.optional hnames,
    List.flatMap_cons, List.flatMap_nil, List.append_nil, Due.now_append, List.nil_append,
    List.append_assoc]

theorem ButtonSet.describes : ButtonSet.shape.Describes (ButtonSet.read .noPart) := by
  apply Describes.part
  intro ms hnames
  simp only [ButtonSet.readMembers, Reading.faults_ap, Reading.faults_value,
    Describes.truth.field hnames, Button.describes.list.field hnames,
    List.flatMap_cons, List.flatMap_nil, List.append_nil, Due.now_append, List.nil_append]
  rfl

theorem Template.describes : Template.shape.Describes Template.read := by
  apply Describes.part
  intro ms hnames
  simp only [Template.readMembers, Read.optionalPart, Reading.faults_ap, Reading.faults_value,
    (Describes.text.map Identifier.text).optional hnames, Describes.text.field hnames,
    (Header.describes.map some).field hnames, Body.describes.field hnames,
    (Footer.describes.map some).field hnames, (ButtonSet.describes.map some).field hnames,
    List.flatMap_cons, List.flatMap_nil, List.append_nil, Due.now_append, List.nil_append,
    List.append_assoc]
  rfl

end MessageTemplate
