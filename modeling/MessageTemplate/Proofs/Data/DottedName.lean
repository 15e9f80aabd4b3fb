import MessageTemplate.Data.Location
import MessageTemplate.Proofs.Text.MemberName

/-!
# Dotted names

What the dotted name of a location says about its steps, as a text and as a list of steps.

* `Location.components` — the steps that the dotted name of a location shows;
* `Location.toList_foldl_extendName` — how a dotted name goes on with the steps of a location;
* `Location.toList_fieldName` — the dotted name is made of the steps that it shows;
* `Location.dotted_extends_iff` — it goes on from another dotted name exactly if its steps do.
-/

set_option autoImplicit false

namespace MessageTemplate

open Text (IsJoint)

/-! ## Steps -/

namespace Key

/-- A step as a dotted name shows it. -/
def shown : Key → Key
  | .name s => .name (Location.reportedName s)
  | .index i => .index i

/-- The character that joins a step to those before it. -/
def joint : Key → Char
  | .name _ => '.'
  | .index _ => '['

/-- What a dotted name says about a step behind the character that joins it. -/
def label : Key → List Char
  | .name s => s.toList
  | .index i => (toString i).toList ++ [']']

/-- A step whose name, if it is one, has no point and no opening bracket. -/
def IsPlain : Key → Prop
  | .name s => ∀ c ∈ s.toList, ¬IsJoint c
  | .index _ => True

-- By name, since the characters of the text are to be tried, and not all that there are.
instance : (k : Key) → Decidable k.IsPlain
  | .name s => List.decidableBAll _ s.toList
  | .index _ => inferInstanceAs (Decidable True)

end Key

/-- The text is empty or begins with a character that joins a step. -/
def BeginsJoined (cs : List Char) : Prop := ∀ c ∈ cs.head?, IsJoint c

theorem beginsJoined_nil : BeginsJoined [] := nofun

theorem beginsJoined_cons {c : Char} {cs : List Char} : BeginsJoined (c :: cs) ↔ IsJoint c := by
  simp [BeginsJoined]

/-- The characters before a joint are determined by the text. -/
theorem append_beginsJoined_inj {s t more rest : List Char} (hs : ∀ c ∈ s, ¬IsJoint c)
    (ht : ∀ c ∈ t, ¬IsJoint c) (hmore : BeginsJoined more) (hrest : BeginsJoined rest)
    (h : s ++ more = t ++ rest) : s = t ∧ more = rest := by
  have hfront : ∀ {s more : List Char}, (∀ c ∈ s, ¬IsJoint c) → BeginsJoined more →
      (s ++ more).takeWhile (fun c => !decide (IsJoint c)) = s := by
    intro s more hs hmore
    rw [List.takeWhile_append_of_pos (by simpa using hs)]
    cases more with
    | nil => simp
    | cons c rest =>
      rw [List.takeWhile_cons_of_neg (by simpa using beginsJoined_cons.mp hmore), List.append_nil]
  have hsame : s = t := by rw [← hfront hs hmore, h, hfront ht hrest]
  subst hsame
  exact ⟨rfl, List.append_cancel_left h⟩

/-! ## Numbers -/

theorem toList_toString_int (i : Int) : (toString i).toList =
    if 0 ≤ i then Nat.toDigits 10 i.toNat else '-' :: Nat.toDigits 10 (-i).toNat := by
  rw [Int.toString_eq_repr, Int.repr_eq_if]
  split
  · exact Nat.toList_repr
  · rw [String.toList_append, Nat.toList_repr]
    rfl

theorem toDigits_inj {m n : Nat} (h : Nat.toDigits 10 m = Nat.toDigits 10 n) : m = n := by
  rw [← Nat.ofDigitChars_ten_toDigits (n := m), h, Nat.ofDigitChars_ten_toDigits]

theorem toString_int_inj {i j : Int} (h : (toString i).toList = (toString j).toList) : i = j := by
  have hsign : ∀ {m n : Nat}, Nat.toDigits 10 m ≠ '-' :: Nat.toDigits 10 n := by
    intro m n h
    have hdigit := Nat.isDigit_of_mem_toDigits (n := m) (c := '-') (b := 10) (by decide) (by decide)
      (h ▸ List.mem_cons_self)
    exact absurd hdigit (by decide)
  rw [toList_toString_int, toList_toString_int] at h
  split at h <;> split at h
  · have := toDigits_inj h
    omega
  · exact absurd h hsign
  · exact absurd h.symm hsign
  · have := toDigits_inj (List.cons.inj h).2
    omega

theorem not_isJoint_of_mem_toString {i : Int} {c : Char} (h : c ∈ (toString i).toList) :
    ¬IsJoint c := by
  have hdigits : ∀ n : Nat, c ∈ Nat.toDigits 10 n → ¬IsJoint c := by
    rintro n hc (rfl | rfl)
    · exact absurd (Nat.isDigit_of_mem_toDigits (by decide) (by decide) hc) (by decide)
    · exact absurd (Nat.isDigit_of_mem_toDigits (by decide) (by decide) hc) (by decide)
  rw [toList_toString_int] at h
  split at h
  · exact hdigits _ h
  · rcases List.mem_cons.mp h with rfl | hc
    · decide
    · exact hdigits _ hc

/-! ## Dotted names -/

namespace Key

variable {k l : Key}

theorem not_isJoint_label (hk : k.IsPlain) : ∀ c ∈ k.label, ¬IsJoint c := by
  cases k with
  | name s => exact hk
  | index i =>
    intro c hc
    rcases List.mem_append.mp hc with hdigits | hbracket
    · exact not_isJoint_of_mem_toString hdigits
    · rw [List.mem_singleton.mp hbracket]
      decide

theorem eq_of_label (hjoint : k.joint = l.joint) (hlabel : k.label = l.label) : k = l := by
  cases k with
  | name s =>
    cases l with
    | name t => exact congrArg name (String.toList_inj.mp hlabel)
    | index j => exact absurd hjoint (show '.' ≠ '[' by decide)
  | index i =>
    cases l with
    | name t => exact absurd hjoint (show '[' ≠ '.' by decide)
    | index j => exact congrArg index (toString_int_inj (List.append_cancel_right hlabel))

theorem isJoint_joint (k : Key) : IsJoint k.joint := by
  cases k
  · exact .inl rfl
  · exact .inr rfl

/-- A name without joints is shown without joints. -/
theorem IsPlain.shown (hk : k.IsPlain) : k.shown.IsPlain := by
  cases k with
  | index i => trivial
  | name s =>
    intro c hc hjoint
    unfold Location.reportedName at hc
    split at hc
    · rw [String.toList_ofList] at hc
      exact Text.not_mem_camel hjoint (fun hmem => hk c hmem hjoint) hc
    · exact hk c hc hjoint

end Key

namespace Location

/-- Steps behind others in a dotted name. -/
def links (path : List Key) : List Char := path.flatMap fun k => k.joint :: k.label

/-- The dotted name of steps; a name that comes first needs no point before it. -/
def dotted : List Key → List Char
  | .name s :: rest => s.toList ++ links rest
  | path => links path

variable {path rest : List Key} {k : Key}

theorem links_cons : links (k :: path) = k.joint :: (k.label ++ links path) := by
  simp [links]

theorem links_append : links (path ++ rest) = links path ++ links rest := List.flatMap_append

theorem beginsJoined_links_append (path : List Key) {more : List Char} (hmore : BeginsJoined more) :
    BeginsJoined (links path ++ more) := by
  cases path with
  | nil => exact hmore
  | cons k rest =>
    rw [links_cons]
    exact beginsJoined_cons.mpr k.isJoint_joint

theorem beginsJoined_links (path : List Key) : BeginsJoined (links path) := by
  rw [← List.append_nil (links path)]
  exact beginsJoined_links_append path beginsJoined_nil

/-- Steps whose labels make up the same text, as far as one of them goes, are the same. -/
theorem prefix_of_links {p q : List Key} {more : List Char} (hp : ∀ k ∈ p, k.IsPlain)
    (hq : ∀ k ∈ q, k.IsPlain) (hmore : BeginsJoined more) (h : links q = links p ++ more) :
    p <+: q := by
  induction p generalizing q with
  | nil => exact List.nil_prefix
  | cons k p ih =>
    obtain ⟨hk, hp⟩ := List.forall_mem_cons.mp hp
    cases q with
    | nil =>
      rw [links_cons] at h
      cases h
    | cons l q =>
      obtain ⟨hl, hq⟩ := List.forall_mem_cons.mp hq
      rw [links_cons, links_cons, List.cons_append, List.append_assoc] at h
      obtain ⟨hjoint, hrest⟩ := List.cons.inj h
      obtain ⟨hlabel, hlinks⟩ := append_beginsJoined_inj (Key.not_isJoint_label hl)
        (Key.not_isJoint_label hk) (beginsJoined_links q) (beginsJoined_links_append p hmore) hrest
      rw [Key.eq_of_label hjoint hlabel]
      exact List.prefix_cons_inj k |>.mpr (ih hp hq hlinks)

/-- Steps that a dotted name can show: at least one, names without joints, and no empty name in
front. -/
structure IsPath (path : List Key) : Prop where
  head : ∃ k ∈ path.head?, k ≠ .name ""
  plain : ∀ k ∈ path, k.IsPlain

/-- A name in front does not look like a position. -/
theorem name_ne_bracket {s : String} (hs : IsPath (.name s :: path)) {more last : List Char} :
    s.toList ++ more ≠ '[' :: last := by
  intro h
  cases hcs : s.toList with
  | nil =>
    obtain ⟨k, hk, hnonempty⟩ := hs.head
    obtain rfl := Option.some.inj hk
    exact hnonempty (congrArg Key.name (String.toList_eq_nil_iff.mp hcs))
  | cons c cs =>
    rw [hcs] at h
    exact hs.plain _ List.mem_cons_self c (hcs ▸ List.mem_cons_self) (.inr (List.cons.inj h).1)

/-- **A dotted name goes on from another one exactly if its steps do.** -/
theorem dotted_extends_iff {p q : List Key} (hp : IsPath p) (hq : IsPath q) :
    (∃ more, dotted q = dotted p ++ more ∧ BeginsJoined more) ↔ p <+: q := by
  constructor
  · rintro ⟨more, h, hmore⟩
    cases p with
    | nil => exact List.nil_prefix
    | cons k p =>
      cases q with
      | nil =>
        obtain ⟨_, hhead, _⟩ := hq.head
        cases hhead
      | cons l q =>
        obtain ⟨hk, hplain⟩ := List.forall_mem_cons.mp hp.plain
        obtain ⟨hl, hplain'⟩ := List.forall_mem_cons.mp hq.plain
        cases k with
        | name s =>
          cases l with
          | name t =>
            simp only [dotted, List.append_assoc] at h
            obtain ⟨hname, hlinks⟩ := append_beginsJoined_inj hl hk (beginsJoined_links q)
              (beginsJoined_links_append p hmore) h
            rw [String.toList_inj.mp hname]
            exact (List.prefix_cons_inj _).mpr (prefix_of_links hplain hplain' hmore hlinks)
          | index j =>
            simp only [dotted, links_cons, List.append_assoc] at h
            exact absurd h.symm (name_ne_bracket hp)
        | index i =>
          cases l with
          | name t =>
            simp only [dotted, links_cons, List.cons_append] at h
            exact absurd h (name_ne_bracket hq)
          | index j => exact prefix_of_links hp.plain hq.plain hmore h
  · rintro ⟨rest, rfl⟩
    refine ⟨links rest, ?_, beginsJoined_links rest⟩
    cases p with
    | nil =>
      obtain ⟨_, hhead, _⟩ := hp.head
      cases hhead
    | cons k p =>
      cases k with
      | name s => simp only [List.cons_append, dotted, links_append, List.append_assoc]
      | index i =>
        show links (.index i :: p ++ rest) = links (.index i :: p) ++ links rest
        exact links_append

/-! ## Names of locations -/

/-- The steps that the dotted name of a location shows. Empty names in front leave no trace in it,
and a name of which nothing is left is the one for the whole. -/
def components (loc : Location) : List Key :=
  match (loc.map Key.shown).dropWhile (· = .name "") with
  | [] => [.name wholeName]
  | path => path

/-- No name in the location has a point or an opening bracket. -/
def IsPlain (loc : Location) : Prop := ∀ k ∈ loc, k.IsPlain

instance (loc : Location) : Decidable loc.IsPlain :=
  inferInstanceAs (Decidable (∀ k ∈ loc, k.IsPlain))

theorem toList_extendName {field : String} (hfield : field ≠ "") (k : Key) :
    (extendName field k).toList = field.toList ++ links [k.shown] := by
  cases k with
  | index i => simp [extendName, links, Key.shown, Key.joint, Key.label]
  | name s =>
    have hempty : field.isEmpty = false := by
      rw [Bool.eq_false_iff, ne_eq, String.isEmpty_iff]
      exact hfield
    simp [extendName, hempty, links, Key.shown, Key.joint, Key.label]

theorem toList_foldl_extendName (loc : Location) {field : String} (hfield : field ≠ "") :
    (loc.foldl extendName field).toList = field.toList ++ links (loc.map Key.shown) := by
  induction loc generalizing field with
  | nil => simp [links]
  | cons k rest ih =>
    have hstep := toList_extendName hfield k
    have hextended : extendName field k ≠ "" := by
      intro h
      rw [h] at hstep
      exact hfield (String.toList_eq_nil_iff.mp (List.append_eq_nil_iff.mp hstep.symm).1)
    rw [List.foldl_cons, ih hextended, hstep, List.append_assoc, ← links_append]
    rfl

/-- Before anything is shown, empty names are passed over. -/
theorem toList_foldl_extendName_empty (loc : Location) :
    (loc.foldl extendName "").toList =
      dotted ((loc.map Key.shown).dropWhile (· = .name "")) := by
  induction loc with
  | nil => rfl
  | cons k rest ih =>
    rw [List.foldl_cons, List.map_cons]
    cases k with
    | index i =>
      have hnonempty : extendName "" (.index i) ≠ "" := by simp [extendName]
      rw [List.dropWhile_cons_of_neg (by simp [Key.shown]), toList_foldl_extendName _ hnonempty]
      simp [extendName, dotted, links_cons, Key.shown, Key.joint, Key.label]
    | name s =>
      have hfirst : extendName "" (.name s) = reportedName s := rfl
      rw [hfirst]
      by_cases hempty : reportedName s = ""
      · rw [List.dropWhile_cons_of_pos (by simp [Key.shown, hempty]), hempty, ih]
      · rw [List.dropWhile_cons_of_neg (by simp [Key.shown, hempty]),
          toList_foldl_extendName _ hempty]
        rfl

theorem dotted_ne_nil {path : List Key} (h : IsPath path) : dotted path ≠ [] := by
  obtain ⟨k, hk, hnonempty⟩ := h.head
  cases path with
  | nil => cases hk
  | cons l rest =>
    obtain rfl := Option.some.inj hk
    cases l with
    | index i => simp [dotted, links_cons]
    | name s =>
      intro hnil
      have hs := (List.append_eq_nil_iff.mp hnil).1
      exact hnonempty (congrArg Key.name (String.toList_eq_nil_iff.mp hs))

variable {loc : Location}

theorem isPath_shown (hloc : loc.IsPlain)
    (hne : (loc.map Key.shown).dropWhile (· = .name "") ≠ []) :
    IsPath ((loc.map Key.shown).dropWhile (· = .name "")) where
  head := by
    have hhead := List.head_dropWhile_not (· = Key.name "") hne
    exact ⟨_, List.head?_eq_some_head hne, by simpa using hhead⟩
  plain k hk := by
    obtain ⟨k', hk', rfl⟩ := List.mem_map.mp ((List.dropWhile_sublist _).subset hk)
    exact (hloc k' hk').shown

theorem isPath_components (hloc : loc.IsPlain) : IsPath loc.components := by
  unfold components
  split
  · exact ⟨⟨_, rfl, by decide⟩, List.forall_mem_singleton.mpr (by decide)⟩
  · rename_i hne
    exact isPath_shown hloc hne

/-- **The dotted name of a location is made of the steps that it shows.** -/
theorem toList_fieldName (hloc : loc.IsPlain) : loc.fieldName.toList = dotted loc.components := by
  have hall := toList_foldl_extendName_empty loc
  unfold fieldName components
  simp only
  split
  · rename_i hempty
    rw [String.isEmpty_iff.mp hempty] at hall
    split
    · rfl
    · rename_i hne
      exact absurd hall.symm (dotted_ne_nil (isPath_shown hloc hne))
  · rename_i hnonempty
    split
    · rename_i hnil
      rw [hnil] at hall
      exact absurd (String.isEmpty_iff.mpr (String.toList_eq_nil_iff.mp hall)) hnonempty
    · exact hall

end Location

end MessageTemplate
