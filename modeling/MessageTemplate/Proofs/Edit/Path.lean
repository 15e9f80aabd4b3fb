import MessageTemplate.Edit.Reading
import MessageTemplate.Proofs.Variable.Ordinals

/-!
# Reading paths

* `Command.Enters` — a path leads to an entry of a list, with a segment where the position stands;
* `Text.IsNumeral`, `Text.LooksNumeral` — such a segment is a numeral, or looks like one;
* `Command.parts_eq_iff` — the segments of a path are its parts between the points;
* `Command.Supported`, `Command.Unread` — the paths that are read, and why others are not;
* `Command.ofPath_answers` — a path is read, or there is exactly one of these reasons;
* `Command.superscript_unread` — a path with a superscript for the position fails otherwise than
  an unknown one does.
-/

set_option autoImplicit false

namespace MessageTemplate

/-! ## Numerals -/

namespace Text

/-- Decimal digits of any script, at least one and not too many. -/
def IsNumeral (cs : List Char) : Prop :=
  cs ≠ [] ∧ cs.length ≤ numeralLimit ∧ ∀ c ∈ cs, isDecimalDigit c = true

/-- Characters that stand for digits, at least one; they may be superscripts, or too many. -/
def LooksNumeral (cs : List Char) : Prop :=
  cs ≠ [] ∧ ∀ c ∈ cs, isDigitLike c = true

variable {cs : List Char}

theorem IsNumeral.looksNumeral (h : IsNumeral cs) : LooksNumeral cs :=
  ⟨h.1, fun c hc => by simp [isDigitLike, h.2.2 c hc]⟩

/-- Only decimal digits can be read. -/
theorem decimal_of_readNumeral {n : Nat} (h : readNumeral cs = .ok n) :
    cs.all isDecimalDigit = true := by
  unfold readNumeral at h
  dsimp only at h
  split at h
  · cases h
  · split at h
    · assumption
    · cases h

theorem denotes_of_read {n : Nat} (h : readNumeral cs = .ok n) : Denotes cs n :=
  denotes_of_readNumeral (List.all_eq_true.mp (decimal_of_readNumeral h)) h

/-- **Exactly numerals can be read.** -/
theorem isNumeral_iff : IsNumeral cs ↔ cs ≠ [] ∧ ∃ n, readNumeral cs = .ok n := by
  refine and_congr_right fun _ => ⟨fun ⟨hfew, hdecimal⟩ => ?_, fun ⟨n, hread⟩ => ?_⟩
  · exact (Variable.readNumeral_ok_iff (List.all_eq_true.mpr hdecimal)).mpr hfew
  · have hdecimal := decimal_of_readNumeral hread
    exact ⟨(Variable.readNumeral_ok_iff hdecimal).mp ⟨n, hread⟩, List.all_eq_true.mp hdecimal⟩

end Text

/-! ## Words for truth values -/

namespace Read

/-- A word for a truth value, in any case. -/
def IsTruthWord (s : String) : Prop :=
  String.ofList (s.toList.map Char.toLower) ∈
    ["1", "on", "t", "true", "y", "yes", "0", "off", "f", "false", "n", "no"]

theorem truthWord_cases (s : String) :
    IsTruthWord s ∧ (∃ b, truthWord s = .value b) ∨
      ¬IsTruthWord s ∧ truthWord s = .mismatch .unreadableTruthValue := by
  have hword : IsTruthWord s ↔ String.ofList (s.toList.map Char.toLower) ∈ trueWords ∨
      String.ofList (s.toList.map Char.toLower) ∈ falseWords :=
    List.mem_append (s := trueWords) (t := falseWords)
  unfold truthWord
  simp only [List.contains_iff_mem]
  split
  · rename_i htrue
    exact .inl ⟨hword.mpr (.inl htrue), true, rfl⟩
  · rename_i htrue
    split
    · rename_i hfalse
      exact .inl ⟨hword.mpr (.inr hfalse), false, rfl⟩
    · rename_i hfalse
      exact .inr ⟨fun h => (hword.mp h).elim htrue hfalse, rfl⟩

end Read

namespace Command

/-! ## Segments -/

/-- The segments are what the library's splitting makes of a path. -/
theorem segments_eq_splitOn (cs : List Char) : segments cs = cs.splitOn '.' := by
  induction cs with
  | nil => rfl
  | cons c rest ih =>
    rw [segments, List.splitOn_cons_eq_if_modifyHead, ih]
    split
    · rfl
    · cases hsplit : rest.splitOn '.' with
      | nil => exact absurd hsplit (List.splitOn_ne_nil '.' rest)
      | cons segment more => rfl

-- The library says how its splitting and joining undo each other, but not that no part of a split
-- has the separator; so this follows the own definition.
theorem not_mem_of_mem_segments {cs segment : List Char} (h : segment ∈ segments cs) :
    '.' ∉ segment := by
  induction cs generalizing segment with
  | nil =>
    obtain rfl := List.mem_singleton.mp h
    exact List.not_mem_nil
  | cons c rest ih =>
    unfold segments at h
    split at h
    · rcases List.mem_cons.mp h with rfl | hrest
      · exact List.not_mem_nil
      · exact ih hrest
    · rename_i hc
      have hc : '.' ≠ c := fun heq => hc (beq_iff_eq.mpr heq.symm)
      split at h
      · obtain rfl := List.mem_singleton.mp h
        exact fun hmem => hc (List.mem_singleton.mp hmem)
      · rename_i first more hsegments
        rw [hsegments] at ih
        rcases List.mem_cons.mp h with rfl | hmore
        · exact List.not_mem_cons_of_ne_of_not_mem hc (ih List.mem_cons_self)
        · exact ih (List.mem_cons_of_mem _ hmore)

/-- The segments of a path, as texts. -/
def parts (path : String) : List String := (segments path.toList).map String.ofList

/-- **The segments of a path are its parts between the points.** -/
theorem parts_eq_iff {path : String} {segs : List String} : parts path = segs ↔
    segs ≠ [] ∧ path = ".".intercalate segs ∧ ∀ s ∈ segs, '.' ∉ s.toList := by
  unfold parts
  constructor
  · rintro rfl
    refine ⟨?_, String.toList_inj.mp ?_, ?_⟩
    · rw [segments_eq_splitOn]
      exact fun h => List.splitOn_ne_nil '.' _ (List.map_eq_nil_iff.mp h)
    · rw [String.toList_intercalate, List.map_map, segments_eq_splitOn]
      simp [Function.comp_def]
    · rintro _ hs
      obtain ⟨segment, hsegment, rfl⟩ := List.mem_map.mp hs
      rw [String.toList_ofList]
      exact not_mem_of_mem_segments hsegment
  · rintro ⟨hne, rfl, hpoints⟩
    rw [String.toList_intercalate, segments_eq_splitOn]
    have hsplit : (List.intercalate ['.'] (segs.map String.toList)).splitOn '.' =
        segs.map String.toList := by
      refine List.splitOn_intercalate '.' ?_ (by simpa using hne)
      rintro _ hmem
      obtain ⟨s, hs, rfl⟩ := List.mem_map.mp hmem
      exact hpoints s hs
    exact (congrArg (List.map String.ofList) hsplit).trans (by simp [Function.comp_def])

/-! ## Kinds of paths -/

/-- The paths that address one field each. -/
def fieldPaths : List String := fixedPaths.map Prod.fst

/-- Those that address a truth value. -/
def switchPaths : List String := ["header.enabled", "footer.enabled", "buttons.enabled"]

/-- The path leads to an entry of the samples, or to a field of an entry of the buttons; the segment
stands where the position of the entry does. -/
inductive Enters : String → String → Prop
  | sample {segment : String} (hs : '.' ∉ segment.toList) :
    Enters ("body.examples." ++ segment) segment
  | button {segment field : String} (hs : '.' ∉ segment.toList) (hf : '.' ∉ field.toList) :
    Enters ("buttons.items." ++ segment ++ "." ++ field) segment

theorem parts_sample {segment : String} (hs : '.' ∉ segment.toList) :
    parts ("body.examples." ++ segment) = ["body", "examples", segment] := by
  refine parts_eq_iff.mpr ⟨nofun, rfl, ?_⟩
  simpa using hs

theorem parts_button {segment field : String} (hs : '.' ∉ segment.toList)
    (hf : '.' ∉ field.toList) :
    parts ("buttons.items." ++ segment ++ "." ++ field) = ["buttons", "items", segment, field] := by
  refine parts_eq_iff.mpr ⟨nofun, rfl, ?_⟩
  simpa using ⟨hs, hf⟩

/-- A path leads to an entry exactly if its segments do. -/
theorem enters_iff {path segment : String} : Enters path segment ↔
    parts path = ["body", "examples", segment] ∨
      ∃ field, parts path = ["buttons", "items", segment, field] := by
  constructor
  · rintro (hs | ⟨hs, hf⟩)
    · exact .inl (parts_sample hs)
    · exact .inr ⟨_, parts_button hs hf⟩
  · rintro (h | ⟨field, h⟩)
    · obtain ⟨_, rfl, hpoints⟩ := parts_eq_iff.mp h
      exact .sample (hpoints segment (by simp))
    · obtain ⟨_, rfl, hpoints⟩ := parts_eq_iff.mp h
      exact .button (hpoints segment (by simp)) (hpoints field (by simp))

theorem Enters.unique {path segment other : String} (h : Enters path segment)
    (h' : Enters path other) : segment = other := by
  rw [enters_iff] at h h'
  rcases h with h | ⟨field, h⟩ <;> rcases h' with h' | ⟨field', h'⟩ <;> rw [h] at h' <;>
    simp only [List.cons.injEq] at h'
  · exact h'.2.2.1
  · exact absurd h'.1 (by decide)
  · exact absurd h'.1 (by decide)
  · exact h'.2.2.1

theorem lookup_eq_none_iff {path : String} :
    fixedPaths.lookup path = none ↔ path ∉ fieldPaths := by
  simp only [fieldPaths, List.lookup_eq_none_iff, bne_iff_ne, List.mem_map, not_exists, not_and]
  exact forall₂_congr fun entry _ => ne_comm

/-- No path of a single field leads to an entry: it has too few segments. -/
theorem Enters.not_mem_fieldPaths {path segment : String} (h : Enters path segment) :
    path ∉ fieldPaths := by
  have hfew : ∀ path ∈ fieldPaths, (parts path).length ≤ 2 := by decide
  intro hfield
  have hmany := hfew path hfield
  rcases enters_iff.mp h with h | ⟨field, h⟩ <;> rw [h] at hmany <;> simp at hmany

/-! ## Positions -/

/-- What is made at the position for which a segment stands. -/
def atPosition (path segment : String) (make : Nat → Except Failure Command) :
    Except Failure Command :=
  if isPosition segment.toList then
    match Text.readNumeral segment.toList with
    | .ok n => make n
    | .error e => .error (.numeral e)
  else .error (.edit (.noPath path))

theorem ofPath_sample {segment : String} (hs : '.' ∉ segment.toList) (value : Data) :
    ofPath ("body.examples." ++ segment) value =
      atPosition ("body.examples." ++ segment) segment fun n =>
        ofMembers .setBodySample [("index", .ofNat n), ("value", value)] := by
  unfold ofPath
  rw [lookup_eq_none_iff.mpr (Enters.sample hs).not_mem_fieldPaths]
  show ofSegments _ (parts _) _ = _
  rw [parts_sample hs]
  rfl

theorem ofPath_button {segment field : String} (hs : '.' ∉ segment.toList)
    (hf : '.' ∉ field.toList) (value : Data) :
    ofPath ("buttons.items." ++ segment ++ "." ++ field) value =
      atPosition ("buttons.items." ++ segment ++ "." ++ field) segment fun n =>
        ofMembers .setButtonField
          [("index", .ofNat n), ("field", .str field), ("value", value)] := by
  unfold ofPath
  rw [lookup_eq_none_iff.mpr (Enters.button hs hf).not_mem_fieldPaths]
  show ofSegments _ (parts _) _ = _
  rw [parts_button hs hf]
  rfl

theorem ofMembers_sample (n : Nat) (value : String) :
    ofMembers .setBodySample [("index", .ofNat n), ("value", .str value)] =
      .ok ⟨.setBodySample n value, ["index", "value"]⟩ := rfl

theorem ofMembers_button (n : Nat) (field : String) (value : Option String) :
    ofMembers .setButtonField
        [("index", .ofNat n), ("field", .str field), ("value", .ofText? value)] =
      .ok ⟨.setButtonField n field value, ["field", "index", "value"]⟩ := by
  cases value <;> rfl

/-- Whatever the value is, only this field of this button can be set. -/
theorem edit_of_ofMembers_button {n : Nat} {field : String} {value : Data} {c : Command}
    (h : ofMembers .setButtonField
      [("index", .ofNat n), ("field", .str field), ("value", value)] = .ok c) :
    ∃ v, c.edit = .setButtonField n field v := by
  cases value with
  | null =>
    obtain rfl := Except.ok.inj h
    exact ⟨none, rfl⟩
  | str s =>
    obtain rfl := Except.ok.inj h
    exact ⟨some s, rfl⟩
  | _ => exact absurd h nofun

section AtPosition

variable {path segment : String} {make : Nat → Except Failure Command}

theorem isPosition_iff : isPosition segment.toList = true ↔ Text.LooksNumeral segment.toList := by
  simp [isPosition, Text.LooksNumeral]

theorem atPosition_eq_ok_iff {c : Command} : atPosition path segment make = .ok c ↔
    ∃ n, Text.LooksNumeral segment.toList ∧ Text.readNumeral segment.toList = .ok n ∧
      make n = .ok c := by
  unfold atPosition
  split
  · rename_i hlooks
    rw [isPosition_iff] at hlooks
    cases Text.readNumeral segment.toList <;> simp [hlooks]
  · rename_i hlooks
    rw [isPosition_iff] at hlooks
    simp [hlooks]

theorem atPosition_ok_iff (hmake : ∀ n, ∃ c, make n = .ok c) :
    (∃ c, atPosition path segment make = .ok c) ↔ Text.IsNumeral segment.toList := by
  simp only [atPosition_eq_ok_iff]
  constructor
  · rintro ⟨c, n, hlooks, hread, _⟩
    exact Text.isNumeral_iff.mpr ⟨hlooks.1, n, hread⟩
  · intro h
    obtain ⟨n, hread⟩ := (Text.isNumeral_iff.mp h).2
    obtain ⟨c, hc⟩ := hmake n
    exact ⟨c, n, h.looksNumeral, hread, hc⟩

theorem atPosition_error_iff (hmake : ∀ n, ∃ c, make n = .ok c) {failure : Failure} :
    atPosition path segment make = .error failure ↔
      failure = .edit (.noPath path) ∧ ¬Text.LooksNumeral segment.toList ∨
        ∃ e, failure = .numeral e ∧ Text.LooksNumeral segment.toList ∧
          Text.readNumeral segment.toList = .error e := by
  unfold atPosition
  split
  · rename_i hlooks
    rw [isPosition_iff] at hlooks
    cases Text.readNumeral segment.toList with
    | error e => simp [hlooks, eq_comm]
    | ok n =>
      obtain ⟨c, hc⟩ := hmake n
      simp [hlooks, hc]
  · rename_i hlooks
    rw [isPosition_iff] at hlooks
    simp [hlooks, eq_comm]

end AtPosition

/-! ## Reasons -/

/-- The path is read with the text: it is one of a field, and the text is a truth value if the field
is, or it leads to an entry at a numeral. -/
inductive Supported (value : String) : String → Prop
  | field {path : String} (h : path ∈ fieldPaths)
    (hword : path ∈ switchPaths → Read.IsTruthWord value) : Supported value path
  | entry {path segment : String} (h : Enters path segment)
    (hnumeral : Text.IsNumeral segment.toList) : Supported value path

/-- Why a path cannot be read with a text: it is unknown, the text is no truth value where one is
asked for, or the position looks like a numeral but cannot be read. -/
inductive Unread (path value : String) : Failure → Prop
  | unknown (h : path ∉ fieldPaths)
    (hentry : ∀ segment, Enters path segment → ¬Text.LooksNumeral segment.toList) :
    Unread path value (.edit (.noPath path))
  | noTruth (h : path ∈ switchPaths) (hword : ¬Read.IsTruthWord value) :
    Unread path value (.faulty [⟨[.name "value"], .unreadableTruthValue⟩])
  | numeral {segment : String} {e : Text.NumeralError} (h : Enters path segment)
    (hlooks : Text.LooksNumeral segment.toList)
    (herror : Text.readNumeral segment.toList = .error e) : Unread path value (.numeral e)

variable {path segment : String}

theorem ofPath_switch (h : path ∈ switchPaths) (value : String) :
    ∃ make : Bool → Command, ofPath path (.str value) =
      (((Read.truthWord value).under (.name "value")).map make).result := by
  simp only [switchPaths, List.mem_cons, List.not_mem_nil, or_false] at h
  have hmap : ∀ (r : Reading Bool) (f : Bool → Edit) (given : List String),
      (((r.map f).map fun e => Command.mk e given)) = r.map fun b => ⟨f b, given⟩ := by
    intro r f given
    cases r <;> rfl
  rcases h with rfl | rfl | rfl
  · exact ⟨_, congrArg Reading.result (hmap _ .setHeaderEnabled ["value"])⟩
  · exact ⟨_, congrArg Reading.result (hmap _ .setFooterEnabled ["value"])⟩
  · exact ⟨_, congrArg Reading.result (hmap _ .setButtonsEnabled ["value"])⟩

/-- A field that is no switch takes every text. -/
theorem ofPath_text (h : path ∈ fieldPaths) (hswitch : path ∉ switchPaths) (value : String) :
    ∃ c, ofPath path (.str value) = .ok c := by
  simp only [fieldPaths, fixedPaths, List.map_cons, List.map_nil, List.mem_cons, List.not_mem_nil,
    or_false] at h
  rcases h with rfl | rfl | rfl | rfl | rfl | rfl | rfl | rfl | rfl | rfl | rfl | rfl
  all_goals first | exact ⟨_, rfl⟩ | exact absurd (by decide) hswitch

theorem ofPath_entry (h : Enters path segment) (value : String) :
    ∃ make, (∀ n, ∃ c, make n = .ok c) ∧
      ofPath path (.str value) = atPosition path segment make := by
  cases h with
  | sample hs => exact ⟨_, fun n => ⟨_, ofMembers_sample n value⟩, ofPath_sample hs _⟩
  | button hs hf =>
    exact ⟨_, fun n => ⟨_, ofMembers_button n _ (some value)⟩, ofPath_button hs hf _⟩

theorem ofPath_unknown (h : path ∉ fieldPaths) (hentry : ∀ segment, ¬Enters path segment)
    (value : Data) : ofPath path value = .error (.edit (.noPath path)) := by
  unfold ofPath
  rw [lookup_eq_none_iff.mpr h]
  show ofSegments path (parts path) value = _
  unfold ofSegments
  split
  · rename_i hparts
    exact absurd (enters_iff.mpr (.inl hparts)) (hentry _)
  · rename_i hparts
    exact absurd (enters_iff.mpr (.inr ⟨_, hparts⟩)) (hentry _)
  · rfl

theorem mem_fieldPaths_of_mem_switchPaths (h : path ∈ switchPaths) : path ∈ fieldPaths := by
  have hsub : ∀ path ∈ switchPaths, path ∈ fieldPaths := by decide
  exact hsub path h

/-! ## Answers -/

variable {value : String}

theorem ofPath_field_ok_iff (h : path ∈ fieldPaths) :
    (∃ c, ofPath path (.str value) = .ok c) ↔ (path ∈ switchPaths → Read.IsTruthWord value) := by
  by_cases hswitch : path ∈ switchPaths
  · obtain ⟨make, hmake⟩ := ofPath_switch hswitch value
    rw [hmake]
    rcases Read.truthWord_cases value with ⟨hword, b, hread⟩ | ⟨hword, hread⟩ <;> rw [hread]
    · exact iff_of_true ⟨_, rfl⟩ fun _ => hword
    · exact iff_of_false nofun fun h => hword (h hswitch)
  · exact iff_of_true (ofPath_text h hswitch value) fun h => absurd h hswitch

/-- **A text is read at a path exactly if the path is supported.** -/
theorem ofPath_ok_iff : (∃ c, ofPath path (.str value) = .ok c) ↔ Supported value path := by
  by_cases hfield : path ∈ fieldPaths
  · rw [ofPath_field_ok_iff hfield]
    refine ⟨.field hfield, ?_⟩
    rintro (⟨_, hword⟩ | ⟨hentry, _⟩)
    · exact hword
    · exact absurd hfield hentry.not_mem_fieldPaths
  by_cases hentry : ∃ segment, Enters path segment
  · obtain ⟨segment, hentry⟩ := hentry
    obtain ⟨make, hmake, hpath⟩ := ofPath_entry hentry value
    rw [hpath, atPosition_ok_iff hmake]
    refine ⟨.entry hentry, ?_⟩
    rintro (⟨h, _⟩ | ⟨hother, hnumeral⟩)
    · exact absurd h hfield
    · rwa [hentry.unique hother]
  · rw [ofPath_unknown hfield (not_exists.mp hentry)]
    refine iff_of_false nofun ?_
    rintro (⟨h, _⟩ | ⟨hother, _⟩)
    · exact hfield h
    · exact hentry ⟨_, hother⟩

theorem ofPath_field_error_iff (h : path ∈ fieldPaths) {failure : Failure} :
    ofPath path (.str value) = .error failure ↔
      failure = .faulty [⟨[.name "value"], .unreadableTruthValue⟩] ∧ path ∈ switchPaths ∧
        ¬Read.IsTruthWord value := by
  by_cases hswitch : path ∈ switchPaths
  · obtain ⟨make, hmake⟩ := ofPath_switch hswitch value
    rw [hmake]
    rcases Read.truthWord_cases value with ⟨hword, b, hread⟩ | ⟨hword, hread⟩ <;> rw [hread]
    · exact iff_of_false nofun fun h => h.2.2 hword
    · rw [and_iff_left ⟨hswitch, hword⟩]
      show Except.error (Failure.faulty [⟨[.name "value"], .unreadableTruthValue⟩]) = _ ↔ _
      rw [Except.error.injEq, eq_comm]
  · obtain ⟨c, hc⟩ := ofPath_text h hswitch value
    rw [hc]
    exact iff_of_false nofun fun h => hswitch h.2.1

/-- **A text is not read at a path exactly for one of the reasons.** -/
theorem ofPath_error_iff {failure : Failure} :
    ofPath path (.str value) = .error failure ↔ Unread path value failure := by
  by_cases hfield : path ∈ fieldPaths
  · rw [ofPath_field_error_iff hfield]
    constructor
    · rintro ⟨rfl, hswitch, hword⟩
      exact .noTruth hswitch hword
    · rintro (⟨h, _⟩ | ⟨hswitch, hword⟩ | ⟨hentry, _, _⟩)
      · exact absurd hfield h
      · exact ⟨rfl, hswitch, hword⟩
      · exact absurd hfield hentry.not_mem_fieldPaths
  by_cases hentry : ∃ segment, Enters path segment
  · obtain ⟨segment, hentry⟩ := hentry
    obtain ⟨make, hmake, hpath⟩ := ofPath_entry hentry value
    rw [hpath, atPosition_error_iff hmake]
    constructor
    · rintro (⟨rfl, hlooks⟩ | ⟨e, rfl, hlooks, herror⟩)
      · refine .unknown hfield fun other hother => ?_
        rwa [hother.unique hentry]
      · exact .numeral hentry hlooks herror
    · rintro (⟨_, hlooks⟩ | ⟨hswitch, _⟩ | ⟨hother, hlooks, herror⟩)
      · exact .inl ⟨rfl, hlooks _ hentry⟩
      · exact absurd (mem_fieldPaths_of_mem_switchPaths hswitch) hfield
      · obtain rfl := hother.unique hentry
        exact .inr ⟨_, rfl, hlooks, herror⟩
  · rw [ofPath_unknown hfield (not_exists.mp hentry)]
    constructor
    · intro h
      obtain rfl := Except.error.inj h
      exact .unknown hfield fun segment h => absurd ⟨segment, h⟩ hentry
    · rintro (_ | ⟨hswitch, _⟩ | ⟨hother, _, _⟩)
      · rfl
      · exact absurd (mem_fieldPaths_of_mem_switchPaths hswitch) hfield
      · exact absurd ⟨_, hother⟩ hentry

/-- **A path is read, or it fails for one of the reasons**: it is read exactly if it is supported,
and each failure has its own condition. What looks like a numeral at a position fails as a numeral
exactly if it is none, since it is too long or has characters that are no decimal digits. -/
theorem ofPath_answers (path value : String) :
    ((∃ c, ofPath path (.str value) = .ok c) ↔ Supported value path) ∧
      (∀ failure, ofPath path (.str value) = .error failure ↔ Unread path value failure) ∧
      ((∃ e, ofPath path (.str value) = .error (.numeral e)) ↔
        ∃ segment, Enters path segment ∧ Text.LooksNumeral segment.toList ∧
          ¬Text.IsNumeral segment.toList) := by
  refine ⟨ofPath_ok_iff, fun _ => ofPath_error_iff, ?_⟩
  simp only [ofPath_error_iff]
  constructor
  · rintro ⟨e, ⟨⟩ | ⟨⟩ | ⟨hentry, hlooks, herror⟩⟩
    refine ⟨_, hentry, hlooks, fun hnumeral => ?_⟩
    obtain ⟨n, hread⟩ := (Text.isNumeral_iff.mp hnumeral).2
    rw [hread] at herror
    cases herror
  · rintro ⟨segment, hentry, hlooks, hnumeral⟩
    cases hread : Text.readNumeral segment.toList with
    | ok n => exact absurd (Text.isNumeral_iff.mpr ⟨hlooks.1, n, hread⟩) hnumeral
    | error e => exact ⟨e, .numeral hentry hlooks hread⟩

/-- **A superscript at a position is not refused as an unknown path is**, nor for the text. -/
theorem superscript_unread :
    ∃ failure, ofPath "buttons.items.².text" (.str "Yes") = .error failure ∧
      (∀ e, failure ≠ .edit e) ∧ ∀ faults, failure ≠ .faulty faults :=
  ⟨.numeral (.notDecimal ['²']), rfl, nofun, nofun⟩

end Command

end MessageTemplate
