import MessageTemplate.Proofs.Span.Marks
import Mathlib.Data.List.Infix

/-!
# No style is missed

* `Span.FirstAfter` — what stands in front of the first occurrence of a delimiter;
* `Span.LooksAt` — the places at which the search for styles looks for a delimiter;
* `Span.PlainAt` — the places of the text that end up in a span without style;
* `Span.misses_no_style` — a delimiter is left plain only where no text behind it can take its
  style.
-/

set_option autoImplicit false

namespace MessageTemplate.Span

/-! ## The next delimiter -/

/-- `inner` stands in front of the first occurrence of the delimiter. -/
structure FirstAfter (delimiter cs inner : List Char) : Prop where
  closed : inner ++ delimiter <+: cs
  first : ∀ k < inner.length, ¬ delimiter <+: cs.drop k

theorem firstAfter_of_upTo? {delimiter cs inner : List Char} (h : upTo? delimiter cs = some inner) :
    FirstAfter delimiter cs inner := by
  induction cs generalizing inner with
  | nil => cases h
  | cons c cs ih =>
    rw [upTo?] at h
    split at h
    · rename_i hfront
      cases h
      exact ⟨List.isPrefixOf_iff_prefix.mp hfront, fun k hk => absurd hk (Nat.not_lt_zero k)⟩
    · rename_i hfront
      obtain ⟨tail, htail, rfl⟩ := Option.map_eq_some_iff.mp h
      obtain ⟨hclosed, hfirst⟩ := ih htail
      refine ⟨List.cons_prefix_cons.mpr ⟨rfl, hclosed⟩, fun k hk => ?_⟩
      cases k with
      | zero => rwa [List.isPrefixOf_iff_prefix] at hfront
      | succ k => exact hfirst k (Nat.lt_of_succ_lt_succ hk)

theorem not_infix_of_upTo? {delimiter cs : List Char} (hne : delimiter ≠ [])
    (h : upTo? delimiter cs = none) : ¬ delimiter <:+: cs := by
  induction cs with
  | nil => exact fun hin => hne (List.infix_nil.mp hin)
  | cons c cs ih =>
    rw [upTo?] at h
    split at h
    · cases h
    · rename_i hfront
      rw [List.isPrefixOf_iff_prefix] at hfront
      rw [List.infix_cons_iff]
      exact not_or.mpr ⟨hfront, ih (Option.map_eq_none_iff.mp h)⟩

/-- **Nothing takes the style of a delimiter only if none follows, or the text up to the next one
may not take it.** -/
theorem unclosed_of_innerAtFront? {s : Style} {rest : List Char}
    (h : innerAtFront? s (s.delimiter ++ rest) = none) :
    ¬ s.delimiter <:+: rest ∨
      ∃ inner, FirstAfter s.delimiter rest inner ∧ s.admits inner = false := by
  rw [innerAtFront?, List.drop_left] at h
  cases hnext : upTo? s.delimiter rest with
  | none => exact .inl (not_infix_of_upTo? s.delimiter_ne_nil hnext)
  | some inner =>
    rw [hnext, Option.filter_eq_none_iff] at h
    exact .inr ⟨inner, firstAfter_of_upTo? hnext, Bool.eq_false_iff.mpr (h inner rfl)⟩

/-! ## Where the search looks -/

/-- The search looks for a delimiter at the front of the text, and then, from each place where it
looks, behind the one character there if there is no delimiter, behind the delimiter if nothing
takes its style, and behind the closing delimiter if a text does. -/
inductive LooksAt (cs : List Char) : Nat → Prop
  | front : LooksAt cs 0
  | character {p : Nat} : LooksAt cs p → p < cs.length → Style.atFront? (cs.drop p) = none →
      LooksAt cs (p + 1)
  | literal {p : Nat} {s : Style} : LooksAt cs p → Style.atFront? (cs.drop p) = some s →
      innerAtFront? s (cs.drop p) = none → LooksAt cs (p + s.delimiter.length)
  | styled {p : Nat} {s : Style} {inner : List Char} : LooksAt cs p →
      Style.atFront? (cs.drop p) = some s → innerAtFront? s (cs.drop p) = some inner →
      LooksAt cs (p + (2 * s.delimiter.length + inner.length))

/-- **The marks of the text behind a place where the search looks are marks of the whole text**, and
those before them are written with the characters before the place. -/
theorem LooksAt.marksFrom {cs : List Char} {p : Nat} (h : LooksAt cs p) :
    ∃ before, Span.marksFrom 0 cs = before ++ Span.marksFrom 0 (cs.drop p) ∧
      (before.flatMap Mark.written).length = p := by
  induction h with
  | front => exact ⟨[], rfl, rfl⟩
  | @character p _ hp hnone ih =>
    obtain ⟨before, hmarks, hlength⟩ := ih
    refine ⟨before ++ [.plain cs[p]], ?_, by simp [Mark.written, hlength]⟩
    rw [List.drop_eq_getElem_cons hp] at hmarks hnone
    rw [hmarks, marksFrom_character hnone, List.append_assoc, List.singleton_append]
  | @literal p s _ hs hnone ih =>
    obtain ⟨before, hmarks, hlength⟩ := ih
    refine ⟨before ++ s.delimiter.map .plain, ?_, ?_⟩
    · rw [hmarks, marksFrom_literal hs hnone, List.append_assoc, List.drop_drop]
    · rw [List.flatMap_append, List.length_append, hlength, List.flatMap_map]
      simp [Mark.written]
  | @styled p s inner _ hs hinner ih =>
    obtain ⟨before, hmarks, hlength⟩ := ih
    refine ⟨before ++ [.styled s inner], ?_, ?_⟩
    · rw [hmarks, marksFrom_styled hs hinner, List.append_assoc, List.singleton_append,
        List.drop_drop]
    · rw [List.flatMap_append, List.length_append, hlength, List.flatMap_singleton, Mark.written,
        List.length_append, List.length_append]
      omega

/-- Where the search looks in the text behind a place where it looks, it looks in the whole text. -/
theorem LooksAt.behind {cs : List Char} {p q : Nat} (hp : LooksAt cs p)
    (hq : LooksAt (cs.drop p) q) : LooksAt cs (p + q) := by
  induction hq with
  | front => exact hp
  | character _ hlt hnone ih =>
    rw [List.length_drop] at hlt
    rw [List.drop_drop] at hnone
    exact ih.character (by omega) hnone
  | literal _ hs hnone ih =>
    rw [List.drop_drop] at hs hnone
    rw [← Nat.add_assoc]
    exact ih.literal hs hnone
  | styled _ hs hinner ih =>
    rw [List.drop_drop] at hs hinner
    rw [← Nat.add_assoc]
    exact ih.styled hs hinner

/-- The search looks at every character that it leaves plain, but for backticks: three of them are
left plain at once. -/
theorem looksAt_of_plain {cs : List Char} {before after : List Mark} {d : Char}
    (hd : d ∉ Style.monospace.delimiter) (h : Span.marksFrom 0 cs = before ++ .plain d :: after) :
    LooksAt cs (before.flatMap Mark.written).length := by
  induction cs using search_induction generalizing before with
  | nil => simp [Span.marksFrom] at h
  | character c rest hfront ih =>
    rw [marksFrom_character hfront] at h
    cases before with
    | nil => exact .front
    | cons m before =>
      obtain ⟨rfl, hrest⟩ := List.cons.inj h
      have hnext : LooksAt (c :: rest) (0 + 1) := LooksAt.front.character (by simp) hfront
      rw [List.flatMap_cons, List.length_append]
      exact hnext.behind (ih hrest)
  | styled s inner cs hfront hinner ih =>
    rw [marksFrom_styled hfront hinner] at h
    cases before with
    | nil => cases (List.cons.inj h).1
    | cons m before =>
      obtain ⟨rfl, hrest⟩ := List.cons.inj h
      have hnext : LooksAt cs (0 + (2 * s.delimiter.length + inner.length)) :=
        LooksAt.front.styled hfront hinner
      have hlength : (Mark.styled s inner).written.length =
          0 + (2 * s.delimiter.length + inner.length) := by
        simp only [Mark.written, List.length_append]
        omega
      rw [List.flatMap_cons, List.length_append, hlength]
      exact hnext.behind (by rw [Nat.zero_add]; exact ih hrest)
  | literal s cs hfront hnone ih =>
    rw [marksFrom_literal hfront hnone] at h
    have hnext : LooksAt cs (0 + s.delimiter.length) := LooksAt.front.literal hfront hnone
    rw [Nat.zero_add] at hnext
    have hwritten : ((s.delimiter.map Mark.plain).flatMap Mark.written).length =
        s.delimiter.length := by
      simp [List.flatMap_map, Mark.written]
    rcases List.append_eq_append_iff.mp h with ⟨more, rfl, hmore⟩ | ⟨more, hmore, htail⟩
    · rw [List.flatMap_append, List.length_append, hwritten]
      exact hnext.behind (ih hmore)
    · cases more with
      | nil =>
        rw [List.append_nil] at hmore
        rw [← hmore, hwritten]
        exact hnext
      | cons m more =>
        -- The character is one of the delimiter, which has no other.
        obtain ⟨rfl, _⟩ := List.cons.inj htail
        have hmem : d ∈ s.delimiter := by
          have : Mark.plain d ∈ s.delimiter.map Mark.plain := by
            rw [hmore]
            exact List.mem_append_right _ List.mem_cons_self
          simpa using this
        have hsingle : s.delimiter.length = 1 := by
          cases s with
          | monospace => exact absurd hmem hd
          | _ => rfl
        have hlength := congrArg List.length hmore
        rw [List.length_map, hsingle, List.length_append, List.length_cons] at hlength
        obtain rfl : before = [] := List.length_eq_zero_iff.mp (by omega)
        exact .front

/-! ## What is left plain -/

/-- The character of the text behind its first `p` characters ends up in a span without style. -/
def PlainAt (text : String) (p : Nat) : Prop :=
  ∃ before span after, ofText text = before ++ span :: after ∧ span.style = none ∧
    (before.flatMap written).length ≤ p ∧
    p < (before.flatMap written).length + span.text.length

/-- A character in a span without style is a mark of its own. -/
theorem PlainAt.mark {text : String} {p : Nat} (h : PlainAt text p) :
    ∃ before c after, marksFrom 0 text.toList = before ++ .plain c :: after ∧
      (before.flatMap Mark.written).length = p := by
  obtain ⟨before, span, after, hspans, hstyle, hle, hlt⟩ := h
  obtain ⟨k, rfl⟩ := Nat.exists_eq_add_of_le hle
  have hk : k < span.text.toList.length := by
    rw [String.length_toList]
    omega
  have hspan : span.marks = (span.text.toList.take k).map .plain ++
      .plain span.text.toList[k] :: (span.text.toList.drop (k + 1)).map .plain := by
    rw [marks, hstyle, ← List.map_cons, ← List.map_append, ← List.drop_eq_getElem_cons hk,
      List.take_append_drop]
  refine ⟨before.flatMap marks ++ (span.text.toList.take k).map .plain, span.text.toList[k],
    (span.text.toList.drop (k + 1)).map .plain ++ after.flatMap marks, ?_, ?_⟩
  · rw [← ofText_marks, hspans, List.flatMap_append, List.flatMap_cons, hspan]
    simp only [List.append_assoc, List.cons_append]
  · have hbefore : (before.flatMap marks).flatMap Mark.written = before.flatMap written := by
      rw [List.flatMap_assoc]
      simp only [marks_written]
    have htaken : ((span.text.toList.take k).map Mark.plain).flatMap Mark.written =
        span.text.toList.take k := by
      rw [List.flatMap_map]
      exact List.flatMap_singleton' _
    rw [List.flatMap_append, hbefore, htaken, List.length_append, List.length_take_of_le hk.le]

theorem getElem?_of_marksFrom {cs : List Char} {before after : List Mark} {c : Char}
    (h : marksFrom 0 cs = before ++ .plain c :: after) :
    cs[(before.flatMap Mark.written).length]? = some c := by
  have hwritten := marksFrom_written 0 cs
  rw [h, List.flatMap_append, List.drop_zero] at hwritten
  rw [← hwritten, List.getElem?_append_right le_rfl, Nat.sub_self]
  rfl

theorem Mark.written_ne_nil (m : Mark) : m.written ≠ [] := by
  cases m with
  | plain c => exact List.cons_ne_nil c []
  | styled s inner => simp [Mark.written, s.delimiter_ne_nil]

/-- Marks at the same place of a text are the same. -/
theorem mark_unique {before before' after after' : List Mark} {m m' : Mark}
    (h : before ++ m :: after = before' ++ m' :: after')
    (hlength : (before.flatMap Mark.written).length = (before'.flatMap Mark.written).length) :
    m = m' := by
  have hnone : ∀ {front more : List Mark},
      ((front ++ more).flatMap Mark.written).length = (front.flatMap Mark.written).length →
        more = [] := by
    intro front more hlength
    rw [List.flatMap_append, List.length_append, Nat.add_eq_left, List.length_eq_zero_iff,
      List.flatMap_eq_nil_iff] at hlength
    exact List.eq_nil_iff_forall_not_mem.mpr fun m hm => m.written_ne_nil (hlength m hm)
  rcases List.append_eq_append_iff.mp h with ⟨more, rfl, hmore⟩ | ⟨more, rfl, hmore⟩
  · obtain rfl := hnone hlength.symm
    exact (List.cons.inj hmore).1
  · obtain rfl := hnone hlength
    exact (List.cons.inj hmore).1.symm

theorem admits_eq_false {s : Style} {inner : List Char} (h : s.admits inner = false) :
    inner = [] ∨ s = .monospace ∧ '\x60' ∈ inner := by
  rw [Style.admits, Bool.and_eq_false_iff] at h
  rcases h with hempty | htick
  · simp only [Bool.not_eq_false', List.isEmpty_iff] at hempty
    exact .inl hempty
  · simp only [Bool.not_eq_false', Bool.and_eq_true, beq_iff_eq, List.contains_iff_mem] at htick
    exact .inr htick

/-- Where the search looks and finds a delimiter that is left plain, nothing behind takes its
style. -/
theorem LooksAt.innerAtFront?_of_plainAt {text : String} {p : Nat} {s : Style}
    (h : LooksAt text.toList p) (hs : Style.atFront? (text.toList.drop p) = some s)
    (hplain : PlainAt text p) : innerAtFront? s (text.toList.drop p) = none := by
  obtain ⟨before, c, after, hmarks, hlength⟩ := hplain.mark
  obtain ⟨before', hmarks', hlength'⟩ := h.marksFrom
  cases hinner : innerAtFront? s (text.toList.drop p) with
  | none => rfl
  | some inner =>
    rw [marksFrom_styled hs hinner, hmarks] at hmarks'
    cases mark_unique hmarks' (hlength.trans hlength'.symm)

/-- **Where the search looks and finds a delimiter that is left plain, no such delimiter follows, or
the text up to the next one may not take its style.** -/
theorem PlainAt.not_closed {text : String} {p : Nat} {s : Style} (h : PlainAt text p)
    (hlook : LooksAt text.toList p) (hs : s.delimiter <+: text.toList.drop p) :
    ¬ s.delimiter <:+: text.toList.drop (p + s.delimiter.length) ∨
      ∃ inner, FirstAfter s.delimiter (text.toList.drop (p + s.delimiter.length)) inner ∧
        s.admits inner = false := by
  have hnone := hlook.innerAtFront?_of_plainAt (atFront?_of_delimiter hs) h
  obtain ⟨rest, hrest⟩ := hs
  have hbehind : text.toList.drop (p + s.delimiter.length) = rest := by
    rw [← List.drop_drop, ← hrest, List.drop_left]
  rw [← hrest] at hnone
  rw [hbehind]
  exact unclosed_of_innerAtFront? hnone

/-- A delimiter of one character that ends up in a span without style does not occur again behind,
or occurs again at once. -/
theorem PlainAt.not_closed_character {text : String} {p : Nat} {s : Style} {d : Char}
    (h : PlainAt text p) (hs : s.delimiter = [d]) (hd : text.toList[p]? = some d) :
    d ∉ text.toList.drop (p + 1) ∨ text.toList[p + 1]? = some d := by
  obtain ⟨hp, hget⟩ := List.getElem?_eq_some_iff.mp hd
  have hfront : s.delimiter <+: text.toList.drop p := by
    rw [hs, List.drop_eq_getElem_cons hp, hget]
    exact List.prefix_append [d] _
  have hlook : LooksAt text.toList p := by
    obtain ⟨before, c, after, hmarks, rfl⟩ := h.mark
    obtain rfl : c = d := Option.some.inj ((getElem?_of_marksFrom hmarks).symm.trans hd)
    refine looksAt_of_plain (fun htick => ?_) hmarks
    cases s <;> cases hs <;> exact absurd htick (by decide)
  have hnot := h.not_closed hlook hfront
  rw [hs] at hnot
  rcases hnot with hnever | ⟨inner, ⟨hclosed, _⟩, hadmits⟩
  · rw [List.singleton_infix_iff] at hnever
    exact .inl hnever
  · rcases admits_eq_false hadmits with rfl | ⟨rfl, _⟩
    · rw [← List.head?_drop]
      obtain ⟨rest, hrest⟩ := hclosed
      exact .inr (by rw [List.length_singleton] at hrest; rw [← hrest]; rfl)
    · cases hs

/-- **No style is missed.** A `*`, `_` or `~` that ends up in a span without style does not occur
again behind, or occurs again at once; and where the search looks and finds three backticks that end
up in a span without style, no three backticks follow, or the text up to the next ones is empty or
has a backtick. -/
theorem misses_no_style {text : String} {p : Nat} (hplain : PlainAt text p) :
    (∀ d ∈ ['*', '_', '~'], text.toList[p]? = some d →
      d ∉ text.toList.drop (p + 1) ∨ text.toList[p + 1]? = some d) ∧
    (LooksAt text.toList p → Style.monospace.delimiter <+: text.toList.drop p →
      ¬ Style.monospace.delimiter <:+: text.toList.drop (p + 3) ∨
        ∃ inner, FirstAfter Style.monospace.delimiter (text.toList.drop (p + 3)) inner ∧
          (inner = [] ∨ '\x60' ∈ inner)) := by
  constructor
  · intro d hd hp
    obtain ⟨s, hs⟩ : ∃ s : Style, s.delimiter = [d] := by
      simp only [List.mem_cons, List.not_mem_nil, or_false] at hd
      rcases hd with rfl | rfl | rfl
      · exact ⟨.bold, rfl⟩
      · exact ⟨.italic, rfl⟩
      · exact ⟨.strikethrough, rfl⟩
    exact hplain.not_closed_character hs hp
  · intro hlook hticks
    refine (hplain.not_closed hlook hticks).imp_right ?_
    rintro ⟨inner, hfirst, hadmits⟩
    exact ⟨inner, hfirst, (admits_eq_false hadmits).imp_right And.right⟩

/-- A text with a backtick between three backticks and the next three, and with one asterisk. -/
def unclosedText : String := "\x60\x60\x60a\x60b\x60\x60\x60 *c"

theorem unclosedText_plainAt {p : Nat} (hp : p < 12) : PlainAt unclosedText p := by
  refine ⟨[], ⟨unclosedText, none⟩, [], by decide +kernel, rfl, Nat.zero_le p, ?_⟩
  have hlength : unclosedText.length = 12 := by decide +kernel
  simpa [hlength] using hp

/-- The asterisk and the backticks at the front are left plain. -/
theorem misses_no_style_unclosed :
    PlainAt unclosedText 10 ∧
      ('*' ∉ unclosedText.toList.drop 11 ∨ unclosedText.toList[11]? = some '*') ∧
      PlainAt unclosedText 0 ∧
      (¬ Style.monospace.delimiter <:+: unclosedText.toList.drop 3 ∨
        ∃ inner, FirstAfter Style.monospace.delimiter (unclosedText.toList.drop 3) inner ∧
          (inner = [] ∨ '\x60' ∈ inner)) := by
  have hasterisk : PlainAt unclosedText 10 := unclosedText_plainAt (by decide)
  have hfront : PlainAt unclosedText 0 := unclosedText_plainAt (by decide)
  have hticks : Style.monospace.delimiter <+: unclosedText.toList.drop 0 :=
    List.isPrefixOf_iff_prefix.mp (by decide +kernel)
  exact ⟨hasterisk, (misses_no_style hasterisk).1 '*' (by decide) (by decide +kernel), hfront,
    (misses_no_style hfront).2 .front hticks⟩

end MessageTemplate.Span
