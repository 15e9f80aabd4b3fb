import MessageTemplate.Span
import Mathlib.Data.List.Chain

/-!
# Spans as a normal form of a text

* `Span.written` — a span as it stood in the text, between the delimiters of its style;
* `Span.Normal`, `Span.Apart` — a span that is not empty and holds no delimiter of its own, and
  neighbours of which one has a style;
* `Span.ofText_normal` — the spans of a text are written as that text, and are in normal form.

The marks come first: they are found from left to right, and each takes up the characters that it is
written with. Spans only join the plain ones.
-/

set_option autoImplicit false

namespace MessageTemplate

/-! ## Delimiters -/

namespace Style

theorem delimiter_ne_nil (s : Style) : s.delimiter ≠ [] := by
  cases s <;> decide

/-- The style whose delimiter stands at the front of a text is found there. -/
theorem delimiter_of_atFront? {s : Style} {cs : List Char} (h : atFront? cs = some s) :
    ∃ rest, cs = s.delimiter ++ rest := by
  have hfront := List.find?_some h
  obtain ⟨rest, hrest⟩ := List.isPrefixOf_iff_prefix.mp hfront
  exact ⟨rest, hrest.symm⟩

end Style

namespace Span

/-- The text in front of a delimiter is followed by it. -/
theorem append_of_upTo? {delimiter cs inner : List Char} (h : upTo? delimiter cs = some inner) :
    ∃ rest, cs = inner ++ delimiter ++ rest := by
  induction cs generalizing inner with
  | nil => cases h
  | cons c cs ih =>
    rw [upTo?] at h
    split at h
    · rename_i hfront
      cases h
      obtain ⟨rest, hrest⟩ := List.isPrefixOf_iff_prefix.mp hfront
      exact ⟨rest, hrest.symm⟩
    · obtain ⟨tail, htail, rfl⟩ := Option.map_eq_some_iff.mp h
      obtain ⟨rest, rfl⟩ := ih htail
      exact ⟨rest, rfl⟩

/-- The text in front of a delimiter of one character is free of it. -/
theorem not_mem_of_upTo? {c : Char} {cs inner : List Char} (h : upTo? [c] cs = some inner) :
    c ∉ inner := by
  induction cs generalizing inner with
  | nil => cases h
  | cons d cs ih =>
    rw [upTo?] at h
    split at h
    · cases h
      exact List.not_mem_nil
    · rename_i hfront
      obtain ⟨tail, htail, rfl⟩ := Option.map_eq_some_iff.mp h
      have hne : c ≠ d := by simpa using hfront
      simp [hne, ih htail]

/-! ## Marks -/

namespace Mark

/-- A mark as it stands in the text. -/
def written : Mark → List Char
  | .plain c => [c]
  | .styled s inner => s.delimiter ++ inner ++ s.delimiter

/-- A styled text is not empty, and holds no character of its delimiter. -/
def Normal : Mark → Prop
  | .plain _ => True
  | .styled s inner => inner ≠ [] ∧ ∀ c ∈ s.delimiter, c ∉ inner

end Mark

/-- What takes a style stands between two delimiters, and has none of their characters. -/
theorem styled_of_innerAtFront? {s : Style} {cs inner : List Char} (h : Style.atFront? cs = some s)
    (hinner : innerAtFront? s cs = some inner) :
    (∃ rest, cs = (Mark.styled s inner).written ++ rest) ∧ (Mark.styled s inner).Normal := by
  obtain ⟨tail, rfl⟩ := Style.delimiter_of_atFront? h
  obtain ⟨hupTo, hadmits⟩ := Option.filter_eq_some_iff.mp hinner
  rw [List.drop_left] at hupTo
  have hplace : ∃ rest, s.delimiter ++ tail = (Mark.styled s inner).written ++ rest := by
    obtain ⟨rest, rfl⟩ := append_of_upTo? hupTo
    exact ⟨rest, by simp [Mark.written]⟩
  refine ⟨hplace, ?_, ?_⟩
  · rintro rfl
    cases hadmits
  · cases s with
    | monospace =>
      obtain ⟨_, htick⟩ : inner ≠ [] ∧ '\x60' ∉ inner := by simpa [Style.admits] using hadmits
      simpa [Style.delimiter] using htick
    | _ => simpa [Style.delimiter] using not_mem_of_upTo? hupTo

/-- Behind the first character of a text, one character less of its front is left. -/
theorem drop_of_cons {c : Char} {rest front tail : List Char} (h : c :: rest = front ++ tail)
    (hne : front ≠ []) : rest.drop (front.length - 1) = tail := by
  cases front with
  | nil => exact absurd rfl hne
  | cons _ front =>
    obtain ⟨_, rfl⟩ := List.cons.inj h
    exact List.drop_left

/-- **Marks take up the text**, each with the characters that it is written with. -/
theorem marksFrom_written (skip : Nat) (cs : List Char) :
    (marksFrom skip cs).flatMap Mark.written = cs.drop skip := by
  induction cs generalizing skip with
  | nil => cases skip <;> rfl
  | cons c rest ih =>
    cases skip with
    | succ skip => exact ih skip
    | zero =>
      rw [marksFrom]
      split
      · simp [Mark.written, ih]
      · rename_i s hs
        have hne := s.delimiter_ne_nil
        split
        · rename_i inner hinner
          obtain ⟨⟨tail, htail⟩, _⟩ := styled_of_innerAtFront? hs hinner
          have hlength : (Mark.styled s inner).written.length =
              2 * s.delimiter.length + inner.length := by
            simp only [Mark.written, List.length_append]
            omega
          have hrest := drop_of_cons htail (by simp [Mark.written, hne])
          rw [hlength] at hrest
          rw [List.flatMap_cons, ih, hrest, List.drop_zero, htail]
        · obtain ⟨tail, htail⟩ := Style.delimiter_of_atFront? hs
          have hplain : (s.delimiter.map Mark.plain).flatMap Mark.written = s.delimiter := by
            simp [List.flatMap_map, Mark.written]
          rw [List.flatMap_append, ih, drop_of_cons htail hne, hplain, List.drop_zero, htail]

theorem marksFrom_normal {skip : Nat} {cs : List Char} {m : Mark} (h : m ∈ marksFrom skip cs) :
    m.Normal := by
  induction cs generalizing skip with
  | nil => cases skip <;> cases h
  | cons c rest ih =>
    cases skip with
    | succ skip => exact ih h
    | zero =>
      rw [marksFrom] at h
      split at h
      · rcases List.mem_cons.mp h with rfl | h
        · trivial
        · exact ih h
      · rename_i s hs
        split at h
        · rename_i inner hinner
          rcases List.mem_cons.mp h with rfl | h
          · exact (styled_of_innerAtFront? hs hinner).2
          · exact ih h
        · rcases List.mem_append.mp h with h | h
          · obtain ⟨c, _, rfl⟩ := List.mem_map.mp h
            trivial
          · exact ih h

/-! ## Spans -/

/-- A span as it stands in the text: between two delimiters if it has a style. -/
def written (s : Span) : List Char :=
  match s.style with
  | some style => style.delimiter ++ s.text.toList ++ style.delimiter
  | none => s.text.toList

/-- A span that is not empty, and holds no character of its own delimiter. -/
structure Normal (s : Span) : Prop where
  nonempty : s.text ≠ ""
  closed : ∀ style ∈ s.style, ∀ c ∈ style.delimiter, c ∉ s.text.toList

/-- Neighbours of which one has a style. -/
def Apart (s s' : Span) : Prop := s.style ≠ none ∨ s'.style ≠ none

theorem flush_written (collected : List Char) :
    (flush collected).flatMap written = collected.reverse := by
  unfold flush
  split
  · rename_i hnone
    rw [List.isEmpty_iff.mp hnone]
    rfl
  · simp [written]

theorem flush_normal {collected : List Char} {s : Span} (h : s ∈ flush collected) : s.Normal := by
  unfold flush at h
  split at h
  · cases h
  · rename_i hsome
    rw [List.mem_singleton] at h
    subst h
    refine ⟨?_, nofun⟩
    intro hempty
    have hnil : collected = [] := by simpa using congrArg String.toList hempty
    exact hsome (List.isEmpty_iff.mpr hnil)

theorem collect_written (collected : List Char) (marks : List Mark) :
    (collect collected marks).flatMap written =
      collected.reverse ++ marks.flatMap Mark.written := by
  induction marks generalizing collected with
  | nil => simp [collect, flush_written]
  | cons m marks ih =>
    cases m with
    | plain c => simp [collect, ih, Mark.written]
    | styled s inner => simp [collect, ih, Mark.written, flush_written, written]

theorem collect_normal {collected : List Char} {marks : List Mark} (hmarks : ∀ m ∈ marks, m.Normal)
    {s : Span} (h : s ∈ collect collected marks) : s.Normal := by
  induction marks generalizing collected with
  | nil => exact flush_normal h
  | cons m marks ih =>
    obtain ⟨hm, hrest⟩ := List.forall_mem_cons.mp hmarks
    cases m with
    | plain c => exact ih hrest h
    | styled style inner =>
      rcases List.mem_append.mp h with h | h
      · exact flush_normal h
      · rcases List.mem_cons.mp h with rfl | h
        · obtain ⟨hne, hclosed⟩ := hm
          refine ⟨fun hempty => hne (by simpa using congrArg String.toList hempty), ?_⟩
          rintro _ ⟨⟩
          simpa using hclosed
        · exact ih hrest h

/-- Characters are collected up to the next styled span, so that it stands between any two spans
without a style. -/
theorem collect_apart (collected : List Char) (marks : List Mark) :
    (collect collected marks).IsChain Apart := by
  induction marks generalizing collected with
  | nil =>
    rw [collect, flush]
    split
    · exact List.IsChain.nil
    · exact List.IsChain.singleton _
  | cons m marks ih =>
    cases m with
    | plain c => exact ih (c :: collected)
    | styled s inner =>
      have hstyled : List.IsChain Apart (⟨String.ofList inner, some s⟩ :: collect [] marks) :=
        List.isChain_cons.mpr ⟨fun _ _ => .inl nofun, ih []⟩
      rw [collect, flush]
      split
      · exact hstyled
      · exact List.IsChain.cons_cons (.inr nofun) hstyled

/-- **The spans of a text are a normal form of it.** Written one after another, with the delimiters
of their styles, they are the text; no span is empty or holds a character of its own delimiter, and
no two neighbours are without style. -/
theorem ofText_normal (text : String) :
    String.ofList ((ofText text).flatMap written) = text ∧
      (∀ s ∈ ofText text, s.Normal) ∧ (ofText text).IsChain Apart := by
  refine ⟨?_, ?_, collect_apart _ _⟩
  · unfold ofText
    rw [collect_written, marksFrom_written]
    simp
  · intro s hs
    exact collect_normal (fun m hm => marksFrom_normal hm) hs

/-- Delimiters that overlap, that enclose nothing and that are never closed are plain. -/
example : ofText "**a* \x60\x60\x60\x60b\x60\x60\x60 _c" =
    [⟨"*", none⟩, ⟨"a", some .bold⟩, ⟨" \x60\x60\x60\x60b\x60\x60\x60 _c", none⟩] := by
  decide +kernel

end Span

end MessageTemplate
