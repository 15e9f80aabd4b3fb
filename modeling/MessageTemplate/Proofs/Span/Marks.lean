import MessageTemplate.Proofs.Span.NormalForm

/-!
# Spans and their marks

* `Span.marksFrom_character`, `Span.marksFrom_literal`, `Span.marksFrom_styled` — what the search
  for styles makes of the front of a text, one equation for each of its turns;
* `Span.search_induction` — induction on a text by these turns;
* `Span.marks` — the marks that a span is made of;
* `Span.ofText_marks` — the spans of a text are made of its marks.
-/

set_option autoImplicit false

namespace MessageTemplate.Span

/-! ## The turns of the search -/

theorem marksFrom_drop (skip : Nat) (cs : List Char) :
    marksFrom skip cs = marksFrom 0 (cs.drop skip) := by
  induction cs generalizing skip with
  | nil => cases skip <;> rfl
  | cons c rest ih =>
    cases skip with
    | zero => rfl
    | succ skip => exact ih skip

theorem ne_nil_of_atFront? {s : Style} {cs : List Char} (h : Style.atFront? cs = some s) :
    cs ≠ [] := by
  obtain ⟨rest, rfl⟩ := Style.delimiter_of_atFront? h
  exact List.append_ne_nil_of_left_ne_nil s.delimiter_ne_nil rest

theorem marksFrom_character {c : Char} {rest : List Char}
    (h : Style.atFront? (c :: rest) = none) :
    marksFrom 0 (c :: rest) = .plain c :: marksFrom 0 rest := by
  rw [marksFrom, h]

theorem marksFrom_literal {s : Style} {cs : List Char} (hs : Style.atFront? cs = some s)
    (h : innerAtFront? s cs = none) :
    marksFrom 0 cs = s.delimiter.map .plain ++ marksFrom 0 (cs.drop s.delimiter.length) := by
  obtain ⟨c, rest, rfl⟩ := List.exists_cons_of_ne_nil (ne_nil_of_atFront? hs)
  obtain ⟨n, hn⟩ := Nat.exists_eq_add_one.mpr (List.length_pos_iff.mpr s.delimiter_ne_nil)
  rw [marksFrom, hs]
  simp only [h]
  rw [marksFrom_drop, hn]
  rfl

theorem marksFrom_styled {s : Style} {cs inner : List Char} (hs : Style.atFront? cs = some s)
    (h : innerAtFront? s cs = some inner) :
    marksFrom 0 cs =
      .styled s inner :: marksFrom 0 (cs.drop (2 * s.delimiter.length + inner.length)) := by
  obtain ⟨c, rest, rfl⟩ := List.exists_cons_of_ne_nil (ne_nil_of_atFront? hs)
  have hpos := List.length_pos_iff.mpr s.delimiter_ne_nil
  obtain ⟨n, hn⟩ := Nat.exists_eq_add_one.mpr
    (show 0 < 2 * s.delimiter.length + inner.length by omega)
  rw [marksFrom, hs]
  simp only [h]
  rw [marksFrom_drop, hn]
  rfl

/-- The delimiter of a style is found where it stands: no two begin alike. -/
theorem atFront?_of_delimiter {s : Style} {cs : List Char} (h : s.delimiter <+: cs) :
    Style.atFront? cs = some s := by
  obtain ⟨rest, rfl⟩ := h
  cases s <;> rfl

/-- Induction on a text by the turns of the search: a character that is no delimiter, a delimiter
that nothing takes the style of, and a text that takes one. -/
theorem search_induction {P : List Char → Prop} (nil : P [])
    (character : ∀ c rest, Style.atFront? (c :: rest) = none → P rest → P (c :: rest))
    (literal : ∀ s cs, Style.atFront? cs = some s → innerAtFront? s cs = none →
      P (cs.drop s.delimiter.length) → P cs)
    (styled : ∀ s inner cs, Style.atFront? cs = some s → innerAtFront? s cs = some inner →
      P (cs.drop (2 * s.delimiter.length + inner.length)) → P cs)
    (cs : List Char) : P cs := by
  induction hn : cs.length using Nat.strong_induction_on generalizing cs with
  | _ n ih =>
    have hshorter : ∀ k, 0 < k → cs ≠ [] → P (cs.drop k) := by
      intro k hk hne
      have hpos := List.length_pos_iff.mpr hne
      refine ih (cs.drop k).length ?_ _ rfl
      rw [List.length_drop]
      omega
    cases hfront : Style.atFront? cs with
    | none =>
      cases cs with
      | nil => exact nil
      | cons c rest =>
        exact character c rest hfront (hshorter 1 Nat.one_pos (List.cons_ne_nil c rest))
    | some s =>
      have hne := ne_nil_of_atFront? hfront
      have hpos := List.length_pos_iff.mpr s.delimiter_ne_nil
      cases hinner : innerAtFront? s cs with
      | none => exact literal s cs hfront hinner (hshorter _ hpos hne)
      | some inner => exact styled s inner cs hfront hinner (hshorter _ (by omega) hne)

/-! ## Spans -/

/-- The marks that a span is made of. -/
def marks (s : Span) : List Mark :=
  match s.style with
  | some style => [.styled style s.text.toList]
  | none => s.text.toList.map .plain

theorem marks_written (s : Span) : s.marks.flatMap Mark.written = s.written := by
  unfold marks written
  cases s.style with
  | none => simp [List.flatMap_map, Mark.written]
  | some style => simp [Mark.written]

theorem flush_marks (collected : List Char) :
    (flush collected).flatMap marks = collected.reverse.map .plain := by
  unfold flush
  split
  · rename_i hnone
    rw [List.isEmpty_iff.mp hnone]
    rfl
  · simp [marks]

/-- **Spans are made of the marks that they are collected from.** -/
theorem collect_marks (collected : List Char) (ms : List Mark) :
    (collect collected ms).flatMap marks = collected.reverse.map .plain ++ ms := by
  induction ms generalizing collected with
  | nil => simp [collect, flush_marks]
  | cons m ms ih =>
    cases m with
    | plain c => simp [collect, ih]
    | styled s inner => simp [collect, ih, flush_marks, marks]

/-- The spans of a text are made of its marks. -/
theorem ofText_marks (text : String) : (ofText text).flatMap marks = marksFrom 0 text.toList :=
  collect_marks [] _

end MessageTemplate.Span
