import MessageTemplate.Proofs.Span.Marks

/-!
# Markup of spans

* `Span.Lexeme` — a character, an opening or a closing tag, each with the way it is written;
* `Span.tagsIn` — the tags that stand in markup, from left to right;
* `Span.ofHtml?` — the spans that markup shows, read back from it;
* `Span.Alike` — spans that differ only in how text without style is cut into pieces;
* `Span.html_faithful` — markup has no tags but those of the styles, and shows spans up to `Alike`.
-/

set_option autoImplicit false

namespace MessageTemplate.Span

/-! ## Lexemes -/

/-- What markup is made of. -/
inductive Lexeme where
  | character (c : Char)
  | opening (s : Style)
  | closing (s : Style)
  deriving DecidableEq, Repr

namespace Lexeme

/-- A lexeme as it is written. -/
def written : Lexeme → List Char
  | .character c => escapeChar c
  | .opening s => ("<" ++ s.element ++ ">").toList
  | .closing s => ("</" ++ s.element ++ ">").toList

/-- The opening and the closing tags. -/
def tags : List Lexeme :=
  Style.all.map .opening ++ Style.all.map .closing

/-- The characters that are not written as they are. -/
def escapes : List Lexeme :=
  ['&', '<', '>', '"', '\'', '\n'].map .character

/-- The lexemes that are written with more than one character. -/
def long : List Lexeme :=
  escapes ++ tags

/-- Whether a lexeme stands at the front of a text. -/
def standsAt (cs : List Char) (l : Lexeme) : Bool :=
  l.written.isPrefixOf cs

/-- The lexeme at the front of markup; a character that begins a long lexeme begins nothing else. -/
def atFront? (cs : List Char) : Option Lexeme :=
  match long.find? (standsAt cs) with
  | some l => some l
  | none => (cs.head?.filter fun c => c != '<' && c != '&').map .character

theorem not_mem_tags_iff {l : Lexeme} : l ∉ tags ↔ ∃ c, l = .character c := by
  cases l with
  | character c => simp [tags]
  | opening s => cases s <;> simp [tags, Style.all]
  | closing s => cases s <;> simp [tags, Style.all]

/-- A lexeme that is not long is a character that is written as it is. -/
theorem written_of_short {l : Lexeme} (h : l ∉ long) :
    ∃ c, l = .character c ∧ l.written = [c] ∧ c ≠ '<' ∧ c ≠ '&' := by
  rw [long, List.mem_append, not_or] at h
  obtain ⟨hescape, htag⟩ := h
  obtain ⟨c, rfl⟩ := not_mem_tags_iff.mp htag
  have hnot : c ∉ ['&', '<', '>', '"', '\'', '\n'] := fun hc =>
    hescape (List.mem_map_of_mem hc)
  simp only [List.mem_cons, List.not_mem_nil, or_false, not_or] at hnot
  refine ⟨c, rfl, ?_, hnot.2.1, hnot.1⟩
  unfold written escapeChar
  split <;> simp_all

/-- No long lexeme begins another. -/
theorem long_prefixFree : ∀ l ∈ long, ∀ l' ∈ long, l.written <+: l'.written → l = l' := by
  simp only [← List.isPrefixOf_iff_prefix]
  decide +kernel

/-- A long lexeme begins with `<` or `&`, and has none of them behind. -/
theorem long_written : ∀ l ∈ long,
    (l.written.head? = some '<' ∨ l.written.head? = some '&') ∧
      '<' ∉ l.written.tail ∧ '&' ∉ l.written.tail := by
  decide +kernel

theorem written_ne_nil (l : Lexeme) : l.written ≠ [] := by
  by_cases h : l ∈ long
  · intro hnil
    have hhead := (long_written l h).1
    rw [hnil] at hhead
    simp at hhead
  · obtain ⟨c, _, hwritten, _⟩ := written_of_short h
    rw [hwritten]
    exact List.cons_ne_nil c []

/-- A long lexeme in front of a text is found among those that are looked for, and no other is. -/
theorem find?_written {table : List Lexeme} (htable : table ⊆ long) {l : Lexeme} (hl : l ∈ long)
    (rest : List Char) :
    table.find? (standsAt (l.written ++ rest)) = if l ∈ table then some l else none := by
  have honly : ∀ m ∈ table, standsAt (l.written ++ rest) m = true → m = l := by
    intro m hm hstands
    have hm' := List.isPrefixOf_iff_prefix.mp hstands
    rcases List.prefix_or_prefix_of_prefix hm' (List.prefix_append l.written rest) with h | h
    · exact long_prefixFree m (htable hm) l hl h
    · exact (long_prefixFree l hl m (htable hm) h).symm
  cases hfind : table.find? (standsAt (l.written ++ rest)) with
  | some m =>
    obtain rfl := honly m (List.mem_of_find?_eq_some hfind) (List.find?_some hfind)
    rw [if_pos (List.mem_of_find?_eq_some hfind)]
  | none =>
    rw [if_neg]
    intro hmem
    refine List.find?_eq_none.mp hfind l hmem ?_
    exact List.isPrefixOf_iff_prefix.mpr (List.prefix_append l.written rest)

/-- Where neither `<` nor `&` stands, no long lexeme does. -/
theorem find?_of_short {table : List Lexeme} (htable : table ⊆ long) {c : Char} (hopen : c ≠ '<')
    (hand : c ≠ '&') (rest : List Char) : table.find? (standsAt (c :: rest)) = none := by
  rw [List.find?_eq_none]
  intro l hl hstands
  obtain ⟨behind, hbehind⟩ := List.isPrefixOf_iff_prefix.mp hstands
  have hhead : l.written.head? = some c := by
    obtain ⟨d, ds, hd⟩ := List.exists_cons_of_ne_nil l.written_ne_nil
    rw [hd] at hbehind ⊢
    rw [(List.cons.inj hbehind).1]
    rfl
  rcases (long_written l (htable hl)).1 with h | h
  · exact hopen (Option.some.inj (hhead.symm.trans h))
  · exact hand (Option.some.inj (hhead.symm.trans h))

theorem atFront?_written (l : Lexeme) (rest : List Char) :
    atFront? (l.written ++ rest) = some l := by
  unfold atFront?
  by_cases h : l ∈ long
  · rw [find?_written (List.Subset.refl long) h, if_pos h]
  · obtain ⟨c, rfl, hwritten, hopen, hand⟩ := written_of_short h
    rw [hwritten, List.singleton_append, find?_of_short (List.Subset.refl long) hopen hand]
    simp [hopen, hand]

end Lexeme

/-! ## Markup and its lexemes -/

/-- The lexemes of a span: its characters, between the tags of its style if it has one. -/
def lexemes (s : Span) : List Lexeme :=
  match s.style with
  | some style => .opening style :: s.text.toList.map .character ++ [.closing style]
  | none => s.text.toList.map .character

theorem markup_toList (s : Span) : s.markup.toList = s.lexemes.flatMap Lexeme.written := by
  unfold markup lexemes escaped
  cases s.style with
  | none => simp [List.flatMap_map, Lexeme.written]
  | some style => simp [List.flatMap_map, Lexeme.written]

theorem html_toList (spans : List Span) :
    (html spans).toList = (spans.flatMap lexemes).flatMap Lexeme.written := by
  rw [html, String.toList_join, List.flatMap_map, List.flatMap_assoc]
  simp only [markup_toList]

/-! ## What stands in markup -/

/-- Only the first character of a long lexeme is a `<` or `&`. -/
theorem Lexeme.long_of_getElem? {l : Lexeme} {k : Nat} {c : Char} (hc : c = '<' ∨ c = '&')
    (h : l.written[k]? = some c) : l ∈ long ∧ k = 0 := by
  by_cases hl : l ∈ long
  · refine ⟨hl, ?_⟩
    cases k with
    | zero => rfl
    | succ k =>
      have htail : c ∈ l.written.tail := by
        rw [← List.getElem?_tail] at h
        exact List.mem_of_getElem? h
      obtain ⟨_, hopen, hand⟩ := long_written l hl
      rcases hc with rfl | rfl
      · exact absurd htail hopen
      · exact absurd htail hand
  · obtain ⟨d, _, hwritten, hopen, hand⟩ := written_of_short hl
    rw [hwritten] at h
    obtain rfl := List.mem_singleton.mp (List.mem_of_getElem? h)
    rcases hc with rfl | rfl
    · exact absurd rfl hopen
    · exact absurd rfl hand

/-- A `<` or `&` in markup begins a long lexeme. -/
theorem long_of_getElem? {ls : List Lexeme} {p : Nat} {c : Char} (hc : c = '<' ∨ c = '&')
    (h : (ls.flatMap Lexeme.written)[p]? = some c) :
    ∃ l ∈ Lexeme.long, l.written.head? = some c ∧
      l.written <+: (ls.flatMap Lexeme.written).drop p := by
  induction ls generalizing p with
  | nil => simp at h
  | cons l ls ih =>
    rw [List.flatMap_cons] at h ⊢
    rcases Nat.lt_or_ge p l.written.length with hlt | hge
    · rw [List.getElem?_append_left hlt] at h
      obtain ⟨hl, rfl⟩ := Lexeme.long_of_getElem? hc h
      exact ⟨l, hl, by rw [List.head?_eq_getElem?, h], List.prefix_append _ _⟩
    · rw [List.getElem?_append_right hge] at h
      obtain ⟨l', hl', hhead, hstands⟩ := ih h
      refine ⟨l', hl', hhead, ?_⟩
      rwa [List.drop_append, List.drop_eq_nil_of_le hge, List.nil_append]

/-- What a `<` begins. -/
theorem Lexeme.long_open : ∀ l ∈ long, l.written.head? = some '<' →
    String.ofList l.written ∈ ["<br>", "<strong>", "</strong>", "<em>", "</em>", "<del>", "</del>",
      "<code>", "</code>"] := by
  decide +kernel

/-- What a `&` begins. -/
theorem Lexeme.long_and : ∀ l ∈ long, l.written.head? = some '&' →
    String.ofList l.written ∈ ["&amp;", "&lt;", "&gt;", "&quot;", "&#x27;"] := by
  decide +kernel

/-- The tags that stand in a text, from left to right. -/
def tagsFrom : List Char → List Lexeme
  | [] => []
  | c :: rest => (Lexeme.tags.find? (Lexeme.standsAt (c :: rest))).toList ++ tagsFrom rest

/-- The tags that stand in markup, from left to right. -/
def tagsIn (markup : String) : List Lexeme :=
  tagsFrom markup.toList

theorem Lexeme.tags_subset_long : tags ⊆ long :=
  List.subset_append_right escapes tags

theorem tagsFrom_short {cs : List Char} (hcs : ∀ c ∈ cs, c ≠ '<' ∧ c ≠ '&') (rest : List Char) :
    tagsFrom (cs ++ rest) = tagsFrom rest := by
  induction cs with
  | nil => rfl
  | cons c cs ih =>
    obtain ⟨⟨hopen, hand⟩, hbehind⟩ := List.forall_mem_cons.mp hcs
    rw [List.cons_append, tagsFrom, Lexeme.find?_of_short Lexeme.tags_subset_long hopen hand,
      ih hbehind]
    rfl

theorem tagsFrom_lexeme (l : Lexeme) (rest : List Char) :
    tagsFrom (l.written ++ rest) = (if l ∈ Lexeme.tags then [l] else []) ++ tagsFrom rest := by
  by_cases hl : l ∈ Lexeme.long
  · obtain ⟨_, hopen, hand⟩ := Lexeme.long_written l hl
    have hfind := Lexeme.find?_written Lexeme.tags_subset_long hl rest
    obtain ⟨c, cs, hcs⟩ := List.exists_cons_of_ne_nil l.written_ne_nil
    rw [hcs] at hfind hopen hand ⊢
    have hbehind : ∀ d ∈ cs, d ≠ '<' ∧ d ≠ '&' := fun d hd =>
      ⟨ne_of_mem_of_not_mem hd hopen, ne_of_mem_of_not_mem hd hand⟩
    rw [List.cons_append] at hfind ⊢
    rw [tagsFrom, hfind, tagsFrom_short hbehind]
    split <;> rfl
  · obtain ⟨c, _, hwritten, hopen, hand⟩ := Lexeme.written_of_short hl
    rw [if_neg fun htag => hl (Lexeme.tags_subset_long htag), hwritten, List.nil_append]
    exact tagsFrom_short (by simp [hopen, hand]) rest

theorem tagsFrom_written (ls : List Lexeme) :
    tagsFrom (ls.flatMap Lexeme.written) = ls.filter (· ∈ Lexeme.tags) := by
  induction ls with
  | nil => rfl
  | cons l ls ih =>
    rw [List.flatMap_cons, tagsFrom_lexeme, ih, List.filter_cons]
    by_cases h : l ∈ Lexeme.tags <;> simp [h]

/-- **The tags in markup are those of the styled spans**, the closing tag of each right behind its
opening tag. -/
theorem tagsIn_html (spans : List Span) :
    tagsIn (html spans) =
      (spans.filterMap Span.style).flatMap fun s => [.opening s, .closing s] := by
  rw [tagsIn, html_toList, tagsFrom_written]
  induction spans with
  | nil => rfl
  | cons s spans ih =>
    have hcharacters : ∀ cs : List Char,
        (cs.map Lexeme.character).filter (· ∈ Lexeme.tags) = [] := by
      intro cs
      rw [List.filter_eq_nil_iff]
      intro l hl
      obtain ⟨c, _, rfl⟩ := List.mem_map.mp hl
      simpa using Lexeme.not_mem_tags_iff.mpr ⟨c, rfl⟩
    rw [List.flatMap_cons, List.filter_append, ih]
    rcases s with ⟨text, _ | style⟩
    · rw [lexemes, hcharacters]
      rfl
    · have hopening : Lexeme.opening style ∈ Lexeme.tags := by cases style <;> decide
      have hclosing : Lexeme.closing style ∈ Lexeme.tags := by cases style <;> decide
      simp [lexemes, hopening, hclosing, hcharacters]

/-! ## Reading markup -/

/-- The lexemes of a text after its first `skip` characters, which belong to the lexeme before. -/
def lexemesFrom? : Nat → List Char → Option (List Lexeme)
  | _, [] => some []
  | skip + 1, _ :: rest => lexemesFrom? skip rest
  | 0, c :: rest =>
    match Lexeme.atFront? (c :: rest) with
    | some l => (lexemesFrom? (l.written.length - 1) rest).map (l :: ·)
    | none => none

/-- The spans of lexemes. The characters since the last tag are collected last first, and belong to
the style whose element is open, if one is. -/
def gather? : Option Style → List Char → List Lexeme → Option (List Span)
  | none, collected, [] => some (flush collected)
  | some _, _, [] => none
  | within, collected, .character c :: rest => gather? within (c :: collected) rest
  | none, collected, .opening s :: rest => (gather? (some s) [] rest).map (flush collected ++ ·)
  | some s, collected, .closing s' :: rest =>
    if s = s' then (gather? none [] rest).map (⟨String.ofList collected.reverse, some s⟩ :: ·)
    else none
  | none, _, .closing _ :: _ => none
  | some _, _, .opening _ :: _ => none

/-- The spans that markup shows. -/
def ofHtml? (markup : String) : Option (List Span) :=
  (lexemesFrom? 0 markup.toList).bind (gather? none [])

theorem lexemesFrom?_drop (skip : Nat) (cs : List Char) :
    lexemesFrom? skip cs = lexemesFrom? 0 (cs.drop skip) := by
  induction cs generalizing skip with
  | nil => cases skip <;> rfl
  | cons c rest ih =>
    cases skip with
    | zero => rfl
    | succ skip => exact ih skip

theorem lexemesFrom?_written (ls : List Lexeme) :
    lexemesFrom? 0 (ls.flatMap Lexeme.written) = some ls := by
  induction ls with
  | nil => rfl
  | cons l ls ih =>
    rw [List.flatMap_cons]
    have hfront := l.atFront?_written (ls.flatMap Lexeme.written)
    obtain ⟨c, rest, hcons⟩ := List.exists_cons_of_ne_nil
      (List.append_ne_nil_of_left_ne_nil l.written_ne_nil (ls.flatMap Lexeme.written))
    have hrest := drop_of_cons hcons.symm l.written_ne_nil
    rw [hcons] at hfront ⊢
    rw [lexemesFrom?, hfront]
    simp only
    rw [lexemesFrom?_drop, hrest, ih, Option.map_some]

/-- The normal form of spans: their marks, collected again. -/
def merged (spans : List Span) : List Span :=
  collect [] (spans.flatMap marks)

theorem gather?_characters (within : Option Style) (collected cs : List Char) (ls : List Lexeme) :
    gather? within collected (cs.map .character ++ ls) =
      gather? within (cs.reverse ++ collected) ls := by
  induction cs generalizing collected with
  | nil => rfl
  | cons c cs ih =>
    rw [List.map_cons, List.cons_append, gather?, ih, List.reverse_cons, List.append_assoc]
    rfl

theorem collect_plain (collected cs : List Char) (ms : List Mark) :
    collect collected (cs.map .plain ++ ms) = collect (cs.reverse ++ collected) ms := by
  induction cs generalizing collected with
  | nil => rfl
  | cons c cs ih =>
    rw [List.map_cons, List.cons_append, collect, ih, List.reverse_cons, List.append_assoc]
    rfl

theorem gather?_lexemes (collected : List Char) (spans : List Span) :
    gather? none collected (spans.flatMap lexemes) =
      some (collect collected (spans.flatMap marks)) := by
  induction spans generalizing collected with
  | nil => rfl
  | cons s spans ih =>
    rw [List.flatMap_cons, List.flatMap_cons]
    rcases s with ⟨text, _ | style⟩
    · rw [lexemes, marks, gather?_characters, collect_plain, ih]
    · simp only [lexemes, marks, List.cons_append, List.append_assoc, List.nil_append, gather?,
        gather?_characters, collect, if_pos, ih, Option.map_some, List.append_nil,
        List.reverse_reverse]

/-- **Markup is read back as the normal form of its spans.** -/
theorem ofHtml?_html (spans : List Span) : ofHtml? (html spans) = some (merged spans) := by
  rw [ofHtml?, html_toList, lexemesFrom?_written]
  exact gather?_lexemes [] spans

/-! ## Spans that show the same -/

/-- Spans that differ only in how text without style is cut into pieces, some of which may be
empty. -/
inductive Alike : List Span → List Span → Prop
  | refl (spans : List Span) : Alike spans spans
  | symm {a b : List Span} : Alike a b → Alike b a
  | trans {a b c : List Span} : Alike a b → Alike b c → Alike a c
  | cons (s : Span) {a b : List Span} : Alike a b → Alike (s :: a) (s :: b)
  | empty (spans : List Span) : Alike (⟨"", none⟩ :: spans) spans
  | join (s t : String) (spans : List Span) :
      Alike (⟨s, none⟩ :: ⟨t, none⟩ :: spans) (⟨s ++ t, none⟩ :: spans)

theorem Alike.lexemes {a b : List Span} (h : Alike a b) :
    a.flatMap Span.lexemes = b.flatMap Span.lexemes := by
  induction h with
  | refl spans => rfl
  | symm _ ih => exact ih.symm
  | trans _ _ ih ih' => exact ih.trans ih'
  | cons s _ ih => rw [List.flatMap_cons, ih, List.flatMap_cons]
  | empty spans => rfl
  | join s t spans => simp [Span.lexemes]

theorem alike_collect (collected : List Char) (spans : List Span) :
    Alike (⟨String.ofList collected.reverse, none⟩ :: spans)
      (collect collected (spans.flatMap marks)) := by
  have hflush : ∀ (collected : List Char) (spans : List Span),
      Alike (⟨String.ofList collected.reverse, none⟩ :: spans) (flush collected ++ spans) := by
    intro collected spans
    unfold flush
    split
    · rename_i hnone
      rw [List.isEmpty_iff.mp hnone]
      exact .empty spans
    · exact .refl _
  induction spans generalizing collected with
  | nil => simpa [collect] using hflush collected []
  | cons s spans ih =>
    rw [List.flatMap_cons]
    rcases s with ⟨text, _ | style⟩
    · have hjoined := ih (text.toList.reverse ++ collected)
      rw [List.reverse_append, List.reverse_reverse, String.ofList_append, String.ofList_toList]
        at hjoined
      rw [marks, collect_plain]
      exact (Alike.join _ _ _).trans hjoined
    · have hrest : Alike spans (collect [] (spans.flatMap marks)) :=
        (Alike.empty spans).symm.trans (ih [])
      rw [marks, List.singleton_append, collect, String.ofList_toList]
      exact (Alike.cons _ (Alike.cons _ hrest)).trans (hflush collected _)

/-- Spans are alike to their normal form. -/
theorem alike_merged (spans : List Span) : Alike spans (merged spans) :=
  (Alike.empty spans).symm.trans (alike_collect [] spans)

/-- **Exactly spans that are alike have the same markup.** -/
theorem html_eq_iff {a b : List Span} : html a = html b ↔ Alike a b := by
  constructor
  · intro h
    have hmerged : merged a = merged b := by
      have hread := ofHtml?_html a
      rw [h, ofHtml?_html] at hread
      exact (Option.some.inj hread).symm
    exact (alike_merged a).trans (hmerged ▸ (alike_merged b).symm)
  · intro h
    rw [← String.toList_inj, html_toList, html_toList, h.lexemes]

/-- The spans of a text are in normal form. -/
theorem merged_ofText (text : String) : merged (ofText text) = ofText text := by
  rw [merged, ofText_marks]
  rfl

/-- The spans of a text determine it. -/
theorem ofText_injective : Function.Injective ofText := by
  intro s t h
  have hmarks : marksFrom 0 s.toList = marksFrom 0 t.toList := by
    rw [← ofText_marks, ← ofText_marks, h]
  have hwritten := congrArg (List.flatMap Mark.written) hmarks
  rw [marksFrom_written, marksFrom_written] at hwritten
  exact String.toList_inj.mp hwritten

/-- **Markup is safe and shows its spans faithfully.** In the markup of any spans, a `<` begins a
line break or a tag of a style, a `&` begins an escape, and each opening tag is followed by its
closing tag before any other. The spans are read back from it up to the cuts in text without style,
so that exactly the spans that are alike in this sense have the same markup, and a text is
determined by its markup. -/
theorem html_faithful :
    (∀ spans : List Span,
      (∀ p, (html spans).toList[p]? = some '<' →
        ∃ m ∈ ["<br>", "<strong>", "</strong>", "<em>", "</em>", "<del>", "</del>", "<code>",
          "</code>"], m.toList <+: (html spans).toList.drop p) ∧
      (∀ p, (html spans).toList[p]? = some '&' →
        ∃ m ∈ ["&amp;", "&lt;", "&gt;", "&quot;", "&#x27;"],
          m.toList <+: (html spans).toList.drop p) ∧
      tagsIn (html spans) =
        (spans.filterMap Span.style).flatMap (fun s => [.opening s, .closing s]) ∧
      ∃ decoded, ofHtml? (html spans) = some decoded ∧ Alike spans decoded) ∧
    (∀ a b : List Span, html a = html b ↔ Alike a b) ∧
    Function.Injective fun text => html (ofText text) := by
  refine ⟨fun spans => ⟨?_, ?_, tagsIn_html spans, merged spans, ofHtml?_html spans,
    alike_merged spans⟩, fun a b => html_eq_iff, ?_⟩
  · intro p hp
    rw [html_toList] at hp ⊢
    obtain ⟨l, hl, hhead, hstands⟩ := long_of_getElem? (.inl rfl) hp
    exact ⟨_, Lexeme.long_open l hl hhead, by rwa [String.toList_ofList]⟩
  · intro p hp
    rw [html_toList] at hp ⊢
    obtain ⟨l, hl, hhead, hstands⟩ := long_of_getElem? (.inr rfl) hp
    exact ⟨_, Lexeme.long_and l hl hhead, by rwa [String.toList_ofList]⟩
  · intro s t h
    have hread := ofHtml?_html (ofText s)
    rw [show html (ofText s) = html (ofText t) from h, ofHtml?_html, merged_ofText, merged_ofText]
      at hread
    exact ofText_injective (Option.some.inj hread).symm

/-- A tag that the text only spells is escaped, inside the element of its style. -/
theorem html_faithful_spelledTag :
    (html (ofText "*<b>* & _x_\nnext")).toList[8]? = some '&' ∧
      ∃ m ∈ ["&amp;", "&lt;", "&gt;", "&quot;", "&#x27;"],
        m.toList <+: (html (ofText "*<b>* & _x_\nnext")).toList.drop 8 := by
  have hand : (html (ofText "*<b>* & _x_\nnext")).toList[8]? = some '&' := by decide +kernel
  exact ⟨hand, (html_faithful.1 (ofText "*<b>* & _x_\nnext")).2.1 8 hand⟩

end MessageTemplate.Span
