import TypeWeave.Proofs.Go.Generated
import TypeWeave.Proofs.Go.Piece
import TypeWeave.Proofs.Go.Clauses
import Mathlib.Data.List.TakeWhile

/-!
# Marks of generated files and the package clause

Whether a file is generated is told from its lines alone: a line of the fixed form counts if no
line before it starts like a package clause. In the tree of the file a mark is a line comment that
begins a line before the package clause. The two agree on every source whose package clause starts
its line, as long as no line before it that begins inside a comment or a string looks like either,
and no mark stands behind a byte order mark. Main statements: `isGenerated_iff` and
`isGenerated_iff_isMarkedBefore`.
-/

namespace TypeWeave.Go.Marker

open Lexeme (pieces texts piece)

/-- A line of a text, with what is before and behind it. -/
structure LineAt (source before line after : List Char) : Prop where
  eq : source = before ++ (line ++ after)
  starts : before = [] ∨ before.getLast? = some '\n'
  inner : '\n' ∉ line
  ends : after = [] ∨ after.head? = some '\n'

section Lines

variable {source before line after first rest : List Char}

/-- What is before a line is at the front of what is before a later one. -/
theorem LineAt.before_of_length_le {b l a : List Char} (hl : LineAt source b l a)
    (hline : LineAt source before line after) (h : b.length ≤ before.length) : b <+: before :=
  List.prefix_of_prefix_length_le ⟨_, hl.eq.symm⟩ ⟨_, hline.eq.symm⟩ h

/-- What stands before and behind a first line end is unique. -/
theorem eq_of_append_newline {as bs cs ds : List Char} (has : '\n' ∉ as) (hcs : '\n' ∉ cs)
    (h : as ++ '\n' :: bs = cs ++ '\n' :: ds) : as = cs ∧ bs = ds := by
  have hbreak := congrArg (Text.breakOn? ['\n']) h
  rw [Text.breakOn?_singleton_append has, Text.breakOn?_singleton_append hcs] at hbreak
  exact Prod.mk.inj (Option.some.inj hbreak)

/-- A text without a line end is a single line. -/
theorem lineAt_iff_of_not_mem (h : '\n' ∉ source) :
    LineAt source before line after ↔ before = [] ∧ line = source ∧ after = [] := by
  constructor
  · rintro ⟨rfl, hstarts, hinner, hends⟩
    simp only [List.mem_append, not_or] at h
    obtain rfl : before = [] := hstarts.resolve_right fun hlast =>
      h.1 (List.mem_of_getLast? hlast)
    obtain rfl : after = [] := hends.resolve_right fun hhead => h.2.2 (List.mem_of_head? hhead)
    simp
  · rintro ⟨rfl, rfl, rfl⟩
    exact ⟨by simp, Or.inl rfl, h, Or.inl rfl⟩

/-- The lines of a text are its first line and those of the rest. -/
theorem lineAt_append_iff (hfirst : '\n' ∉ first) :
    LineAt (first ++ '\n' :: rest) before line after ↔
      before = [] ∧ line = first ∧ after = '\n' :: rest ∨
        ∃ before', before = first ++ '\n' :: before' ∧ LineAt rest before' line after := by
  constructor
  · rintro ⟨heq, hstarts, hinner, hends⟩
    by_cases hnewline : '\n' ∈ before
    · right
      obtain ⟨bs, before', rfl, hbs⟩ := List.eq_append_cons_of_mem hnewline
      rw [List.append_assoc, List.cons_append] at heq
      obtain ⟨rfl, rfl⟩ := eq_of_append_newline hfirst hbs heq
      refine ⟨before', rfl, rfl, ?_, hinner, hends⟩
      rcases List.eq_nil_or_concat before' with rfl | ⟨cs, c, rfl⟩
      · exact Or.inl rfl
      · have hlast : first ++ '\n' :: cs.concat c = (first ++ '\n' :: cs) ++ [c] := by simp
        have hend := hstarts.resolve_left (by simp)
        rw [hlast, List.getLast?_concat] at hend
        rw [List.concat_eq_append, List.getLast?_concat]
        exact Or.inr hend
    · left
      obtain rfl : before = [] := hstarts.resolve_right fun hlast =>
        hnewline (List.mem_of_getLast? hlast)
      rcases hends with rfl | hhead
      · have hmem : '\n' ∈ first ++ '\n' :: rest := by simp
        rw [heq] at hmem
        simp [hinner] at hmem
      · obtain ⟨after', rfl⟩ := List.head?_eq_some_iff.1 hhead
        obtain ⟨rfl, rfl⟩ := eq_of_append_newline hfirst hinner heq
        exact ⟨rfl, rfl, rfl⟩
  · rintro (⟨rfl, rfl, rfl⟩ | ⟨before', rfl, rfl, hstarts, hinner, hends⟩)
    · exact ⟨rfl, Or.inl rfl, hfirst, Or.inr rfl⟩
    · refine ⟨by simp, Or.inr ?_, hinner, hends⟩
      rcases hstarts with rfl | hlast
      · simp
      · simp [List.getLast?_cons, hlast]

theorem isGenerated_of_not_mem (h : '\n' ∉ line) :
    isGenerated line = (!startsPackage line false && isMarker line) := by
  rw [isGenerated, Text.splitOn_singleton_of_not_mem h]
  cases hp : startsPackage line false <;> simp [isMarked, hp]

theorem isGenerated_append (h : '\n' ∉ line) (rest : List Char) :
    isGenerated (line ++ '\n' :: rest) =
      (!startsPackage line true && (isMarker line || isGenerated rest)) := by
  have hne : (Text.splitOn ['\n'] rest).isEmpty = false := by
    rw [Text.splitOn, Text.splitLimit]
    split <;> rfl
  rw [isGenerated, Text.splitOn_singleton_append h, isMarked, hne, ← isGenerated]
  cases hp : startsPackage line true <;> simp [hp]

/-- A text says that it is generated when one of its lines does and no line up to that one starts a
package clause. -/
theorem isGenerated_iff : isGenerated source = true ↔
    ∃ before line after, LineAt source before line after ∧ isMarker line = true ∧
      ∀ b l a, LineAt source b l a → b.length ≤ before.length →
        startsPackage l (!a.isEmpty) = false := by
  induction hn : source.length using Nat.strongRecOn generalizing source with
  | ind n ih =>
    by_cases hnewline : '\n' ∈ source
    · obtain ⟨first, rest, rfl, hfirst⟩ := List.eq_append_cons_of_mem hnewline
      simp only [isGenerated_append hfirst, Bool.and_eq_true, Bool.or_eq_true, Bool.not_eq_true']
      rw [ih rest.length (by rw [← hn]; simp; omega) rfl]
      constructor
      · rintro ⟨hclear, hmarker | ⟨before, line, after, hline, hmarker, hall⟩⟩
        · refine ⟨[], first, '\n' :: rest, (lineAt_append_iff hfirst).2 (Or.inl ⟨rfl, rfl, rfl⟩),
            hmarker, fun b l a hl hlength => ?_⟩
          rcases (lineAt_append_iff hfirst).1 hl with ⟨rfl, rfl, rfl⟩ | ⟨b', rfl, -⟩
          · exact hclear
          · simp at hlength
        · refine ⟨first ++ '\n' :: before, line, after,
            (lineAt_append_iff hfirst).2 (Or.inr ⟨before, rfl, hline⟩), hmarker,
            fun b l a hl hlength => ?_⟩
          rcases (lineAt_append_iff hfirst).1 hl with ⟨rfl, rfl, rfl⟩ | ⟨b', rfl, hl'⟩
          · exact hclear
          · exact hall b' l a hl' (by simpa using hlength)
      · rintro ⟨before, line, after, hline, hmarker, hall⟩
        refine ⟨hall [] first ('\n' :: rest)
          ((lineAt_append_iff hfirst).2 (Or.inl ⟨rfl, rfl, rfl⟩)) (by simp), ?_⟩
        rcases (lineAt_append_iff hfirst).1 hline with ⟨rfl, rfl, rfl⟩ | ⟨before', rfl, hline'⟩
        · exact Or.inl hmarker
        · refine Or.inr ⟨before', line, after, hline', hmarker, fun b l a hl hlength => ?_⟩
          exact hall (first ++ '\n' :: b) l a
            ((lineAt_append_iff hfirst).2 (Or.inr ⟨b, rfl, hl⟩)) (by simpa using hlength)
    · simp only [isGenerated_of_not_mem hnewline, Bool.and_eq_true, Bool.not_eq_true',
        lineAt_iff_of_not_mem hnewline]
      constructor
      · rintro ⟨hclear, hmarker⟩
        refine ⟨[], source, [], ⟨rfl, rfl, rfl⟩, hmarker, ?_⟩
        rintro b l a ⟨rfl, rfl, rfl⟩ -
        exact hclear
      · rintro ⟨_, _, _, ⟨rfl, rfl, rfl⟩, hmarker, hall⟩
        exact ⟨hall [] _ [] ⟨rfl, rfl, rfl⟩ (Nat.le_refl _), hmarker⟩

end Lines

/-- A piece begins a line of a source. A byte order mark in front of it does not count. -/
def BeginsLine (source : List Char) (p : Lexeme.Piece) : Prop :=
  p.start.column = 0 ∨ p.start.offset = 1 ∧ source.head? = some Lexeme.byteOrderMark

/-- A line comment that begins a line before some line has the form of a mark. -/
def IsMarkedBefore (source : List Char) (line : Int) : Prop :=
  ∃ p ∈ pieces source, p.kind = .comment ∧ BeginsLine source p ∧ isMarker p.text = true ∧
    (p.start.row : Int) + 1 < line

instance (source : List Char) (p : Lexeme.Piece) : Decidable (BeginsLine source p) :=
  inferInstanceAs (Decidable (_ ∨ _ ∧ _))

instance (source : List Char) (line : Int) : Decidable (IsMarkedBefore source line) :=
  List.decidableBEx _ _

/-- A place is outside comments and tokens: what is before it is whole pieces. -/
def Clear (source before : List Char) : Prop :=
  ∃ ps qs, pieces source = ps ++ qs ∧ texts ps = before

theorem clear_nil (source : List Char) : Clear source [] := ⟨[], pieces source, rfl, rfl⟩

section Pieces

variable {source before line after rest : List Char}

/-- At a place outside comments and tokens a piece starts that is the first one of the text
there. -/
theorem Clear.exists_piece {c : Char} (h : Clear source before)
    (hsource : source = before ++ c :: rest) (hc : c ≠ Lexeme.byteOrderMark) :
    ∃ p ∈ pieces source, p.start = before.foldl Place.after {} ∧
      ∃ more, piece (c :: rest) = (p.kind, p.text, more) := by
  obtain ⟨ps, qs, hpieces, rfl⟩ := h
  have htexts : texts qs = c :: rest := by
    have := Lexeme.texts_pieces source
    rw [hpieces, texts, List.flatMap_append, ← texts, ← texts, hsource] at this
    exact List.append_cancel_left this
  cases qs with
  | nil => cases htexts
  | cons p qs =>
    obtain ⟨hstart, hpiece⟩ := Lexeme.of_pieces_eq hpieces
    refine ⟨p, by simp [hpieces], hstart, texts qs, ?_⟩
    rcases hpiece with ⟨-, htext⟩ | hpiece
    · rw [texts, List.flatMap_cons, htext] at htexts
      exact absurd (List.cons.inj htexts).1.symm hc
    · rwa [htexts] at hpiece

/-- A line comment reaches to the end of its line. -/
theorem piece_slashes (cs : List Char) :
    piece ('/' :: '/' :: cs) = (.comment, ('/' :: '/' :: cs).takeWhile (· != '\n'),
      ('/' :: '/' :: cs).dropWhile (· != '\n')) := by
  rw [Lexeme.piece_of_not_isBlank (by decide)]
  show (Lexeme.Piece.Kind.comment, ('/' :: '/' :: cs).span (· != '\n')) = _
  rw [List.span_eq_takeWhile_dropWhile]

/-- What has the form of a mark starts like a line comment. -/
theorem exists_of_isMarker (h : isMarker line = true) : ∃ rest, line = '/' :: '/' :: rest := by
  unfold isMarker at h
  split at h
  · rename_i rest hrest
    exact ⟨_, Text.eq_append_of_dropPrefix? hrest⟩
  · cases h

theorem takeWhile_line (hline : '\n' ∉ line) (hafter : after = [] ∨ after.head? = some '\n') :
    (line ++ after).takeWhile (· != '\n') = line := by
  have hall : ∀ c ∈ line, (c != '\n') = true := fun c hc => by
    rw [bne_iff_ne]
    rintro rfl
    exact hline hc
  rw [List.takeWhile_append_of_pos hall]
  rcases hafter with rfl | hhead
  · simp
  · obtain ⟨more, rfl⟩ := List.head?_eq_some_iff.1 hhead
    simp

/-- A line outside comments and tokens that has the form of a mark is a comment. -/
theorem Clear.exists_comment (h : Clear source before) (hline : LineAt source before line after)
    (hmarker : isMarker line = true) :
    ∃ p ∈ pieces source, p.kind = .comment ∧ p.text = line ∧
      p.start = before.foldl Place.after {} := by
  obtain ⟨rest, hrest⟩ := exists_of_isMarker hmarker
  have hstart : line ++ after = '/' :: '/' :: (rest ++ after) := by rw [hrest]; rfl
  obtain ⟨p, hp, hplace, more, hpiece⟩ :=
    h.exists_piece (hstart ▸ hline.eq) (show '/' ≠ Lexeme.byteOrderMark by decide)
  rw [piece_slashes, ← hstart, takeWhile_line hline.inner hline.ends] at hpiece
  obtain ⟨hkind, hmore⟩ := Prod.mk.inj hpiece
  exact ⟨p, hp, hkind.symm, (Prod.mk.inj hmore).1.symm, hplace⟩

/-- A comment in the form of a mark is a line if it begins one. -/
theorem exists_lineAt {p : Lexeme.Piece} (hp : p ∈ pieces source) (hkind : p.kind = .comment)
    (hcolumn : p.start.column = 0) (hmarker : isMarker p.text = true) :
    ∃ before after, LineAt source before p.text after ∧ p.start = before.foldl Place.after {} := by
  obtain ⟨ps, qs, hpieces⟩ := List.append_of_mem hp
  obtain ⟨hstart, hpiece⟩ := Lexeme.of_pieces_eq hpieces
  have hpiece := hpiece.resolve_left (by simp [hkind])
  have hsource : source = texts ps ++ (p.text ++ texts qs) := by
    rw [← Lexeme.texts_pieces source, hpieces, texts, List.flatMap_append, List.flatMap_cons]
    rfl
  obtain ⟨rest, hrest⟩ := exists_of_isMarker hmarker
  have htext : texts (p :: qs) = '/' :: '/' :: (rest ++ texts qs) := by
    rw [texts, List.flatMap_cons, hrest]
    rfl
  rw [htext, piece_slashes, ← htext] at hpiece
  obtain ⟨htake, hdrop⟩ := Prod.mk.inj (Prod.mk.inj hpiece).2
  refine ⟨texts ps, texts qs, ⟨hsource, ?_, ?_, ?_⟩, hstart⟩
  · rw [hstart] at hcolumn
    exact (Lexeme.column_foldl_after_eq_zero_iff _).1 hcolumn
  · rw [← htake]
    intro hmem
    simpa using List.mem_takeWhile_imp hmem
  · rw [← hdrop]
    have hhead := List.head?_dropWhile_not (· != '\n') (texts (p :: qs))
    cases hd : (texts (p :: qs)).dropWhile (· != '\n') with
    | nil => exact Or.inl rfl
    | cons c cs =>
      rw [hd] at hhead
      exact Or.inr (by simpa using hhead)

end Pieces

section Package

variable {source before line after : List Char}

/-- White space is no part of a name. -/
theorem isNameRest_of_isBlank {c : Char} (h : Text.isBlank c = true) :
    Lexeme.isNameRest c = false := by
  have hall : ∀ n ∈ [9, 10, 11, 12, 13, 28, 29, 30, 31, 32, 0x85, 0xA0, 0x1680, 0x2000, 0x2001,
      0x2002, 0x2003, 0x2004, 0x2005, 0x2006, 0x2007, 0x2008, 0x2009, 0x200A, 0x2028, 0x2029, 0x202F,
      0x205F, 0x3000], Lexeme.isNameRest (Char.ofNat n) = false := by decide +kernel
  rw [← Char.ofNat_toNat c]
  refine hall _ ?_
  simp only [Text.isBlank, Bool.or_eq_true, Bool.and_eq_true, decide_eq_true_eq, beq_iff_eq] at h
  simp only [List.mem_cons, List.not_mem_nil, or_false]
  omega

/-- The word of package clauses before white space is a keyword. -/
theorem piece_package {c : Char} (hc : Text.isBlank c = true) (cs : List Char) :
    piece ("package".toList ++ c :: cs) =
      (.token .keyword, "package".toList, c :: cs) := by
  have hword : ∀ d ∈ "ackage".toList, Lexeme.isNameRest d = true :=
    List.all_eq_true.1 (by decide +kernel)
  have htoken : Lexeme.token ("package".toList ++ c :: cs) =
      (.keyword, "package".toList, c :: cs) :=
    Lexeme.token_word (show Lexeme.isNameStart 'p' = true by decide +kernel) hword
      (isNameRest_of_isBlank hc) cs
  have hpiece : piece ("package".toList ++ c :: cs) =
      (.token (Lexeme.token ("package".toList ++ c :: cs)).1,
        (Lexeme.token ("package".toList ++ c :: cs)).2) :=
    Lexeme.piece_of_not_isBlank (show ¬_ by decide) _
  rw [hpiece, htoken]

/-- A line that starts a package clause has its word and white space, if only its line end. -/
theorem exists_of_startsPackage (h : startsPackage line (!after.isEmpty) = true)
    (hafter : after = [] ∨ after.head? = some '\n') :
    ∃ c rest, Text.isBlank c = true ∧ line ++ after = "package".toList ++ c :: rest := by
  unfold startsPackage at h
  split at h
  · rename_i c rest hdrop
    exact ⟨c, rest ++ after, h, by rw [Text.eq_append_of_dropPrefix? hdrop]; simp⟩
  · rename_i hdrop
    obtain ⟨rest, rfl⟩ := List.head?_eq_some_iff.1 (hafter.resolve_left (by
      rintro rfl
      cases h))
    exact ⟨'\n', rest, by decide, by rw [Text.eq_append_of_dropPrefix? hdrop]; simp⟩
  · cases h

/-- Where a piece stands if it is the keyword of package clauses. -/
def keywordPlace? (p : Lexeme.Piece) : Option (Int × Int) :=
  p.token?.bind fun t =>
    if t.1 == .keyword && t.2.1 == "package" then some (t.2.2.row, t.2.2.column) else none

theorem fst_of_keywordPlace? {p : Lexeme.Piece} {place : Int × Int}
    (h : keywordPlace? p = some place) : place.1 = p.start.row := by
  obtain ⟨t, ht, h⟩ := Option.bind_eq_some_iff.1 h
  unfold Lexeme.Piece.token? at ht
  split at ht
  · cases ht
    split at h
    · cases h
      rfl
    · cases h
  · cases ht

/-- The keywords of package clauses among the tokens are those among the pieces. -/
theorem keywordPlaces_tokens (source : List Char) :
    Grammar.keywordPlaces (Lexeme.tokens source) = (pieces source).filterMap keywordPlace? := by
  obtain ⟨stop, htokens⟩ := Lexeme.exists_tokens_eq source
  have hplaces (ts : List Lexeme) : Grammar.keywordPlaces ts =
      (ts.map fun t => (t.kind, t.text, t.start)).filterMap fun t =>
        if t.1 == .keyword && t.2.1 == "package" then some ((t.2.2.row : Int), (t.2.2.column : Int))
        else none := by
    rw [Grammar.keywordPlaces, List.filterMap_map, ← List.filterMap_eq_map, List.filterMap_filter]
    rfl
  rw [hplaces, htokens, List.filterMap_append, List.filterMap_filterMap]
  exact List.append_nil _

/-- The first package clause of a tree is on the line of the first keyword of package clauses. -/
theorem packagePosition_le {p : Lexeme.Piece} {place : Int × Int} (hp : p ∈ pieces source)
    (hplace : keywordPlace? p = some place)
    (hclause : Extraction.packageClauses (Grammar.parse source) ≠ []) :
    (Extraction.packagePosition (Grammar.parse source)).1 ≤ place.1 + 1 := by
  obtain ⟨more, hplaces⟩ := Grammar.exists_packageClauses_parse source
  obtain ⟨n, ns, hns⟩ := List.exists_cons_of_ne_nil hclause
  rw [keywordPlaces_tokens, hns, List.map_cons, List.cons_append] at hplaces
  have hsorted : ((pieces source).filterMap keywordPlace?).Pairwise fun a b => a.1 ≤ b.1 :=
    (Lexeme.pairwise_pieces source).filterMap _ fun p q hle a ha b hb => by
      rw [fst_of_keywordPlace? ha, fst_of_keywordPlace? hb]
      exact Int.ofNat_le.2 hle
  have hmem : place ∈ (pieces source).filterMap keywordPlace? :=
    List.mem_filterMap.2 ⟨p, hp, hplace⟩
  rw [hplaces] at hsorted hmem
  have hle : n.row ≤ place.1 := by
    rcases List.mem_cons.1 hmem with rfl | hmem
    · exact Int.le_refl _
    · exact List.rel_of_pairwise_cons hsorted hmem
  rw [Extraction.packagePosition, hns]
  show n.row + 1 ≤ place.1 + 1
  omega

/-- A line outside comments and strings that starts a package clause does not stand above the
package clause of the tree. -/
theorem Clear.packagePosition_le (h : Clear source before) (hline : LineAt source before line after)
    (hpackage : startsPackage line (!after.isEmpty) = true)
    (hclause : Extraction.packageClauses (Grammar.parse source) ≠ []) :
    (Extraction.packagePosition (Grammar.parse source)).1 ≤ before.count '\n' + 1 := by
  obtain ⟨c, rest, hc, htext⟩ := exists_of_startsPackage hpackage hline.ends
  obtain ⟨p, hp, hstart, more, hpiece⟩ := h.exists_piece (hline.eq.trans (congrArg _ htext))
    (show 'p' ≠ Lexeme.byteOrderMark by decide)
  have hpiece := (piece_package hc rest).symm.trans hpiece
  obtain ⟨hkind, hmore⟩ := Prod.mk.inj hpiece
  have hplace : keywordPlace? p = some ((p.start.row : Int), (p.start.column : Int)) := by
    rw [keywordPlace?, Lexeme.Piece.token?, ← hkind, ← (Prod.mk.inj hmore).1]
    rfl
  have := Marker.packagePosition_le hp hplace hclause
  rw [hstart, Lexeme.row_foldl_after] at this
  simpa using this

end Package

/-- A source whose lines do not deceive about what is before its package clause, which is on the
given line. -/
structure Regular (source : List Char) (clause : Int) : Prop where
  /-- The package clause starts its line, with white space behind its keyword. -/
  starts : ∃ before line after, LineAt source before line after ∧
    startsPackage line (!after.isEmpty) = true ∧ (before.count '\n' : Int) + 1 = clause
  /-- A line above it that begins inside a comment or a string looks neither like a mark nor like a
  package clause. -/
  hides : ∀ before line after, LineAt source before line after →
    (before.count '\n' : Int) + 1 < clause → ¬Clear source before →
      isMarker line = false ∧ startsPackage line (!after.isEmpty) = false
  /-- No mark stands behind a byte order mark. -/
  bare : source.head? = some Lexeme.byteOrderMark →
    ∀ p ∈ pieces source, p.start.offset = 1 → isMarker p.text = false

section Agreement

variable {source : List Char}

/-- A marking line comes to nothing only by a line before it that seems to start a package
clause. -/
theorem isGenerated_of_isMarkedBefore
    (hclause : Extraction.packageClauses (Grammar.parse source) ≠ [])
    (hregular : Regular source (Extraction.packagePosition (Grammar.parse source)).1)
    (h : IsMarkedBefore source (Extraction.packagePosition (Grammar.parse source)).1) :
    isGenerated source = true := by
  obtain ⟨p, hp, hkind, hbegins, hmarker, hbefore⟩ := h
  have hcolumn : p.start.column = 0 := hbegins.resolve_right fun ⟨hoffset, hhead⟩ => by
    rw [hregular.bare hhead p hp hoffset] at hmarker
    cases hmarker
  obtain ⟨before, after, hline, hstart⟩ := exists_lineAt hp hkind hcolumn hmarker
  rw [hstart, Lexeme.row_foldl_after] at hbefore
  refine isGenerated_iff.2 ⟨before, p.text, after, hline, hmarker, fun b l a hl hlength => ?_⟩
  have hrow : b.count '\n' ≤ before.count '\n' :=
    (hl.before_of_length_le hline hlength).sublist.count_le _
  have hbefore : (before.count '\n' : Int) + 1 <
      (Extraction.packagePosition (Grammar.parse source)).1 := by simpa using hbefore
  by_cases hclear : Clear source b
  · by_contra hpackage
    have := hclear.packagePosition_le hl (by simpa using hpackage) hclause
    omega
  · exact (hregular.hides b l a hl (by omega) hclear).2

/-- A line that counts as a mark is a comment before the package clause. -/
theorem isMarkedBefore_of_isGenerated
    (hregular : Regular source (Extraction.packagePosition (Grammar.parse source)).1)
    (h : isGenerated source = true) :
    IsMarkedBefore source (Extraction.packagePosition (Grammar.parse source)).1 := by
  obtain ⟨before, line, after, hline, hmarker, hall⟩ := isGenerated_iff.1 h
  obtain ⟨b, l, a, hl, hpackage, hrow⟩ := hregular.starts
  have hlength : before.length < b.length := by
    by_contra hle
    rw [hall b l a hl (by omega)] at hpackage
    cases hpackage
  have hbefore : (before.count '\n' : Int) + 1 <
      (Extraction.packagePosition (Grammar.parse source)).1 := by
    obtain ⟨between, rfl⟩ := hline.before_of_length_le hl (by omega)
    have hne : between ≠ [] := by
      rintro rfl
      simp at hlength
    have hlast := hl.starts.resolve_left (by simp [hne])
    rw [List.getLast?_append_of_ne_nil _ hne] at hlast
    have := List.count_pos_iff.2 (List.mem_of_getLast? hlast)
    rw [← hrow, List.count_append]
    omega
  by_cases hclear : Clear source before
  · obtain ⟨p, hp, hkind, htext, hstart⟩ := hclear.exists_comment hline hmarker
    refine ⟨p, hp, hkind, Or.inl ?_, htext ▸ hmarker, ?_⟩
    · rw [hstart]
      exact (Lexeme.column_foldl_after_eq_zero_iff _).2 hline.starts
    · rw [hstart, Lexeme.row_foldl_after]
      simpa using hbefore
  · rw [(hregular.hides before line after hline hbefore hclear).1] at hmarker
    cases hmarker

/-- On a source that is accepted and regular, the lines say that it is generated exactly if a line
comment before the package clause of its tree does. -/
theorem isGenerated_iff_isMarkedBefore {file : File.Path} {contents : Extraction.Contents}
    (haccepted : Extraction.contents (Grammar.parse source) file = .ok contents)
    (hregular : Regular source (Extraction.packagePosition (Grammar.parse source)).1) :
    isGenerated source = true ↔
      IsMarkedBefore source (Extraction.packagePosition (Grammar.parse source)).1 := by
  have hclause : Extraction.packageClauses (Grammar.parse source) ≠ [] := by
    intro hnil
    have hname : Extraction.packageName? (Grammar.parse source) = none := by
      rw [Extraction.packageName?, hnil]
      rfl
    rw [(Extraction.contents_eq_ok.1 haccepted).2.2.1] at hname
    cases hname
  exact ⟨isMarkedBefore_of_isGenerated hregular, isGenerated_of_isMarkedBefore hclause hregular⟩

/-- A mark on the line above the package clause. -/
theorem isGenerated_iff_isMarkedBefore_above :
    let first := "// Code generated by hand. DO NOT EDIT.".toList
    let source := first ++ '\n' :: "package p\n".toList
    let root := Grammar.parse source
    let clause := (Extraction.packagePosition root).1
    Extraction.contents root File.Path.current = .ok ⟨"p", []⟩ ∧ Regular source clause ∧
      (isGenerated source = true ↔ IsMarkedBefore source clause) := by
  intro first source root clause
  have haccepted : Extraction.contents root File.Path.current = .ok ⟨"p", []⟩ := by
    decide +kernel
  have hclause : clause = 2 := by decide +kernel
  have hfirst : '\n' ∉ first := by decide +kernel
  have hregular : Regular source clause := by
    rw [hclause]
    refine ⟨⟨first ++ ['\n'], "package p".toList, ['\n'],
      ⟨rfl, Or.inr List.getLast?_concat, by decide, Or.inr rfl⟩, by decide, by decide⟩,
      fun before line after hline hbefore hhidden => ?_, fun hhead => ?_⟩
    · rcases (lineAt_append_iff hfirst).1 hline with ⟨rfl, -⟩ | ⟨before', rfl, -⟩
      · exact absurd (clear_nil source) hhidden
      · rw [List.count_append, List.count_cons_self] at hbefore
        omega
    · cases hhead
  exact ⟨haccepted, hregular, isGenerated_iff_isMarkedBefore haccepted hregular⟩

/-- A package clause behind a comment starts no line, so that a mark below it counts. -/
theorem exists_isGenerated_not_isMarkedBefore :
    let source := "/* p */ package p\n\n// Code generated by hand. DO NOT EDIT.\n".toList
    let root := Grammar.parse source
    Extraction.contents root File.Path.current = .ok ⟨"p", []⟩ ∧ isGenerated source = true ∧
      ¬IsMarkedBefore source (Extraction.packagePosition root).1 := by
  decide +kernel

/-- A line of a comment passes for a package clause, so that the mark below it does not count. -/
example :
    let source := "/*\npackage p\n*/\n// Code generated by hand. DO NOT EDIT.\npackage p\n".toList
    isGenerated source = false ∧
      IsMarkedBefore source (Extraction.packagePosition (Grammar.parse source)).1 := by
  decide +kernel

/-- A mark behind a byte order mark does not count. -/
example :
    let source := Lexeme.byteOrderMark ::
      "// Code generated by hand. DO NOT EDIT.\npackage p\n".toList
    isGenerated source = false ∧
      IsMarkedBefore source (Extraction.packagePosition (Grammar.parse source)).1 := by
  decide +kernel

end Agreement

end TypeWeave.Go.Marker
