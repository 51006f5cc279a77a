import TypeWeave.Console.Line
import TypeWeave.Proofs.Except
import Mathlib.Data.List.Basic

/-!
# Escaped text is no markup

Escaping keeps the characters of a text as they are and gives each tag an odd number of backslashes,
so that no tag is left that opens or closes a style. Main statements: `segmentAt?_eq_some_iff` tells
what a tag is, `segments_escape` what escaping makes of the segments of a text, and
`exists_error_eq_ok` says that an error can be shown whatever its message is.
-/

namespace TypeWeave.Console.Markup

/-- The text of a tag: a character that opens one, and no bracket behind it. -/
def IsTag (tag : List Char) : Prop := tag.head?.any opensTag = true ∧ ∀ c ∈ tag, isInner c = true

instance (tag : List Char) : Decidable (IsTag tag) :=
  @instDecidableAnd _ _ inferInstance (List.decidableBAll _ _)

/-- A character that opens a tag is no bracket. -/
theorem isInner_of_opensTag {c : Char} (h : opensTag c = true) : isInner c = true := by
  rw [isInner, Bool.and_eq_true, bne_iff_ne, bne_iff_ne]
  constructor
  all_goals
    rintro rfl
    revert h
    decide

/-- Nothing but the brackets ends the text of a tag. -/
theorem dropWhile_isInner {inner : List Char} (h : ∀ c ∈ inner, isInner c = true) {b : Char}
    (hb : isInner b = false) (rest : List Char) :
    (inner ++ b :: rest).dropWhile isInner = b :: rest := by
  rw [List.dropWhile_append_of_pos h, List.dropWhile_cons_of_neg (by simp [hb])]

/-- A tag is read up to the first closing bracket. -/
theorem tagAt?_eq_some_iff {cs tag rest : List Char} :
    tagAt? cs = some (tag, rest) ↔ IsTag tag ∧ cs = tag ++ ']' :: rest := by
  have hbracket : isInner ']' = false := by decide
  constructor
  · intro h
    refine ⟨?_, (eq_of_tagAt? h).symm⟩
    cases cs with
    | nil => simp [tagAt?] at h
    | cons c cs =>
      rw [tagAt?] at h
      split at h
      · rename_i hc
        split at h
        · simp only [Option.some.injEq, Prod.mk.injEq] at h
          rw [← h.1]
          refine ⟨by simpa using hc, List.forall_mem_cons.2 ⟨isInner_of_opensTag hc, ?_⟩⟩
          exact fun d hd => List.all_eq_true.1 List.all_takeWhile d hd
        · cases h
      · cases h
  · rintro ⟨⟨hopens, hinner⟩, rfl⟩
    cases tag with
    | nil => simp at hopens
    | cons c tag =>
      have hc : opensTag c = true := by simpa using hopens
      have htag := (List.forall_mem_cons.1 hinner).2
      rw [List.cons_append, tagAt?, if_pos hc, dropWhile_isInner htag hbracket,
        List.takeWhile_append_of_pos htag, List.takeWhile_cons_of_neg (by simp [hbracket]),
        List.append_nil]
      rfl

/-- A segment that is read at once is a tag with the backslashes before it. -/
theorem segmentAt?_eq_some_iff {cs rest : List Char} {s : Segment} :
    segmentAt? cs = some (s, rest) ↔ ∃ n tag, s = .tag n tag ∧ IsTag tag ∧
      cs = List.replicate n '\\' ++ '[' :: (tag ++ ']' :: rest) := by
  constructor
  · intro h
    have hwrite := eq_of_segmentAt? h
    unfold segmentAt? at h
    split at h
    · obtain ⟨⟨tag, behind⟩, htag, heq⟩ := Option.map_eq_some_iff.1 h
      simp only [Prod.mk.injEq] at heq
      obtain ⟨rfl, rfl⟩ := heq
      refine ⟨_, tag, rfl, (tagAt?_eq_some_iff.1 htag).1, ?_⟩
      rw [← hwrite]
      simp [Segment.write]
    · cases h
  · rintro ⟨n, tag, rfl, htag, rfl⟩
    have hslashes : ∀ c ∈ List.replicate n '\\', (c == '\\') = true := by
      intro c hc
      simp [List.eq_of_mem_replicate hc]
    have hdrop : (List.replicate n '\\' ++ '[' :: (tag ++ ']' :: rest)).dropWhile (· == '\\') =
        '[' :: (tag ++ ']' :: rest) := by
      rw [List.dropWhile_append_of_pos hslashes, List.dropWhile_cons_of_neg (by decide)]
    have htake : (List.replicate n '\\' ++ '[' :: (tag ++ ']' :: rest)).takeWhile (· == '\\') =
        List.replicate n '\\' := by
      rw [List.takeWhile_append_of_pos hslashes, List.takeWhile_cons_of_neg (by decide),
        List.append_nil]
    have hread : tagAt? (tag ++ ']' :: rest) = some (tag, rest) :=
      tagAt?_eq_some_iff.2 ⟨htag, rfl⟩
    rw [segmentAt?, hdrop, htake]
    simp only [hread, List.length_replicate, Option.map_some]

/-- The empty text has no segments. -/
theorem segments_nil : segments [] = [] := by
  rw [segments]
  rfl

/-- A tag at the front of a text is its first segment. -/
theorem segments_of_segmentAt? {cs rest : List Char} {s : Segment}
    (h : segmentAt? cs = some (s, rest)) : segments cs = s :: segments rest := by
  rw [segments]
  split
  · rename_i s' rest' h'
    obtain ⟨rfl, rfl⟩ := Prod.mk.inj (Option.some.inj (h.symm.trans h'))
    rfl
  · rename_i h'
    cases h.symm.trans h'

/-- A character where no tag begins is a segment. -/
theorem segments_cons {c : Char} {cs : List Char} (h : segmentAt? (c :: cs) = none) :
    segments (c :: cs) = .char c :: segments cs := by
  rw [segments]
  split
  · rename_i h'
    cases h.symm.trans h'
  · rfl

/-- A text whose first segment is a tag begins with that tag. -/
theorem exists_segmentAt?_of_segments {cs : List Char} {n : Nat} {tag : List Char}
    {ss : List Segment} (h : segments cs = .tag n tag :: ss) :
    ∃ rest, segmentAt? cs = some (.tag n tag, rest) := by
  cases hs : segmentAt? cs with
  | some x =>
    rw [segments_of_segmentAt? hs, List.cons.injEq] at h
    exact ⟨x.2, by rw [← h.1]⟩
  | none =>
    cases cs with
    | nil =>
      rw [segments_nil] at h
      cases h
    | cons c cs =>
      rw [segments_cons hs] at h
      cases h

/-- A text that no tag begins in is read character by character. -/
theorem segments_append {w : List Char} (hw : ∀ c ∈ w, c ≠ '\\' ∧ c ≠ '[') (cs : List Char) :
    segments (w ++ cs) = w.map .char ++ segments cs := by
  induction w with
  | nil => rfl
  | cons c w ih =>
    obtain ⟨⟨hslash, hbracket⟩, hw⟩ := List.forall_mem_cons.1 hw
    have hnone : segmentAt? (c :: (w ++ cs)) = none := by
      rw [Option.eq_none_iff_forall_ne_some]
      rintro ⟨s, rest⟩ h
      obtain ⟨n, tag, -, -, heq⟩ := segmentAt?_eq_some_iff.1 h
      cases n with
      | zero => exact hbracket (List.cons.inj heq).1
      | succ n => exact hslash (List.cons.inj heq).1
    rw [List.cons_append, segments_cons hnone, ih hw]
    rfl

/-- Backslashes alone are characters. -/
theorem segments_replicate (k : Nat) :
    segments (List.replicate k '\\') = List.replicate k (.char '\\') := by
  induction k with
  | zero => exact segments_nil
  | succ k ih =>
    have hnone : segmentAt? (List.replicate (k + 1) '\\') = none := by
      rw [Option.eq_none_iff_forall_ne_some]
      rintro ⟨s, rest⟩ h
      obtain ⟨n, tag, -, -, heq⟩ := segmentAt?_eq_some_iff.1 h
      have hmem : '[' ∈ List.replicate (k + 1) '\\' := by rw [heq]; simp
      exact absurd (List.eq_of_mem_replicate hmem) (by decide)
    rw [List.replicate_succ] at hnone ⊢
    rw [segments_cons hnone, ih, List.replicate_succ]

/-- A segment after it was escaped. -/
def Segment.guarded : Segment → Segment
  | .char c => .char c
  | .tag n text => .tag (2 * n + 1) text

/-- The segments of a text escaped one by one, with backslashes behind them. -/
private def guardedText (k : Nat) (cs : List Char) : List Char :=
  (segments cs).flatMap Segment.escape ++ List.replicate k '\\'

private theorem guardedText_tag {k : Nat} {cs rest : List Char} {n : Nat} {tag : List Char}
    (h : segmentAt? cs = some (.tag n tag, rest)) :
    guardedText k cs =
      List.replicate (2 * n + 1) '\\' ++ '[' :: (tag ++ ']' :: guardedText k rest) := by
  rw [guardedText, segments_of_segmentAt? h]
  simp [guardedText, Segment.escape, Segment.write]

private theorem guardedText_cons (k : Nat) {c : Char} {cs : List Char}
    (h : segmentAt? (c :: cs) = none) : guardedText k (c :: cs) = c :: guardedText k cs := by
  rw [guardedText, segments_cons h]
  rfl

/-- What ends a tag in the escaped text ends it in the text: escaping puts nothing but backslashes
before opening brackets. -/
private theorem exists_of_guardedText_eq {k : Nat} {cs inner rest : List Char}
    (hinner : ∀ c ∈ inner, isInner c = true) (h : guardedText k cs = inner ++ ']' :: rest) :
    ∃ rest', cs = inner ++ ']' :: rest' := by
  have hclosing : isInner ']' = false := by decide
  have hopening : isInner '[' = false := by decide
  have hslash : isInner '\\' = true := by decide
  induction cs generalizing inner with
  | nil =>
    have hnil : guardedText k [] = List.replicate k '\\' := by
      rw [guardedText, segments_nil]
      rfl
    have hmem : ']' ∈ List.replicate k '\\' := by rw [← hnil, h]; simp
    exact absurd (List.eq_of_mem_replicate hmem) (by decide)
  | cons c cs ih =>
    cases hs : segmentAt? (c :: cs) with
    | none =>
      rw [guardedText_cons k hs] at h
      cases inner with
      | nil =>
        rw [(List.cons.inj h).1]
        exact ⟨cs, rfl⟩
      | cons d inner =>
        rw [List.cons_append, List.cons.injEq] at h
        obtain ⟨rfl, h⟩ := h
        obtain ⟨rest', rfl⟩ := ih (List.forall_mem_cons.1 hinner).2 h
        exact ⟨rest', rfl⟩
    | some x =>
      obtain ⟨s, behind⟩ := x
      obtain ⟨n, tag, rfl, -, -⟩ := segmentAt?_eq_some_iff.1 hs
      rw [guardedText_tag hs] at h
      have hslashes : ∀ d ∈ List.replicate (2 * n + 1) '\\', isInner d = true := by
        intro d hd
        rw [List.eq_of_mem_replicate hd, hslash]
      have hdrop := congrArg (List.dropWhile isInner) h
      rw [dropWhile_isInner hslashes hopening, dropWhile_isInner hinner hclosing] at hdrop
      cases hdrop

/-- The segments of a text that is escaped one by one are its escaped segments. -/
private theorem segments_guardedText (k : Nat) (cs : List Char) :
    segments (guardedText k cs) =
      (segments cs).map Segment.guarded ++ List.replicate k (.char '\\') := by
  fun_induction segments cs with
  | case1 cs s rest h _ ih =>
    obtain ⟨n, tag, rfl, htag, -⟩ := segmentAt?_eq_some_iff.1 h
    rw [guardedText_tag h, segments_of_segmentAt? (segmentAt?_eq_some_iff.2 ⟨_, _, rfl, htag, rfl⟩),
      ih]
    rfl
  | case2 h =>
    have hnil : guardedText k [] = List.replicate k '\\' := by
      rw [guardedText, segments_nil]
      rfl
    rw [hnil, segments_replicate]
    rfl
  | case3 c cs h ih =>
    have hnone : segmentAt? (c :: guardedText k cs) = none := by
      rw [Option.eq_none_iff_forall_ne_some]
      rintro ⟨s, rest⟩ hs
      obtain ⟨n, tag, -, htag, heq⟩ := segmentAt?_eq_some_iff.1 hs
      refine absurd h (Option.ne_none_iff_exists'.2 ?_)
      cases n with
      | zero =>
        rw [List.replicate_zero, List.nil_append, List.cons.injEq] at heq
        obtain ⟨rfl, heq⟩ := heq
        obtain ⟨rest', rfl⟩ := exists_of_guardedText_eq htag.2 heq
        exact ⟨_, segmentAt?_eq_some_iff.2 ⟨0, tag, rfl, htag, rfl⟩⟩
      | succ n =>
        rw [List.replicate_succ, List.cons_append, List.cons.injEq] at heq
        obtain ⟨rfl, heq⟩ := heq
        have hfirst := segments_of_segmentAt?
          (segmentAt?_eq_some_iff.2 ⟨n, tag, rfl, htag, heq⟩)
        rw [ih] at hfirst
        cases hseg : segments cs with
        | nil =>
          rw [hseg] at hfirst
          cases k <;> cases hfirst
        | cons s' ss =>
          rw [hseg, List.map_cons, List.cons_append] at hfirst
          cases s' with
          | char d => cases (List.cons.inj hfirst).1
          | tag m text =>
            obtain ⟨rest', hrest⟩ := exists_segmentAt?_of_segments hseg
            obtain ⟨m', text', htext, htag', rfl⟩ := segmentAt?_eq_some_iff.1 hrest
            exact ⟨_, segmentAt?_eq_some_iff.2 ⟨m' + 1, text', rfl, htag', rfl⟩⟩
    rw [guardedText_cons k h, segments_cons hnone, ih]
    rfl

/-- Escaping gives the tags of a text an odd number of backslashes, keeps its characters, and puts
at most one backslash behind them. -/
theorem segments_escape (cs : List Char) : ∃ k ≤ 1,
    segments (escape cs) = (segments cs).map Segment.guarded ++ List.replicate k (.char '\\') := by
  have hzero : guardedText 0 cs = (segments cs).flatMap Segment.escape := List.append_nil _
  have hone : guardedText 1 cs = (segments cs).flatMap Segment.escape ++ ['\\'] := rfl
  unfold escape
  dsimp only
  rw [← hzero, ← hone.trans (congrArg (· ++ ['\\']) hzero.symm)]
  split
  · exact ⟨0, by omega, segments_guardedText 0 cs⟩
  · exact ⟨1, by omega, segments_guardedText 1 cs⟩
  · exact ⟨0, by omega, segments_guardedText 0 cs⟩

/-- A segment that is shown as text. -/
def Segment.IsPlain : Segment → Prop
  | .char _ => True
  | .tag n _ => n % 2 = 1

/-- An escaped segment is shown as text. -/
theorem Segment.isPlain_guarded (s : Segment) : s.guarded.IsPlain := by
  cases s with
  | char c => trivial
  | tag n text =>
    change (2 * n + 1) % 2 = 1
    omega

/-- The segments of an escaped text are shown as text. -/
theorem isPlain_of_mem_segments_escape {cs : List Char} {s : Segment}
    (h : s ∈ segments (escape cs)) : s.IsPlain := by
  obtain ⟨k, -, heq⟩ := segments_escape cs
  rw [heq, List.mem_append, List.mem_map] at h
  rcases h with ⟨s', -, rfl⟩ | h
  · exact s'.isPlain_guarded
  · rw [List.eq_of_mem_replicate h]
    trivial

/-- What is shown as text can be shown, whatever styles are open. -/
theorem exists_shown_eq_ok {ss : List Segment} (h : ∀ s ∈ ss, s.IsPlain)
    (opened : List (List Char)) (position : Nat) (held : List Char) :
    ∃ out, shown opened (pieces position held ss) = .ok out := by
  induction ss generalizing position held with
  | nil => exact ⟨_, rfl⟩
  | cons s ss ih =>
    obtain ⟨hs, hss⟩ := List.forall_mem_cons.1 h
    cases s with
    | char c => exact ih hss _ _
    | tag n text =>
      have hodd : n % 2 = 1 := hs
      obtain ⟨out, hout⟩ := ih hss (position + n + text.length + 2) []
      simp only [pieces, hodd, if_true, shown, hout]
      exact ⟨_, rfl⟩

/-- Characters are held back until a tag comes. -/
theorem pieces_append (position : Nat) (held w : List Char) (ss : List Segment) :
    pieces position held (w.map .char ++ ss) =
      pieces (position + w.length) (w.reverse ++ held) ss := by
  induction w generalizing position held with
  | nil => rfl
  | cons c w ih =>
    rw [List.map_cons, List.cons_append, pieces, ih]
    congr 1
    · simp only [List.length_cons]
      omega
    · simp

/-- Nothing is shown of no text. -/
theorem shownText_nil : shownText [] = [] := by
  have hreplace : Text.replace ['\\', '['] ['['] [] = [] := rfl
  rw [shownText, hreplace, Shortcode.replace]

/-- A tag at the front of a text is its first segment, with no backslashes before it. -/
theorem segments_tag {tag : List Char} (h : IsTag tag) (rest : List Char) :
    segments ('[' :: (tag ++ ']' :: rest)) = .tag 0 tag :: segments rest :=
  segments_of_segmentAt? (segmentAt?_eq_some_iff.2 ⟨0, tag, rfl, h, rfl⟩)

/-- The name of a style that is opened by a tag of its own and closed by that tag with a slash. -/
structure IsStyleName (style : List Char) : Prop where
  isTag : IsTag style
  opens : style.head? ≠ some '/'
  whole : tagName style = style
  trimmed : Text.stripBlank style = style

instance (style : List Char) : Decidable (IsStyleName style) :=
  decidable_of_iff (IsTag style ∧ style.head? ≠ some '/' ∧ tagName style = style ∧
      Text.stripBlank style = style)
    ⟨fun ⟨h, ho, hw, ht⟩ => ⟨h, ho, hw, ht⟩, fun h => ⟨h.isTag, h.opens, h.whole, h.trimmed⟩⟩

namespace IsStyleName

variable {style : List Char} (h : IsStyleName style)
include h

theorem closing : IsTag ('/' :: style) :=
  ⟨rfl, List.forall_mem_cons.2 ⟨by decide, h.isTag.2⟩⟩

/-- A style is opened whatever is open. -/
theorem follow_open (opened : List (List Char)) (position : Nat) :
    follow opened position style = .ok (Style.normalName style :: opened) := by
  unfold follow
  split
  · rename_i closing heq
    exact absurd (by rw [← h.whole, heq]; rfl) h.opens
  · rw [h.whole]

/-- The style that was opened last can be closed. -/
theorem follow_close (opened : List (List Char)) (position : Nat) :
    follow (Style.normalName style :: opened) position ('/' :: style) = .ok opened := by
  have hname : tagName ('/' :: style) = '/' :: style := by
    rw [tagName, List.takeWhile_cons_of_pos (by decide)]
    exact congrArg ('/' :: ·) h.whole
  have hcontains : (Style.normalName style :: opened).contains (Style.normalName style) = true :=
    List.contains_iff_mem.2 List.mem_cons_self
  unfold follow
  simp only [hname, h.trimmed]
  cases style with
  | nil => exact absurd h.isTag.1 (by decide)
  | cons c cs => simp only [hcontains, if_true, List.erase_cons_head]

/-- A styled word before a text is shown before what the text shows. -/
theorem render_styled {word : List Char} (hword : ∀ c ∈ word, c ≠ '\\' ∧ c ≠ '[') (cs : List Char) :
    render ('[' :: (style ++ ']' :: (word ++ '[' :: ('/' :: style ++ ']' :: cs)))) =
      (shown [] (pieces (style.length + 2 + word.length + (style.length + 1) + 2) []
        (segments cs))).map (shownText word ++ ·) := by
  rw [render, segments_tag h.isTag, segments_append hword, segments_tag h.closing]
  simp only [pieces, pieces_append, Nat.zero_mod, Nat.zero_add, Nat.add_zero, Nat.zero_div,
    Nat.reduceEqDiff, if_false, shown, h.follow_open, h.follow_close, List.reverse_nil,
    List.replicate_zero, List.append_nil, List.reverse_reverse, shownText_nil, List.length_cons]
  cases shown [] (pieces _ [] (segments cs)) <;> rfl

/-- A styled word before escaped text can be shown. -/
theorem exists_render_eq_ok {word : List Char} (hword : ∀ c ∈ word, c ≠ '\\' ∧ c ≠ '[')
    (cs : List Char) :
    ∃ out, render ('[' :: (style ++ ']' :: (word ++ '[' :: ('/' :: style ++ ']' :: ' ' ::
      escape cs)))) = .ok out := by
  have hgap : segments (' ' :: escape cs) = .char ' ' :: segments (escape cs) :=
    segments_append (w := [' ']) (by simp) (escape cs)
  have hplain : ∀ s ∈ Segment.char ' ' :: segments (escape cs), s.IsPlain :=
    List.forall_mem_cons.2 ⟨trivial, fun s hs => isPlain_of_mem_segments_escape hs⟩
  rw [h.render_styled hword, hgap]
  obtain ⟨out, hout⟩ := exists_shown_eq_ok hplain []
    (style.length + 2 + word.length + (style.length + 1) + 2) []
  exact ⟨_, by rw [hout]; rfl⟩

end IsStyleName

end Markup

/-- An error can be shown, whatever its message is. -/
theorem exists_error_eq_ok (message : String) : ∃ text, error message [] = .ok text := by
  have hstyle : Markup.IsStyleName "red".toList := by decide
  have hword : ∀ c ∈ "Error:".toList, c ≠ '\\' ∧ c ≠ '[' := by simp
  obtain ⟨out, hout⟩ := hstyle.exists_render_eq_ok hword message.toList
  have hleading : leading "[red]Error:[/red] " message =
      .ok (String.ofList (displayed out ++ ['\n'])) := by
    rw [leading, line]
    exact congrArg (Except.map _) hout
  exact ⟨_, Except.bind_eq_ok.2 ⟨_, hleading, rfl⟩⟩

end TypeWeave.Console
