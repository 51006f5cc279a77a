import TypeWeave.Proofs.Console.Escape
import TypeWeave.Proofs.Text.Replace
import Mathlib.Data.List.Infix

/-!
# Text that the console shows as it is

Escaping keeps tags from being followed, but two things still happen to escaped text: emoji codes
are replaced, and a backslash before a bracket that begins no tag is dropped. Text in which neither
occurs is shown character for character. Main statements: `shown_guarded` for the segments of an
escaped text, and `error_eq` and `remark_eq` for the lines that the console shows.
-/

namespace TypeWeave.Console

namespace Shortcode

/-- A text that holds the code of an emoji. -/
def HasCode (text : List Char) : Prop :=
  ∃ before name after, text = before ++ ':' :: (name ++ ':' :: after) ∧
    (∀ c ∈ name, isNameChar c = true) ∧ (value? name).isSome = true

/-- A text around one with a code has a code. -/
theorem HasCode.of_part {part text : List Char} (h : HasCode part) (hpart : part <:+: text) :
    HasCode text := by
  obtain ⟨before, name, after, rfl, hname, hvalue⟩ := h
  obtain ⟨front, back, rfl⟩ := hpart
  exact ⟨front ++ before, name, after ++ back, by simp, hname, hvalue⟩

/-- A name is read up to the next colon. -/
theorem nameAt?_eq_some_iff {cs name rest : List Char} : nameAt? cs = some (name, rest) ↔
    cs = name ++ ':' :: rest ∧ ∀ c ∈ name, isNameChar c = true := by
  have hcolon : isNameChar ':' = false := by decide +kernel
  constructor
  · intro h
    unfold nameAt? at h
    split at h
    · rename_i behind hbehind
      obtain ⟨rfl, rfl⟩ := Prod.mk.inj (Option.some.inj h)
      exact ⟨by rw [← hbehind, List.takeWhile_append_dropWhile],
        fun c hc => List.all_eq_true.1 List.all_takeWhile c hc⟩
    · cases h
  · rintro ⟨rfl, hname⟩
    rw [nameAt?, List.dropWhile_append_of_pos hname, List.dropWhile_cons_of_neg (by simp [hcolon]),
      List.takeWhile_append_of_pos hname, List.takeWhile_cons_of_neg (by simp [hcolon]),
      List.append_nil]
    rfl

/-- Whether a text begins with the code of an emoji. -/
def startsCode : List Char → Bool
  | ':' :: cs => (nameAt? cs).any fun x => (value? x.1).isSome
  | _ => false

/-- The code of an emoji begins at some place of a text that holds one. -/
theorem hasCode_iff {text : List Char} : HasCode text ↔ ∃ s ∈ text.tails, startsCode s = true := by
  constructor
  · rintro ⟨before, name, after, rfl, hname, hvalue⟩
    refine ⟨':' :: (name ++ ':' :: after), (List.mem_tails _ _).2 (List.suffix_append _ _), ?_⟩
    rw [startsCode, nameAt?_eq_some_iff.2 ⟨rfl, hname⟩]
    exact hvalue
  · rintro ⟨s, hs, hcode⟩
    obtain ⟨before, rfl⟩ := (List.mem_tails _ _).1 hs
    unfold startsCode at hcode
    split at hcode
    · obtain ⟨⟨name, after⟩, hname, hvalue⟩ := (Option.any_eq_true _ _).1 hcode
      obtain ⟨rfl, hchars⟩ := nameAt?_eq_some_iff.1 hname
      exact ⟨before, name, after, rfl, hchars, hvalue⟩
    · cases hcode

instance (text : List Char) : Decidable (HasCode text) := decidable_of_iff' _ hasCode_iff

/-- A text without codes stays as it is. -/
theorem replace_eq_self {cs : List Char} (h : ¬HasCode cs) : replace cs = cs := by
  fun_induction replace cs with
  | case1 => rfl
  | case2 cs name rest hname _ ih =>
    obtain ⟨rfl, hchars⟩ := nameAt?_eq_some_iff.1 hname
    have hvalue : value? name = none := by
      rw [← Option.not_isSome_iff_eq_none]
      exact fun hsome => h ⟨[], name, rest, rfl, hchars, hsome⟩
    have hrest : rest <:+: ':' :: (name ++ ':' :: rest) := ⟨':' :: (name ++ [':']), [], by simp⟩
    rw [hvalue, ih fun hcode => h (hcode.of_part hrest)]
    simp
  | case3 cs _ ih => rw [ih fun hcode => h (hcode.of_part (List.suffix_cons _ cs).isInfix)]
  | case4 c cs _ ih => rw [ih fun hcode => h (hcode.of_part (List.suffix_cons c cs).isInfix)]

end Shortcode

namespace Markup

/-- A text with a backslash before a bracket that begins no tag. -/
def HasStraySlash (text : List Char) : Prop :=
  ∃ before after, text = before ++ '\\' :: '[' :: after ∧ tagAt? after = none

/-- Such a backslash stands at some place of the text. -/
theorem hasStraySlash_iff {text : List Char} : HasStraySlash text ↔ ∃ s ∈ text.tails,
    (match s with | '\\' :: '[' :: after => (tagAt? after).isNone | _ => false) = true := by
  constructor
  · rintro ⟨before, after, rfl, hafter⟩
    exact ⟨_, (List.mem_tails _ _).2 (List.suffix_append _ _), by simp [hafter]⟩
  · rintro ⟨s, hs, hslash⟩
    obtain ⟨before, rfl⟩ := (List.mem_tails _ _).1 hs
    split at hslash
    · exact ⟨before, _, rfl, Option.isNone_iff_eq_none.1 hslash⟩
    · cases hslash

instance (text : List Char) : Decidable (HasStraySlash text) := decidable_of_iff' _ hasStraySlash_iff

/-- A text that ends in one with such a backslash has one. -/
theorem HasStraySlash.of_suffix {part text : List Char} (h : HasStraySlash part)
    (hpart : part <:+ text) : HasStraySlash text := by
  obtain ⟨before, after, rfl, hafter⟩ := h
  obtain ⟨front, rfl⟩ := hpart
  exact ⟨front ++ before, after, by simp, hafter⟩

/-- Plain text is shown as it is, if it holds no code and no bracket behind a backslash. -/
theorem shownText_eq_self {cs : List Char} (hcode : ¬Shortcode.HasCode cs)
    (hslash : ¬['\\', '['] <:+: cs) : shownText cs = cs := by
  rw [shownText, Text.replace_of_absent _ hslash, Shortcode.replace_eq_self hcode]

/-- Backslashes alone are shown. -/
theorem shownText_replicate (n : Nat) :
    shownText (List.replicate n '\\') = List.replicate n '\\' := by
  have hmem {c : Char} (h : c ∈ List.replicate n '\\') : c = '\\' := List.eq_of_mem_replicate h
  refine shownText_eq_self ?_ fun h => ?_
  · rintro ⟨before, name, after, heq, -⟩
    exact absurd (hmem (c := ':') (by rw [heq]; simp)) (by decide)
  · exact absurd (hmem (h.mem (a := '[') (by simp))) (by decide)

/-- An escaped tag is shown with its brackets. -/
theorem shownText_tag {tag : List Char} (htag : IsTag tag)
    (hcode : ¬Shortcode.HasCode ('[' :: (tag ++ [']']))) :
    shownText ('[' :: (tag ++ [']'])) = '[' :: (tag ++ [']']) := by
  have hbracket : '[' ∉ tag ++ [']'] := by
    simpa using fun h => absurd (htag.2 _ h) (by decide)
  refine shownText_eq_self hcode ?_
  rintro ⟨before, after, heq⟩
  cases before with
  | nil => cases heq
  | cons d before =>
    have hrest : before ++ ['\\', '['] ++ after = tag ++ [']'] := (List.cons.inj heq).2
    exact hbracket (hrest ▸ by simp)

/-- A character that is not among those behind a text stands in the text, with all before it. -/
private theorem exists_eq_append_of_not_mem {c : Char} {before after text behind : List Char}
    (h : before ++ c :: after = text ++ behind) (hc : c ∉ behind) :
    ∃ after', text = before ++ c :: after' := by
  rcases List.append_eq_append_iff.1 h with ⟨part, rfl, hpart⟩ | ⟨part, rfl, rfl⟩
  · cases part with
    | nil =>
      rw [List.nil_append] at hpart
      exact absurd (hpart ▸ List.mem_cons_self) hc
    | cons d part =>
      rw [List.cons_append, List.cons.injEq] at hpart
      exact ⟨part, by rw [hpart.1]⟩
  · exact absurd (by simp) hc

/-- The held text is shown at the end of escaped text, and the backslashes behind it. -/
private theorem shownText_append_replicate {cs : List Char} (hcode : ¬Shortcode.HasCode cs)
    (hslash : ¬['\\', '['] <:+: cs) (k : Nat) :
    shownText (cs ++ List.replicate k '\\') = cs ++ List.replicate k '\\' := by
  have hnot {c : Char} (hc : c ≠ '\\') : c ∉ List.replicate k '\\' :=
    fun h => hc (List.eq_of_mem_replicate h)
  refine shownText_eq_self ?_ ?_
  · rintro ⟨before, name, after, heq, hname, hvalue⟩
    have heq' : (before ++ ':' :: name) ++ ':' :: after = cs ++ List.replicate k '\\' := by
      rw [heq, List.append_assoc, List.cons_append]
    obtain ⟨after', rfl⟩ := exists_eq_append_of_not_mem heq' (hnot (by decide))
    exact hcode ⟨before, name, after', by simp, hname, hvalue⟩
  · rintro ⟨before, after, heq⟩
    have heq' : (before ++ ['\\']) ++ '[' :: after = cs ++ List.replicate k '\\' := by
      rw [← heq]
      simp
    obtain ⟨after', rfl⟩ := exists_eq_append_of_not_mem heq' (hnot (by decide))
    exact hslash ⟨before, after', by simp⟩

/-- The segments of a text show the text once they are escaped, with text held back before them and
backslashes behind them. -/
theorem shown_guarded (k : Nat) (cs held : List Char) (position : Nat) (opened : List (List Char))
    (hcode : ¬Shortcode.HasCode (held.reverse ++ cs)) (hstray : ¬HasStraySlash (held.reverse ++ cs))
    (hheld : ¬['\\', '['] <:+: held.reverse) :
    shown opened (pieces position held
      ((segments cs).map Segment.guarded ++ List.replicate k (.char '\\'))) =
        .ok (held.reverse ++ cs ++ List.replicate k '\\') := by
  fun_induction segments cs generalizing position held with
  | case1 cs s rest h _ ih =>
    obtain ⟨n, tag, rfl, htag, rfl⟩ := segmentAt?_eq_some_iff.1 h
    have hodd : (2 * n + 1) % 2 = 1 := by omega
    have hhalf : (2 * n + 1) / 2 = n := by omega
    have hbefore : ¬Shortcode.HasCode held.reverse :=
      fun hc => hcode (hc.of_part (List.prefix_append _ _).isInfix)
    have htext : shownText ('[' :: (tag ++ [']'])) = '[' :: (tag ++ [']']) :=
      shownText_tag htag fun hc => hcode
        (hc.of_part ⟨held.reverse ++ List.replicate n '\\', rest, by simp⟩)
    have hrest : rest <:+ held.reverse ++ (List.replicate n '\\' ++ '[' :: (tag ++ ']' :: rest)) :=
      ⟨held.reverse ++ (List.replicate n '\\' ++ '[' :: (tag ++ [']'])), by simp⟩
    have hmore := ih [] (position + (2 * n + 1) + tag.length + 2)
      (fun hc => hcode (hc.of_part hrest.isInfix)) (fun hs => hstray (hs.of_suffix hrest))
      (by simp)
    simp only [List.map_cons, Segment.guarded, List.cons_append, pieces, hodd, hhalf, if_true,
      shown]
    rw [hmore, htext, shownText_eq_self hbefore hheld, shownText_replicate]
    simp [Except.map]
  | case2 =>
    have hpieces := pieces_append position held (List.replicate k '\\') []
    rw [List.append_nil, List.map_replicate] at hpieces
    rw [List.append_nil] at hcode ⊢
    rw [List.map_nil, List.nil_append, hpieces, pieces, shown, shown, List.reverse_append,
      List.reverse_reverse, shownText_append_replicate hcode hheld]
    simp [Except.map]
  | case3 c cs h ih =>
    have happend : held.reverse ++ c :: cs = (c :: held).reverse ++ cs := by simp
    rw [happend] at hcode hstray ⊢
    refine ih (c :: held) (position + 1) hcode hstray ?_
    rw [List.reverse_cons]
    rintro ⟨before, after, heq⟩
    rcases List.eq_nil_or_concat after with rfl | ⟨after, d, rfl⟩
    · have heq' : (before ++ ['\\']) ++ ['['] = held.reverse ++ [c] := by simpa using heq
      obtain ⟨hbefore, hc⟩ := List.append_inj' heq' rfl
      obtain rfl := List.singleton_inj.1 hc
      refine hstray ⟨before, cs, by rw [List.reverse_cons, ← hbefore]; simp, ?_⟩
      rw [Option.eq_none_iff_forall_ne_some]
      intro x hx
      have hsegment := segmentAt?_eq_some_iff.2
        ⟨0, x.1, rfl, (tagAt?_eq_some_iff.1 hx).1, congrArg ('[' :: ·) (tagAt?_eq_some_iff.1 hx).2⟩
      cases h.symm.trans hsegment
    · have heq' : (before ++ ['\\', '['] ++ after) ++ [d] = held.reverse ++ [c] := by
        simpa using heq
      exact hheld ⟨before, after, (List.append_inj' heq' rfl).1⟩

/-- A text that holds a tag. -/
def HasTag (text : List Char) : Prop :=
  ∃ before tag after, text = before ++ '[' :: (tag ++ ']' :: after) ∧ IsTag tag

/-- The tag begins at some place of the text. -/
theorem hasTag_iff {text : List Char} : HasTag text ↔ ∃ s ∈ text.tails,
    (match s with | '[' :: after => (tagAt? after).isSome | _ => false) = true := by
  constructor
  · rintro ⟨before, tag, after, rfl, htag⟩
    refine ⟨_, (List.mem_tails _ _).2 (List.suffix_append _ _), ?_⟩
    simp [tagAt?_eq_some_iff.2 ⟨htag, rfl⟩]
  · rintro ⟨s, hs, htag⟩
    obtain ⟨before, rfl⟩ := (List.mem_tails _ _).1 hs
    split at htag
    · obtain ⟨⟨tag, after⟩, hx⟩ := Option.isSome_iff_exists.1 htag
      obtain ⟨htext, rfl⟩ := tagAt?_eq_some_iff.1 hx
      exact ⟨before, tag, after, rfl, htext⟩
    · cases htag

instance (text : List Char) : Decidable (HasTag text) := decidable_of_iff' _ hasTag_iff

/-- A tag that begins in a text before a bracket ends in the text. -/
private theorem hasTag_of_append {text tag behind rest : List Char} (htag : IsTag tag)
    (h : text ++ '[' :: rest = '[' :: (tag ++ ']' :: behind)) (hne : text ≠ []) :
    HasTag text := by
  obtain ⟨c, text, rfl⟩ := List.exists_cons_of_ne_nil hne
  rw [List.cons_append, List.cons.injEq] at h
  obtain ⟨rfl, h⟩ := h
  rcases List.append_eq_append_iff.1 h with ⟨part, rfl, hpart⟩ | ⟨part, rfl, hpart⟩
  · cases part with
    | nil => cases hpart
    | cons d part =>
      obtain ⟨rfl, -⟩ := List.cons.inj hpart
      exact absurd (htag.2 '[' (by simp)) (by decide)
  · cases part with
    | nil => cases hpart
    | cons d part =>
      obtain ⟨rfl, -⟩ := List.cons.inj hpart
      exact ⟨[], tag, part, rfl, htag⟩

/-- A text without tags that does not end in a backslash is read character by character, also before
a bracket. -/
theorem segments_append_of_not_hasTag {cs : List Char} (htag : ¬HasTag cs)
    (hlast : cs.getLast? ≠ some '\\') (rest : List Char) :
    segments (cs ++ '[' :: rest) = cs.map .char ++ segments ('[' :: rest) := by
  induction cs with
  | nil => rfl
  | cons c cs ih =>
    have hslashes : ¬∀ d ∈ c :: cs, d = '\\' := fun hall =>
      hlast (by rw [List.getLast?_eq_some_getLast (List.cons_ne_nil c cs),
        hall _ (List.getLast_mem _)])
    have hnone : segmentAt? (c :: (cs ++ '[' :: rest)) = none := by
      rw [Option.eq_none_iff_forall_ne_some]
      rintro ⟨s, behind⟩ hs
      obtain ⟨n, tag, -, htext, heq⟩ := segmentAt?_eq_some_iff.1 hs
      rw [← List.cons_append] at heq
      rcases List.append_eq_append_iff.1 heq with ⟨part, hpart, -⟩ | ⟨part, hpart, hrest⟩
      · exact hslashes fun d hd =>
          List.eq_of_mem_replicate (n := n) (hpart ▸ List.mem_append_left _ hd)
      · cases part with
        | nil =>
          rw [List.append_nil] at hpart
          exact hslashes fun d hd => List.eq_of_mem_replicate (n := n) (hpart ▸ hd)
        | cons d part =>
          obtain ⟨before, inner, after, hinner, hinnerTag⟩ :=
            hasTag_of_append htext hrest.symm (List.cons_ne_nil d part)
          exact htag ⟨List.replicate n '\\' ++ before, inner, after, by
            rw [hpart, hinner, List.append_assoc], hinnerTag⟩
    have hmore := ih (fun ⟨before, tag, after, heq, h⟩ => htag ⟨c :: before, tag, after, by
      rw [heq, List.cons_append], h⟩) fun h => hlast (by rw [List.getLast?_cons, h]; rfl)
    rw [List.cons_append, segments_cons hnone, hmore]
    rfl

/-- What is shown as it is: characters that are printed or break a line, no code of an emoji, and no
backslash before a bracket that begins no tag. -/
structure IsVerbatim (text : List Char) : Prop where
  printable : ∀ c ∈ text, c = '\n' ∨ Text.isPrintable c = true
  codes : ¬Shortcode.HasCode text
  slashes : ¬HasStraySlash text

instance (text : List Char) : Decidable (IsVerbatim text) :=
  @decidable_of_iff _ ((∀ c ∈ text, c = '\n' ∨ Text.isPrintable c = true) ∧ ¬Shortcode.HasCode text ∧
    ¬HasStraySlash text) ⟨fun ⟨hp, hc, hs⟩ => ⟨hp, hc, hs⟩, fun h => ⟨h.printable, h.codes, h.slashes⟩⟩
    (@instDecidableAnd _ _ (List.decidableBAll _ _) inferInstance)

/-- Without tags, all that is shown is the text. -/
theorem IsVerbatim.shownText {text : List Char} (h : IsVerbatim text) (htag : ¬HasTag text) :
    shownText text = text := by
  refine shownText_eq_self h.codes ?_
  rintro ⟨before, after, heq⟩
  refine h.slashes ⟨before, after, by rw [← heq]; simp, ?_⟩
  rw [Option.eq_none_iff_forall_ne_some]
  rintro ⟨tag, rest⟩ hx
  obtain ⟨htext, rfl⟩ := tagAt?_eq_some_iff.1 hx
  exact htag ⟨before ++ ['\\'], tag, rest, by rw [← heq]; simp, htext⟩

/-- A text in a style of its own shows what it shows by itself, if no tag begins in it and it does
not escape the one behind it. -/
theorem IsStyleName.render_around {style : List Char} (h : IsStyleName style) {cs : List Char}
    (htag : ¬HasTag cs) (hlast : cs.getLast? ≠ some '\\') :
    render ('[' :: (style ++ ']' :: (cs ++ '[' :: ('/' :: style ++ [']'])))) =
      .ok (shownText cs) := by
  rw [render, segments_tag h.isTag, segments_append_of_not_hasTag htag hlast,
    segments_tag h.closing, segments_nil]
  simp only [pieces, pieces_append, Nat.zero_mod, Nat.zero_add, Nat.add_zero, Nat.zero_div,
    Nat.reduceEqDiff, if_false, shown, h.follow_open, h.follow_close, List.reverse_nil,
    List.replicate_zero, List.append_nil, List.reverse_reverse, shownText_nil]
  simp [Except.map]

end Markup

section Lines

open Markup

/-- Control characters are not printed. -/
theorem isPrintable_of_control {c : Char} (h : c = '\t' ∨ isSuppressed c = true) :
    Text.isPrintable c = false := by
  have hcontrol : ∀ n ∈ [0x7, 0x8, 0x9, 0xB, 0xC, 0xD], Text.isPrintable (Char.ofNat n) = false := by
    decide +kernel
  have hmem : c.toNat ∈ [0x7, 0x8, 0x9, 0xB, 0xC, 0xD] := by
    rcases h with rfl | h
    · decide
    · have hmore : ∀ n ∈ [0x7, 0x8, 0xB, 0xC, 0xD], n ∈ [0x7, 0x8, 0x9, 0xB, 0xC, 0xD] := by decide
      exact hmore _ (List.contains_iff_mem.1 h)
  rw [← Char.ofNat_toNat c]
  exact hcontrol _ hmem

/-- Text without tabs has none to expand. -/
theorem expandTabs_eq_self {cs : List Char} (h : '\t' ∉ cs) (size column : Nat) :
    expandTabs size column cs = cs := by
  induction cs generalizing column with
  | nil => rfl
  | cons c cs ih =>
    obtain ⟨hc, hcs⟩ := not_or.1 (List.mem_cons.not.1 h)
    rw [expandTabs, if_neg (Ne.symm hc)]
    split
    · rename_i hnewline
      rw [ih hcs, hnewline]
    · rw [ih hcs]

/-- Characters that are printed or break a line are shown as they are. -/
theorem displayed_eq_self {cs : List Char} (h : ∀ c ∈ cs, c = '\n' ∨ Text.isPrintable c = true) :
    displayed cs = cs := by
  have hcontrol {c : Char} (hc : c ∈ cs) : ¬(c = '\t' ∨ isSuppressed c = true) := by
    intro hcontrol
    rcases h c hc with rfl | hprintable
    · exact absurd hcontrol (by decide)
    · rw [isPrintable_of_control hcontrol] at hprintable
      cases hprintable
  have hkept : cs.filter (fun c => !isSuppressed c) = cs :=
    List.filter_eq_self.2 fun c hc => by simpa using (not_or.1 (hcontrol hc)).2
  rw [displayed, hkept, expandTabs_eq_self]
  exact fun htab => hcontrol htab (.inl rfl)

/-- The line of a verbatim text behind a styled word: the word, the text, at most one backslash. -/
theorem leading_eq {lead : String} {style word : List Char} (hstyle : IsStyleName style)
    (hlead : lead.toList = '[' :: (style ++ ']' :: (word ++ '[' :: ('/' :: style ++ [']', ' ']))))
    (hword : ∀ c ∈ word, (c ≠ '\\' ∧ c ≠ '[') ∧ Text.isPrintable c = true)
    (hshown : shownText word = word) {text : String} (h : IsVerbatim text.toList) :
    ∃ k ≤ 1, leading lead text =
      .ok (String.ofList (word ++ ' ' :: text.toList ++ List.replicate k '\\' ++ ['\n'])) := by
  obtain ⟨k, hk, hsegments⟩ := segments_escape text.toList
  refine ⟨k, hk, ?_⟩
  have hblank : ∀ c : Char, c = '\\' ∨ c = ' ' → Text.isPrintable c = true := by
    rintro c (rfl | rfl) <;> decide +kernel
  have hmarkup : lead.toList ++ escape text.toList =
      '[' :: (style ++ ']' :: (word ++ '[' :: ('/' :: style ++ ']' :: ' ' ::
        escape text.toList))) := by
    rw [hlead]
    simp
  have hgap : segments (' ' :: escape text.toList) =
      .char ' ' :: segments (escape text.toList) :=
    segments_append (w := [' ']) (by simp) (escape text.toList)
  have hcode : ¬Shortcode.HasCode (' ' :: text.toList) := fun ⟨before, name, after, heq, hname⟩ => by
    cases before with
    | nil => cases heq
    | cons d before => exact h.codes ⟨before, name, after, (List.cons.inj heq).2, hname⟩
  have hstray : ¬HasStraySlash (' ' :: text.toList) := fun ⟨before, after, heq, hafter⟩ => by
    cases before with
    | nil => cases heq
    | cons d before => exact h.slashes ⟨before, after, (List.cons.inj heq).2, hafter⟩
  have hprinted : ∀ c ∈ word ++ ' ' :: text.toList ++ List.replicate k '\\',
      c = '\n' ∨ Text.isPrintable c = true := by
    intro c hc
    simp only [List.mem_append, List.mem_cons] at hc
    rcases hc with (hc | rfl | hc) | hc
    · exact .inr (hword c hc).2
    · exact .inr (hblank ' ' (.inr rfl))
    · exact h.printable c hc
    · exact .inr (hblank c (.inl (List.eq_of_mem_replicate hc)))
  have hshows := shown_guarded k text.toList [' ']
    (style.length + 2 + word.length + (style.length + 1) + 2 + 1) [] hcode hstray (by decide)
  rw [leading, line, hmarkup, hstyle.render_styled fun c hc => (hword c hc).1, hgap, hsegments,
    pieces, hshows]
  have hline : word ++ ([' '] ++ text.toList ++ List.replicate k '\\') =
      word ++ ' ' :: text.toList ++ List.replicate k '\\' := by simp
  simp only [Except.map, hshown, List.reverse_singleton, hline, displayed_eq_self hprinted]

/-- An error with a verbatim message is told character for character. -/
theorem error_eq {message : String} (h : IsVerbatim message.toList) :
    ∃ tail, (tail = "\n" ∨ tail = "\\\n") ∧
      error message [] = .ok ("Error: " ++ message ++ tail) := by
  have hstyle : IsStyleName "red".toList := by decide
  have hlead : "[red]Error:[/red] ".toList = '[' :: ("red".toList ++ ']' ::
      ("Error:".toList ++ '[' :: ('/' :: "red".toList ++ [']', ' ']))) := rfl
  have hplain : ∀ c ∈ "Error:".toList, c ≠ '\\' ∧ c ≠ '[' := by simp
  have hprintable : "Error:".toList.all Text.isPrintable = true := by decide +kernel
  have hword : ∀ c ∈ "Error:".toList, (c ≠ '\\' ∧ c ≠ '[') ∧ Text.isPrintable c = true :=
    fun c hc => ⟨hplain c hc, List.all_eq_true.1 hprintable c hc⟩
  obtain ⟨k, hk, hleading⟩ := leading_eq hstyle hlead hword (by decide +kernel) h
  have herror {line : String} (hline : leading "[red]Error:[/red] " message = .ok line) :
      error message [] = .ok (String.join [line]) :=
    Except.bind_eq_ok.2 ⟨line, hline, rfl⟩
  refine ⟨String.ofList (List.replicate k '\\' ++ ['\n']), ?_, ?_⟩
  · rcases (by omega : k = 0 ∨ k = 1) with rfl | rfl
    · exact .inl rfl
    · exact .inr rfl
  · refine (herror hleading).trans (congrArg Except.ok (String.toList_inj.1 ?_))
    simp [String.join]

/-- Good news can be told, whatever they are. -/
theorem exists_success_eq_ok (message : String) : ∃ text, success message = .ok text := by
  have hstyle : IsStyleName "green".toList := by decide
  have hword : ∀ c ∈ ['✓'], c ≠ '\\' ∧ c ≠ '[' := by simp
  obtain ⟨out, hout⟩ := hstyle.exists_render_eq_ok hword message.toList
  have hleading : success message = .ok (String.ofList (displayed out ++ ['\n'])) := by
    rw [success, leading, line]
    exact congrArg (Except.map _) hout
  exact ⟨_, hleading⟩

section Remark

variable {text : String} (htag : ¬HasTag text.toList) (hlast : text.toList.getLast? ≠ some '\\')
include htag hlast

/-- A remark without tags shows what its text shows. -/
theorem remark_eq_shownText :
    remark text = .ok (String.ofList (displayed (shownText text.toList) ++ ['\n'])) := by
  have hstyle : IsStyleName "dim".toList := by decide
  have hmarkup : ("[dim]" ++ text ++ "[/dim]").toList = '[' :: ("dim".toList ++ ']' ::
      (text.toList ++ '[' :: ('/' :: "dim".toList ++ [']']))) := by simp
  rw [remark, line, hmarkup, hstyle.render_around htag hlast]
  rfl

/-- A verbatim remark without tags is told character for character. -/
theorem remark_eq (h : IsVerbatim text.toList) : remark text = .ok (text ++ "\n") := by
  rw [remark_eq_shownText htag hlast, h.shownText htag, displayed_eq_self h.printable,
    Except.ok.injEq, ← String.toList_inj]
  simp

end Remark

end Lines

end TypeWeave.Console
