import TypeWeave.Proofs.Go.LineEnd.Quoted

/-!
# Tokens and line ends

With a carriage return before each line feed a source has the same tokens, as long as no token but
raw strings goes on behind a line end: the texts of raw strings have carriage returns too, and all
tokens stand in the same rows and columns. Main statement: `tokens_crlf`.
-/

namespace TypeWeave.Go.Lexeme

open Text (crlf crlf_cons crlf_eq_self crlf_eq_nil)

/-- A token that goes on behind a line end is a raw string. -/
def IsSturdy (text : List Char) : Prop := '\n' ∈ text → text.head? = some '\x60'

instance (text : List Char) : Decidable (IsSturdy text) :=
  inferInstanceAs (Decidable ('\n' ∈ text → text.head? = some '\x60'))

/-- A quote with what is read behind it, or on its own. -/
def quoted (kind : Kind) (quote : Char) (cs : List Char) (read : Option Cut) : Kind × Cut :=
  match read with
  | some (taken, rest) => (kind, (quote :: taken, rest))
  | none => (.unknown, ([quote], cs))

section Quotes

variable {quote : Char} (hquote : quote ≠ '\n') (kind : Kind) (cs : List Char)
include hquote

theorem quoted_map_crlf (read : Option Cut) :
    quoted kind quote (crlf cs) (read.map crlfCut) =
      ((quoted kind quote cs read).1, crlfCut (quoted kind quote cs read).2) := by
  cases read <;> simp [quoted, crlfCut, crlf_cons hquote]

/-- What a quote other than that of raw strings starts is within its line, if it is sturdy. -/
theorem quoted_crlf (hraw : quote ≠ '\x60') {read : Option Cut}
    (hsturdy : IsSturdy (quoted kind quote cs read).2.1) :
    quoted kind quote (crlf cs) (crlfCut? read) =
      ((quoted kind quote cs read).1, crlfCut (quoted kind quote cs read).2) := by
  rw [← quoted_map_crlf hquote]
  congr 1
  cases read with
  | none => rfl
  | some cut =>
    have hline : '\n' ∉ cut.1 := fun hmem =>
      hraw (Option.some.inj (hsturdy (List.mem_cons_of_mem quote hmem)))
    simp [crlfCut?, hline]

end Quotes

/-- The first of some literals that a text starts with is that of both texts. -/
theorem findSome?_dropPrefix?_crlf (ss : List (List Char))
    (h : ∀ s ∈ ss, '\n' ∉ s ∧ '\r' ∉ s) (cs : List Char) :
    (ss.findSome? fun s => (Text.dropPrefix? s (crlf cs)).map fun rest => (s, rest)) =
      (ss.findSome? fun s => (Text.dropPrefix? s cs).map fun rest => (s, rest)).map crlfCut := by
  induction ss with
  | nil => rfl
  | cons s ss ih =>
    obtain ⟨⟨hn, hr⟩, hss⟩ := List.forall_mem_cons.1 h
    rw [List.findSome?_cons, List.findSome?_cons, Text.dropPrefix?_crlf hn hr]
    cases Text.dropPrefix? s cs with
    | none => exact ih hss
    | some rest => simp [crlfCut, crlf_eq_self hn]

theorem isNameRest_newline : isNameRest '\n' = false ∧ isNameRest '\r' = false := by
  decide +kernel

/-- A name is within its line. -/
theorem newline_not_mem_of_all {cs : List Char} (h : cs.all isNameRest = true) : '\n' ∉ cs := by
  intro hmem
  have hname := List.all_eq_true.1 h _ hmem
  rw [isNameRest_newline.1] at hname
  cases hname

/-- A token that starts with no quote: a word, a number, a symbol or an unknown character. -/
theorem token_of_ne {c : Char} (hc : c ≠ '"' ∧ c ≠ '\x60' ∧ c ≠ '\x27') (cs : List Char) :
    token (c :: cs) =
      if isNameStart c then
        (if keywords.contains (String.ofList ((c :: cs).takeWhile isNameRest)) then .keyword
          else .word, ((c :: cs).takeWhile isNameRest, (c :: cs).dropWhile isNameRest))
      else
        match (basedNumber? (c :: cs)).or (decimalNumber? (c :: cs)) with
        | some cut => (.number, cut)
        | none =>
          match symbols.findSome? fun s =>
              (Text.dropPrefix? s (c :: cs)).map fun rest => (s, rest) with
          | some cut => (.symbol, cut)
          | none => (.unknown, ([c], cs)) := by
  unfold token
  split
  · rename_i heq
    cases heq
  · rename_i heq
    exact absurd (List.cons.inj heq).1 hc.1
  · rename_i heq
    exact absurd (List.cons.inj heq).1 hc.2.1
  · rename_i heq
    exact absurd (List.cons.inj heq).1 hc.2.2
  · rename_i heq
    obtain ⟨rfl, rfl⟩ := List.cons.inj heq
    rw [Option.orElse_eq_or]
    rfl

/-- A token is the same in both texts, unless it goes on behind a line end and is no raw string. -/
theorem token_crlf {c : Char} (hc : c ≠ '\n') (cs : List Char)
    (hsturdy : IsSturdy (token (c :: cs)).2.1) :
    token (c :: crlf cs) = ((token (c :: cs)).1, crlfCut (token (c :: cs)).2) := by
  by_cases hstring : c = '"'
  · subst hstring
    have hread := stringRest?_crlf (Nat.lt_succ_self cs.length) (Nat.lt_succ_self (crlf cs).length)
    have htoken (cs : List Char) : token ('"' :: cs) =
        quoted .string '"' cs (stringRest? (cs.length + 1) cs) := rfl
    rw [htoken] at hsturdy
    rw [htoken, htoken, hread]
    exact quoted_crlf hc .string cs (by decide) hsturdy
  · by_cases hraw : c = '\x60'
    · subst hraw
      have htoken (cs : List Char) : token ('\x60' :: cs) =
          quoted .string '\x60' cs (rawRest? cs) := rfl
      rw [htoken, htoken, rawRest?_crlf]
      exact quoted_map_crlf hc .string cs _
    · by_cases hcharacter : c = '\x27'
      · subst hcharacter
        have htoken (cs : List Char) : token ('\x27' :: cs) =
            quoted .character '\x27' cs (characterRest? cs) := rfl
        rw [htoken] at hsturdy
        rw [htoken, htoken, characterRest?_crlf]
        exact quoted_crlf hc .character cs (by decide) hsturdy
      · rw [token_of_ne ⟨hstring, hraw, hcharacter⟩, token_of_ne ⟨hstring, hraw, hcharacter⟩,
          ← crlf_cons hc, basedNumber?_crlf, decimalNumber?_crlf,
          findSome?_dropPrefix?_crlf symbols (by decide),
          Text.takeWhile_crlf isNameRest_newline.1 isNameRest_newline.2,
          Text.dropWhile_crlf isNameRest_newline.1 isNameRest_newline.2]
        split
        · rw [crlfCut, crlf_eq_self (newline_not_mem_of_all List.all_takeWhile)]
        · cases basedNumber? (c :: cs) with
          | some cut => rfl
          | none =>
            cases decimalNumber? (c :: cs) with
            | some cut => rfl
            | none =>
              cases symbols.findSome? fun s =>
                  (Text.dropPrefix? s (c :: cs)).map fun rest => (s, rest) with
              | some cut => rfl
              | none => simp [crlfCut, crlf_cons hc]

/-- A line comment goes up to the line end. -/
theorem comment?_line {line : List Char} (h : '\n' ∉ line) (rest : List Char)
    (hrest : rest = [] ∨ rest.head? = some '\n') :
    comment? ('/' :: '/' :: (line ++ rest)) = some ('/' :: '/' :: line, rest) := by
  have hline : ∀ c ∈ '/' :: '/' :: line, (c != '\n') = true := by
    intro c hc
    have hne : c ≠ '\n' := by
      rintro rfl
      simp at hc
      exact h hc
    simpa using hne
  have hspan : ('/' :: '/' :: (line ++ rest)).span (· != '\n') = ('/' :: '/' :: line, rest) := by
    rw [List.span_eq_takeWhile_dropWhile, ← List.cons_append, ← List.cons_append,
      List.takeWhile_append_of_pos hline, List.dropWhile_append_of_pos hline]
    rcases hrest with rfl | hrest
    · simp
    · obtain ⟨rest, rfl⟩ := List.head?_eq_some_iff.1 hrest
      simp
  exact congrArg some hspan

/-- Any other comment is the same in both texts. -/
theorem comment?_crlf {c : Char} (hc : c ≠ '\n') {cs : List Char}
    (hline : c = '/' → cs.head? ≠ some '/') :
    comment? (c :: crlf cs) = (comment? (c :: cs)).map crlfCut := by
  have hstar : '*' ≠ '\n' := by decide
  rcases cs with _ | ⟨d, cs⟩
  · simp [comment?]
  · by_cases hslash : c = '/'
    · subst hslash
      by_cases hd : d = '*'
      · subst hd
        have hblock (cs : List Char) : comment? ('/' :: '*' :: cs) =
            (commentRest? cs).map fun cut => ('/' :: '*' :: cut.1, cut.2) := rfl
        rw [crlf_cons hstar, hblock, hblock, commentRest?_crlf, Option.map_map, Option.map_map]
        simp [Function.comp_def, crlfCut, crlf_cons hstar, crlf_cons hc]
      · have hd' : d ≠ '/' := fun heq => hline rfl (congrArg some heq)
        have hnone : comment? ('/' :: d :: cs) = none := by simp [comment?, hd, hd']
        rw [hnone]
        by_cases hn : d = '\n'
        · subst hn
          rfl
        · simp [crlf_cons hn, comment?, hd, hd']
    · simp [comment?, hslash]

end TypeWeave.Go.Lexeme

namespace TypeWeave.Go

open Text (crlf crlf_cons crlf_eq_self crlfString)

/-- A place of a source, in the source with carriage returns. -/
def Place.moved (source : List Char) (p : Place) : Place :=
  { p with offset := (crlf (source.take p.offset)).length }

/-- The characters behind a place move the place behind them. -/
theorem Place.moved_foldl_after {source before cs rest : List Char} {here : Place}
    (hsource : source = before ++ (cs ++ rest)) (hhere : here.offset = before.length) :
    (cs.foldl Place.after here).moved source =
        (crlf cs).foldl Place.after (here.moved source) ∧
      (cs.foldl Place.after here).offset = before.length + cs.length := by
  have hoffset {before rest : List Char} {p : Place} (hsource : source = before ++ rest)
      (hp : p.offset = before.length) : (p.moved source).offset = (crlf before).length := by
    rw [Place.moved, hsource, hp, List.take_left]
  induction cs generalizing before here with
  | nil => exact ⟨rfl, hhere⟩
  | cons c cs ih =>
    have hsource' : source = (before ++ [c]) ++ (cs ++ rest) := by rw [hsource]; simp
    have hhere' : (here.after c).offset = (before ++ [c]).length := by
      rw [Place.after]
      split <;> simp [hhere]
    obtain ⟨hmoved, hlength⟩ := ih hsource' hhere'
    have hfirst := hoffset hsource hhere
    have hsecond := hoffset hsource' hhere'
    refine ⟨?_, by rw [List.foldl_cons, hlength]; simp; omega⟩
    rw [List.foldl_cons, hmoved]
    by_cases hc : c = '\n'
    · subst hc
      rw [Text.crlf_newline, List.foldl_cons, List.foldl_cons]
      congr 1
      simp only [Place.moved, Place.after, beq_self_eq_true, if_true, Text.crlf_append,
        Text.crlf_newline, List.length_append, List.length_cons, Text.crlf_nil,
        List.length_nil] at hfirst hsecond ⊢
      simp [hfirst, hsecond]
    · rw [crlf_cons hc, List.foldl_cons]
      congr 1
      simp only [Place.moved, Place.after, beq_eq_false_iff_ne.2 hc, Bool.false_eq_true, if_false,
        Text.crlf_append, crlf_cons hc, List.length_append, List.length_cons, Text.crlf_nil,
        List.length_nil] at hfirst hsecond ⊢
      simp [hfirst, hsecond]

namespace Lexeme

/-- A token of a source, in the source with carriage returns. -/
def moved (source : List Char) (t : Lexeme) : Lexeme where
  kind := t.kind
  text := crlfString t.text
  start := t.start.moved source
  stop := t.stop.moved source
  afterLine := t.afterLine
  afterComment := t.afterComment
  plain h := by
    have hname := t.plain h
    have hline := newline_not_mem_of_all (Bool.and_eq_true_iff.1 hname).2
    rwa [Text.crlfString_toList, crlf_eq_self hline]

/-- Tokens with the same parts are the same. -/
theorem eq_of_parts {t u : Lexeme} (hkind : t.kind = u.kind) (htext : t.text = u.text)
    (hstart : t.start = u.start) (hstop : t.stop = u.stop) (hline : t.afterLine = u.afterLine)
    (hcomment : t.afterComment = u.afterComment) : t = u := by
  cases t
  cases u
  simp_all

section From

variable {fuel : Nat} {here : Place} {afterLine afterComment : Bool} {c : Char} {cs : List Char}

theorem tokensFrom_blank (h : (Text.isBlank c && c.toNat ∉ [0x1C, 0x1D, 0x1E, 0x1F]) = true) :
    tokensFrom (fuel + 1) here afterLine afterComment (c :: cs) =
      tokensFrom fuel (here.after c) (afterLine || c == '\n') afterComment cs := by
  rw [tokensFrom, if_pos h]

theorem tokensFrom_comment (h : ¬(Text.isBlank c && c.toNat ∉ [0x1C, 0x1D, 0x1E, 0x1F]) = true)
    {cut : Cut} (hcut : comment? (c :: cs) = some cut) :
    tokensFrom (fuel + 1) here afterLine afterComment (c :: cs) =
      tokensFrom fuel (cut.1.foldl Place.after here) afterLine true cut.2 := by
  rw [tokensFrom, if_neg h, hcut]

/-- The text of a word that is cut off is a name. -/
theorem isName_text {cs : List Char} (h : (token cs).1 = .word) :
    isName (String.ofList (token cs).2.1).toList = true := by
  rw [String.toList_ofList]
  exact isName_token h

/-- The first of the tokens from a place on. -/
def first (here : Place) (afterLine afterComment : Bool) (cs : List Char) : Lexeme where
  kind := (token cs).1
  text := String.ofList (token cs).2.1
  start := here
  stop := (token cs).2.1.foldl Place.after here
  afterLine := afterLine
  afterComment := afterComment
  plain := isName_text

theorem tokensFrom_token (h : ¬(Text.isBlank c && c.toNat ∉ [0x1C, 0x1D, 0x1E, 0x1F]) = true)
    (hcut : comment? (c :: cs) = none) :
    tokensFrom (fuel + 1) here afterLine afterComment (c :: cs) =
      first here afterLine afterComment (c :: cs) ::
        tokensFrom fuel ((token (c :: cs)).2.1.foldl Place.after here) false false
          (token (c :: cs)).2.2 := by
  rw [tokensFrom, if_neg h, hcut]
  rfl

/-! What is cut off a text at a place is a blank, a line comment, another comment or a token. In each
case the tokens are the same in both texts, if those behind what is cut off are. -/

section Cuts

variable {source before : List Char} {fuel' : Nat}

/-- The tokens behind whatever is cut off a text are the same in both texts, if they are sturdy. -/
def SameBehind (source : List Char) (fuel : Nat) (here : Place) (cs : List Char) : Prop :=
  ∀ (taken rest : List Char) (line comment : Bool) (f : Nat), taken ++ rest = cs → taken ≠ [] →
    (crlf rest).length < f →
    (∀ t ∈ tokensFrom fuel (taken.foldl Place.after here) line comment rest,
      IsSturdy t.text.toList) →
    tokensFrom f ((crlf taken).foldl Place.after (here.moved source)) line comment (crlf rest) =
      (tokensFrom fuel (taken.foldl Place.after here) line comment rest).map (moved source)

theorem tokensFrom_crlf_blank (hbehind : SameBehind source fuel here (c :: cs))
    (hblank : (Text.isBlank c && c.toNat ∉ [0x1C, 0x1D, 0x1E, 0x1F]) = true)
    (hfuel : (crlf (c :: cs)).length < fuel' + 1)
    (hsturdy : ∀ t ∈ tokensFrom (fuel + 1) here afterLine afterComment (c :: cs),
      IsSturdy t.text.toList) :
    tokensFrom (fuel' + 1) (here.moved source) afterLine afterComment (crlf (c :: cs)) =
      (tokensFrom (fuel + 1) here afterLine afterComment (c :: cs)).map (moved source) := by
  rw [tokensFrom_blank hblank] at hsturdy ⊢
  by_cases hc : c = '\n'
  · subst hc
    rw [Text.crlf_newline, List.length_cons, List.length_cons] at hfuel
    obtain ⟨fuel', rfl⟩ : ∃ f, fuel' = f + 1 := ⟨fuel' - 1, by omega⟩
    have hlines : (afterLine || '\r' == '\n' || '\n' == '\n') = (afterLine || '\n' == '\n') := by
      simp
    rw [Text.crlf_newline, tokensFrom_blank (by decide), tokensFrom_blank hblank, hlines]
    exact hbehind ['\n'] cs _ _ _ rfl (by simp) (by omega) hsturdy
  · rw [crlf_cons hc, List.length_cons] at hfuel
    have hmore := hbehind [c] cs _ _ fuel' rfl (by simp) (by omega) hsturdy
    rw [crlf_cons hc] at hmore ⊢
    rw [tokensFrom_blank hblank]
    exact hmore

/-- A line comment that a line end follows. -/
theorem tokensFrom_crlf_lineComment {line rest : List Char} (hline : '\n' ∉ line)
    (hbehind : SameBehind source fuel here ('/' :: '/' :: (line ++ '\n' :: rest)))
    (hfuel : (crlf ('/' :: '/' :: (line ++ '\n' :: rest))).length < fuel' + 1)
    (hsturdy : ∀ t ∈ tokensFrom (fuel + 1) here afterLine afterComment
      ('/' :: '/' :: (line ++ '\n' :: rest)), IsSturdy t.text.toList) :
    tokensFrom (fuel' + 1) (here.moved source) afterLine afterComment
        (crlf ('/' :: '/' :: (line ++ '\n' :: rest))) =
      (tokensFrom (fuel + 1) here afterLine afterComment
        ('/' :: '/' :: (line ++ '\n' :: rest))).map (moved source) := by
  have hslash : '/' ≠ '\n' := by decide
  have hblank : ¬(Text.isBlank '/' && '/'.toNat ∉ [0x1C, 0x1D, 0x1E, 0x1F]) = true := by decide
  have hcut := comment?_line hline ('\n' :: rest) (.inr rfl)
  have hline' : '\n' ∉ line ++ ['\r'] := by simpa using hline
  have hcut' := comment?_line hline' ('\n' :: crlf rest) (.inr rfl)
  have hcrlf : crlf ('/' :: '/' :: (line ++ '\n' :: rest)) =
      '/' :: '/' :: ((line ++ ['\r']) ++ '\n' :: crlf rest) := by
    simp [crlf_cons hslash, crlf_eq_self hline]
  have hslashes : crlf ('/' :: '/' :: line) = '/' :: '/' :: line := by
    rw [crlf_cons hslash, crlf_cons hslash, crlf_eq_self hline]
  rw [tokensFrom_comment hblank hcut] at hsturdy ⊢
  rw [hcrlf] at hfuel ⊢
  rw [tokensFrom_comment hblank hcut']
  have hreturn : tokensFrom fuel' (('/' :: '/' :: (line ++ ['\r'])).foldl Place.after
      (here.moved source)) afterLine true ('\n' :: crlf rest) =
      tokensFrom (fuel' + 1) ((crlf ('/' :: '/' :: line)).foldl Place.after
        (here.moved source)) afterLine true (crlf ('\n' :: rest)) := by
    rw [hslashes, Text.crlf_newline, tokensFrom_blank (by decide), ← List.cons_append,
      ← List.cons_append, List.foldl_append]
    simp
  refine hreturn.trans (hbehind _ _ _ _ _ rfl (by simp) ?_ hsturdy)
  simp only [List.length_append, List.length_cons, Text.crlf_newline] at hfuel ⊢
  omega

/-- A line comment at the end of the text. -/
theorem tokensFrom_crlf_lastComment {line : List Char} (hline : '\n' ∉ line)
    (hbehind : SameBehind source fuel here ('/' :: '/' :: line))
    (hfuel : (crlf ('/' :: '/' :: line)).length < fuel' + 1)
    (hsturdy : ∀ t ∈ tokensFrom (fuel + 1) here afterLine afterComment ('/' :: '/' :: line),
      IsSturdy t.text.toList) :
    tokensFrom (fuel' + 1) (here.moved source) afterLine afterComment (crlf ('/' :: '/' :: line)) =
      (tokensFrom (fuel + 1) here afterLine afterComment ('/' :: '/' :: line)).map
        (moved source) := by
  have hblank : ¬(Text.isBlank '/' && '/'.toNat ∉ [0x1C, 0x1D, 0x1E, 0x1F]) = true := by decide
  have hcut := comment?_line hline [] (.inl rfl)
  rw [List.append_nil] at hcut
  have hslashes : crlf ('/' :: '/' :: line) = '/' :: '/' :: line := crlf_eq_self (by simp [hline])
  rw [tokensFrom_comment hblank hcut] at hsturdy ⊢
  have hmore := hbehind _ [] _ _ fuel' (List.append_nil _) (by simp)
    (by simp [hslashes] at hfuel ⊢; omega) hsturdy
  rw [hslashes] at hmore ⊢
  rw [tokensFrom_comment hblank hcut]
  exact hmore

/-- What is left of a text behind a part of it is shorter in both texts. -/
theorem length_crlf_lt {taken rest : List Char} (hcut : taken ++ rest = cs) (hne : taken ≠ [])
    (hfuel : (crlf cs).length < fuel' + 1) : (crlf rest).length < fuel' := by
  have hpos := List.length_pos_of_ne_nil hne
  have hle := Text.length_le_length_crlf taken
  rw [← hcut, Text.crlf_append, List.length_append] at hfuel
  omega

theorem tokensFrom_crlf_token (hsource : source = before ++ c :: cs)
    (hhere : here.offset = before.length) (hbehind : SameBehind source fuel here (c :: cs))
    (hblank : ¬(Text.isBlank c && c.toNat ∉ [0x1C, 0x1D, 0x1E, 0x1F]) = true)
    (hcut : comment? (c :: cs) = none) (hcut' : comment? (c :: crlf cs) = none)
    (hfuel : (crlf (c :: cs)).length < fuel' + 1)
    (hsturdy : ∀ t ∈ tokensFrom (fuel + 1) here afterLine afterComment (c :: cs),
      IsSturdy t.text.toList) :
    tokensFrom (fuel' + 1) (here.moved source) afterLine afterComment (crlf (c :: cs)) =
      (tokensFrom (fuel + 1) here afterLine afterComment (c :: cs)).map (moved source) := by
  have hc : c ≠ '\n' := by
    rintro rfl
    exact hblank (by decide)
  rw [tokensFrom_token hblank hcut] at hsturdy ⊢
  obtain ⟨hfirst, hmore⟩ := List.forall_mem_cons.1 hsturdy
  obtain ⟨hall, hne⟩ := isCut_token (c :: cs)
  rw [first, String.toList_ofList] at hfirst
  have htoken := token_crlf hc cs hfirst
  have hstop := Place.moved_foldl_after (hsource.trans (by rw [hall])) hhere
  have hshorter := length_crlf_lt hall (hne (by simp)) hfuel
  rw [crlf_cons hc, tokensFrom_token hblank hcut', List.map_cons]
  refine congrArg₂ List.cons (eq_of_parts ?_ ?_ rfl ?_ rfl rfl) ?_
  · simp [first, moved, htoken]
  · simp [first, moved, htoken, crlfCut, Text.crlfString_ofList]
  · simp only [first, moved, htoken, crlfCut]
    exact hstop.1.symm
  · rw [htoken]
    exact hbehind _ _ _ _ _ hall (hne (by simp)) hshorter hmore

/-- What stands first in a text is the same in both texts. -/
theorem tokensFrom_crlf_cons (hsource : source = before ++ c :: cs)
    (hhere : here.offset = before.length) (hbehind : SameBehind source fuel here (c :: cs))
    (hfuel : (crlf (c :: cs)).length < fuel' + 1)
    (hsturdy : ∀ t ∈ tokensFrom (fuel + 1) here afterLine afterComment (c :: cs),
      IsSturdy t.text.toList) :
    tokensFrom (fuel' + 1) (here.moved source) afterLine afterComment (crlf (c :: cs)) =
      (tokensFrom (fuel + 1) here afterLine afterComment (c :: cs)).map (moved source) := by
  by_cases hblank : (Text.isBlank c && c.toNat ∉ [0x1C, 0x1D, 0x1E, 0x1F]) = true
  · exact tokensFrom_crlf_blank hbehind hblank hfuel hsturdy
  · have hc : c ≠ '\n' := by
      rintro rfl
      exact hblank (by decide)
    by_cases hline : c = '/' ∧ cs.head? = some '/'
    · obtain ⟨rfl, hhead⟩ := hline
      obtain ⟨ds, rfl⟩ := List.head?_eq_some_iff.1 hhead
      by_cases hnewline : '\n' ∈ ds
      · obtain ⟨line, rest, rfl, hinner⟩ := List.eq_append_cons_of_mem hnewline
        exact tokensFrom_crlf_lineComment hinner hbehind hfuel hsturdy
      · exact tokensFrom_crlf_lastComment hnewline hbehind hfuel hsturdy
    · have hcomment := comment?_crlf hc (not_and.1 hline)
      cases hcut : comment? (c :: cs) with
      | none =>
        rw [hcut] at hcomment
        exact tokensFrom_crlf_token hsource hhere hbehind hblank hcut hcomment hfuel hsturdy
      | some cut =>
        rw [hcut] at hcomment
        obtain ⟨hall, hne⟩ := isCut_comment? hcut
        rw [tokensFrom_comment hblank hcut] at hsturdy ⊢
        rw [crlf_cons hc, tokensFrom_comment hblank hcomment]
        exact hbehind _ _ _ _ _ hall hne (length_crlf_lt hall hne hfuel) hsturdy

end Cuts

/-- The tokens from a place on are the same in both texts, if they are sturdy. -/
theorem tokensFrom_crlf {source before : List Char} {fuel' : Nat} (hsource : source = before ++ cs)
    (hhere : here.offset = before.length) (hfuel : cs.length < fuel)
    (hfuel' : (crlf cs).length < fuel')
    (hsturdy : ∀ t ∈ tokensFrom fuel here afterLine afterComment cs, IsSturdy t.text.toList) :
    tokensFrom fuel' (here.moved source) afterLine afterComment (crlf cs) =
      (tokensFrom fuel here afterLine afterComment cs).map (moved source) := by
  induction fuel generalizing cs before here afterLine afterComment fuel' with
  | zero => omega
  | succ fuel ih =>
    have hbehind : SameBehind source fuel here cs := by
      intro taken rest line comment f hcut hne hf hrest
      obtain ⟨hmoved, hplace⟩ := Place.moved_foldl_after (hsource.trans (by rw [hcut])) hhere
      have hsource' : source = (before ++ taken) ++ rest := by
        rw [hsource, ← hcut, List.append_assoc]
      have hpos := List.length_pos_of_ne_nil hne
      rw [← hcut, List.length_append] at hfuel
      rw [← hmoved]
      exact ih hsource' (hplace.trans List.length_append.symm) (by omega) hf hrest
    obtain ⟨fuel', rfl⟩ : ∃ f, fuel' = f + 1 := ⟨fuel' - 1, by omega⟩
    cases cs with
    | nil => exact congrArg (· :: []) (eq_of_parts rfl rfl rfl rfl rfl rfl)
    | cons c cs => exact tokensFrom_crlf_cons hsource hhere hbehind hfuel' hsturdy

end From

theorem tokens_mark (cs : List Char) : tokens (byteOrderMark :: cs) =
    tokensFrom (cs.length + 2) (Place.after {} byteOrderMark) false false cs := by
  simp [tokens]

theorem tokens_of_head?_ne {cs : List Char} (h : cs.head? ≠ some byteOrderMark) :
    tokens cs = tokensFrom (cs.length + 1) {} false false cs := by
  cases cs with
  | nil => rfl
  | cons c cs =>
    have hc : c ≠ byteOrderMark := by simpa using h
    simp [tokens, hc]

/-- The tokens of a source are the same with carriage returns, if they are sturdy. -/
theorem tokens_crlf {source : List Char} (hsturdy : ∀ t ∈ tokens source, IsSturdy t.text.toList) :
    tokens (crlf source) = (tokens source).map (moved source) := by
  have hstart : Place.moved source {} = {} := by simp [Place.moved]
  have hmark : byteOrderMark ≠ '\n' := by decide
  by_cases h : source.head? = some byteOrderMark
  · obtain ⟨cs, rfl⟩ := List.head?_eq_some_iff.1 h
    obtain ⟨hmoved, hoffset⟩ := Place.moved_foldl_after
      (show byteOrderMark :: cs = [] ++ ([byteOrderMark] ++ cs) from rfl)
      (show Place.offset {} = 0 from rfl)
    have hplace : (Place.after {} byteOrderMark).moved (byteOrderMark :: cs) =
        Place.after {} byteOrderMark := by
      rw [hstart, crlf_cons hmark] at hmoved
      exact hmoved
    rw [tokens_mark] at hsturdy ⊢
    rw [crlf_cons hmark, tokens_mark]
    calc tokensFrom ((crlf cs).length + 2) (Place.after {} byteOrderMark) false false (crlf cs)
        = tokensFrom ((crlf cs).length + 2)
            ((Place.after {} byteOrderMark).moved (byteOrderMark :: cs)) false false (crlf cs) := by
          rw [hplace]
      _ = _ := tokensFrom_crlf List.singleton_append.symm hoffset (by omega) (by omega) hsturdy
  · have h' : (crlf source).head? ≠ some byteOrderMark := by
      cases source with
      | nil => simp
      | cons c cs =>
        by_cases hc : c = '\n'
        · subst hc
          simp [byteOrderMark]
        · simpa [crlf_cons hc] using h
    rw [tokens_of_head?_ne h] at hsturdy ⊢
    rw [tokens_of_head?_ne h']
    calc tokensFrom ((crlf source).length + 1) {} false false (crlf source)
        = tokensFrom ((crlf source).length + 1) (Place.moved source {}) false false
            (crlf source) := by rw [hstart]
      _ = _ := tokensFrom_crlf (List.nil_append _).symm rfl (by omega) (by omega) hsturdy

/-- A sturdy token is within its line, unless it is a string. -/
theorem newline_not_mem_token {cs : List Char} (hsturdy : IsSturdy (token cs).2.1)
    (hkind : (token cs).1 ≠ .string) : '\n' ∉ (token cs).2.1 := by
  intro hmem
  obtain ⟨text, htext⟩ := List.head?_eq_some_iff.1 (hsturdy hmem)
  have hcut : (token cs).2.1 ++ (token cs).2.2 = cs := (isCut_token cs).1
  obtain ⟨ds, rfl⟩ : ∃ ds, cs = '\x60' :: ds := ⟨_, by rw [← hcut, htext]; rfl⟩
  have hquoted : token ('\x60' :: ds) = quoted .string '\x60' ds (rawRest? ds) := rfl
  rw [hquoted] at hmem hkind
  cases hread : rawRest? ds with
  | none => simp [hread, quoted] at hmem
  | some cut => simp [hread, quoted] at hkind

/-- Whatever is among the tokens from a place on is cut off as one. -/
theorem exists_token_of_mem_tokensFrom {fuel : Nat} {here : Place} {afterLine afterComment : Bool}
    {cs : List Char} {t : Lexeme} (h : t ∈ tokensFrom fuel here afterLine afterComment cs) :
    ∃ ds, t.kind = (token ds).1 ∧ t.text.toList = (token ds).2.1 := by
  induction fuel generalizing here afterLine afterComment cs with
  | zero => cases h
  | succ fuel ih =>
    rcases cs with _ | ⟨c, cs⟩
    · obtain rfl := List.mem_singleton.1 h
      exact ⟨[], rfl, rfl⟩
    · by_cases hblank : (Text.isBlank c && c.toNat ∉ [0x1C, 0x1D, 0x1E, 0x1F]) = true
      · rw [tokensFrom_blank hblank] at h
        exact ih h
      · cases hcut : comment? (c :: cs) with
        | some cut =>
          rw [tokensFrom_comment hblank hcut] at h
          exact ih h
        | none =>
          rw [tokensFrom_token hblank hcut] at h
          rcases List.mem_cons.1 h with rfl | h
          · exact ⟨c :: cs, rfl, String.toList_ofList⟩
          · exact ih h

/-- A sturdy token of a source is within its line, unless it is a string. -/
theorem newline_not_mem_of_isSturdy {source : List Char} {t : Lexeme} (h : t ∈ tokens source)
    (hsturdy : IsSturdy t.text.toList) (hkind : t.kind ≠ .string) : '\n' ∉ t.text.toList := by
  obtain ⟨ds, hds, htext⟩ : ∃ ds, t.kind = (token ds).1 ∧ t.text.toList = (token ds).2.1 := by
    unfold tokens at h
    split at h
    · split at h <;> exact exists_token_of_mem_tokensFrom h
    · exact exists_token_of_mem_tokensFrom h
  rw [htext] at hsturdy ⊢
  exact newline_not_mem_token hsturdy (hds ▸ hkind)

end Lexeme

end TypeWeave.Go
