import TypeWeave.Go.Lexeme
import TypeWeave.Proofs.Text.Search
import Mathlib.Data.List.TakeDrop

/-!
# The pieces of Go source

Source is white space, comments and tokens, one piece after another with nothing left out. The
tokens are the pieces that are tokens, each with the place behind all pieces before it. Where the
pieces before a place in the text end, the next piece is read from the text behind the place,
whatever stands before it. Main statements: `texts_pieces`, `exists_tokens_eq` and `of_pieces_eq`.
-/

namespace TypeWeave.Go.Lexeme

/-- What is cut off and what follows it are the text. -/
def IsCut (cs : List Char) (cut : Cut) : Prop := cut.1 ++ cut.2 = cs

variable {cs : List Char} {cut : Cut}

theorem isCut_digitRun (p : Char → Bool) (cs : List Char) : IsCut cs (digitRun p cs) := by
  unfold IsCut
  fun_induction digitRun p cs <;> simp_all

theorem isCut_digits (p : Char → Bool) (cs : List Char) : IsCut cs (digits p cs) := by
  unfold digits
  split
  · rfl
  · exact isCut_digitRun p _

theorem isCut_fraction (p : Char → Bool) (cs : List Char) : IsCut cs (fraction p cs) := by
  unfold fraction
  split
  · exact congrArg ('.' :: ·) (isCut_digits p _)
  · rfl

theorem isCut_imaginary (cs : List Char) : IsCut cs (imaginary cs) := by
  unfold imaginary
  split <;> rfl

/-- A cut goes on with one of what follows it. -/
theorem IsCut.append {more : Cut} (h : IsCut cs cut) (hmore : IsCut cut.2 more) :
    IsCut cs (cut.1 ++ more.1, more.2) := by
  unfold IsCut at *
  rw [List.append_assoc, hmore, h]

/-- A cut behind a character that is taken. -/
theorem IsCut.cons (h : IsCut cs cut) (c : Char) : IsCut (c :: cs) (c :: cut.1, cut.2) :=
  congrArg (c :: ·) h

/-- A mark with a sign behind it is cut off if digits follow them. -/
theorem isCut_signed (m : Char) {sign after : List Char} (h : IsCut cs (sign, after)) :
    IsCut (m :: cs) (match digits Char.isDigit after with
      | ([], _) => ([], m :: cs)
      | (ds, rest) => (m :: sign ++ ds, rest)) := by
  have := (h.append (isCut_digits Char.isDigit after)).cons m
  split
  · rfl
  · rename_i hds
    rwa [hds] at this

theorem isCut_exponent (marks cs : List Char) : IsCut cs (exponent marks cs) := by
  unfold exponent
  split
  · split
    · split
      rename_i sign after hsign
      refine isCut_signed _ ?_
      rw [← hsign]
      split <;> rfl
    · rfl
  · rfl

/-- Cuts one after another are a cut. -/
theorem isCut_inTurn {steps : List (List Char → Cut)}
    (h : ∀ step ∈ steps, ∀ cs, IsCut cs (step cs)) (cs : List Char) :
    IsCut cs (inTurn steps cs) := by
  suffices hfold : ∀ acc : Cut, IsCut cs acc → IsCut cs (steps.foldl (fun acc step =>
      (acc.1 ++ (step acc.2).1, (step acc.2).2)) acc) from hfold ([], cs) rfl
  induction steps with
  | nil => exact fun acc hacc => hacc
  | cons step steps ih =>
    obtain ⟨hstep, hsteps⟩ := List.forall_mem_cons.1 h
    intro acc hacc
    exact ih hsteps _ (hacc.append (hstep acc.2))

theorem isCut_basedNumber? (h : basedNumber? cs = some cut) : IsCut cs cut ∧ cut.1 ≠ [] := by
  unfold basedNumber? at h
  split at h
  · rename_i m rest
    dsimp only at h
    generalize (if (m == 'b' || m == 'B') = true then fun c => c == '0' || c == '1'
      else if (m == 'o' || m == 'O') = true then isOctal else fun x => false : Char → Bool) = p at h
    obtain ⟨body, hbody, rfl⟩ := Option.map_eq_some_iff.1 h
    have hcut : IsCut rest body := by
      split at hbody
      · have hrun := isCut_digitRun isHex rest
        split at hbody
        · cases hbody
        · rename_i hds
          rw [hds] at hrun
          cases hbody
          exact hrun.append (isCut_inTurn (by simp [isCut_fraction, isCut_exponent]) _)
      · have hrun := isCut_digitRun p rest
        split at hbody
        · cases hbody
        · cases hbody
          exact hrun
    exact ⟨((hcut.append (isCut_imaginary body.2)).cons m).cons '0', by simp⟩
  · cases h

theorem isCut_decimalNumber? (h : decimalNumber? cs = some cut) : IsCut cs cut ∧ cut.1 ≠ [] := by
  have hcut := ((isCut_digits Char.isDigit cs).append (isCut_fraction Char.isDigit _)).append
    (isCut_inTurn (show ∀ step ∈ [exponent ['e', 'E'], imaginary], ∀ cs, IsCut cs (step cs) by
      simp [isCut_imaginary, isCut_exponent]) _)
  unfold decimalNumber? at h
  dsimp only at h
  split at h
  · cases h
  · rename_i hne
    split at h
    · cases h
    · cases h
      refine ⟨hcut, fun hnil => ?_⟩
      simp only [List.append_eq_nil_iff] at hnil
      simp [hnil] at hne

theorem isCut_escape? (h : escape? cs = some cut) : IsCut cs cut := by
  have hcounted {mark : Char} {n : Nat} {rest : List Char}
      (h : (if (decide ((rest.take n).length = n) && (rest.take n).all isHex) = true then
        some (mark :: rest.take n, rest.drop n) else none) = some cut) :
      IsCut (mark :: rest) cut := by
    split at h
    · cases h
      exact congrArg (mark :: ·) (List.take_append_drop n rest)
    · cases h
  unfold escape? at h
  split at h
  · exact hcounted h
  · exact hcounted h
  · exact hcounted h
  · cases h
    rfl
  · cases h

theorem isCut_stringRest? {fuel : Nat} (h : stringRest? fuel cs = some cut) : IsCut cs cut := by
  fun_induction stringRest? fuel cs generalizing cut with
  | case1 => cases h
  | case2 => cases h
  | case3 => cases h
  | case4 => 
    cases h
    rfl
  | case5 fuel rest ih =>
    obtain ⟨e, he, h⟩ := Option.bind_eq_some_iff.1 h
    obtain ⟨taken, htaken, h⟩ := Option.bind_eq_some_iff.1 h
    cases h
    exact ((isCut_escape? he).append (ih _ htaken)).cons '\\'
  | case6 fuel c rest _ _ _ ih =>
    obtain ⟨taken, htaken, h⟩ := Option.bind_eq_some_iff.1 h
    cases h
    exact (ih htaken).cons c

theorem isCut_rawRest? (h : rawRest? cs = some cut) : IsCut cs cut := by
  fun_induction rawRest? cs generalizing cut with
  | case1 => cases h
  | case2 =>
    cases h
    rfl
  | case3 c rest _ ih =>
    obtain ⟨taken, htaken, rfl⟩ := Option.map_eq_some_iff.1 h
    exact (ih htaken).cons c

theorem isCut_commentRest? (h : commentRest? cs = some cut) : IsCut cs cut := by
  fun_induction commentRest? cs generalizing cut with
  | case1 => cases h
  | case2 =>
    cases h
    rfl
  | case3 c rest _ ih =>
    obtain ⟨taken, htaken, rfl⟩ := Option.map_eq_some_iff.1 h
    exact (ih htaken).cons c

/-- What a quote closes is cut off with the quote. -/
theorem isCut_closed {body rest : List Char}
    (h : (match rest with
      | '\x27' :: rest => some (body ++ ['\x27'], rest)
      | _ => none) = some cut) (hbody : IsCut cs (body, rest)) : IsCut cs cut := by
  split at h
  · rename_i rest
    cases h
    exact hbody.append (show IsCut ('\x27' :: rest) (['\x27'], rest) from rfl)
  · cases h

theorem isCut_characterRest? (h : characterRest? cs = some cut) : IsCut cs cut := by
  unfold characterRest? at h
  dsimp only at h
  split at h
  · split at h
    · exact isCut_closed h rfl
    · split at h
      · exact isCut_closed h rfl
      · split at h
        · obtain ⟨body, hbody, h⟩ := Option.bind_eq_some_iff.1 h
          obtain ⟨e, he, rfl⟩ := Option.map_eq_some_iff.1 hbody
          exact isCut_closed h ((isCut_escape? he).cons '\\')
        · cases h
  · split at h
    · exact isCut_closed h rfl
    · cases h
  · cases h
  · exact isCut_closed h rfl
  · cases h

/-- A comment is cut off, and it is not empty. -/
theorem isCut_comment? (h : comment? cs = some cut) : IsCut cs cut ∧ cut.1 ≠ [] := by
  unfold comment? at h
  split at h
  · rw [List.span_eq_takeWhile_dropWhile] at h
    cases h
    exact ⟨List.takeWhile_append_dropWhile, by simp⟩
  · obtain ⟨taken, htaken, rfl⟩ := Option.map_eq_some_iff.1 h
    exact ⟨((isCut_commentRest? htaken).cons '*').cons '/', by simp⟩
  · cases h

theorem isNameRest_of_isNameStart {c : Char} (h : isNameStart c = true) : isNameRest c = true := by
  simp only [isNameStart, isNameRest, Text.isIdentifierRest, Bool.or_eq_true] at h ⊢
  exact h.imp_right Or.inl

section Names

variable {c : Char} {word : List Char}

theorem takeWhile_isNameRest (hword : ∀ d ∈ word, isNameRest d = true) (hc : isNameRest c = false)
    (cs : List Char) : (word ++ c :: cs).takeWhile isNameRest = word := by
  rw [List.takeWhile_append_of_pos hword, List.takeWhile_cons_of_neg (by simp [hc]),
    List.append_nil]

theorem dropWhile_isNameRest (hword : ∀ d ∈ word, isNameRest d = true) (hc : isNameRest c = false)
    (cs : List Char) : (word ++ c :: cs).dropWhile isNameRest = c :: cs := by
  rw [List.dropWhile_append_of_pos hword, List.dropWhile_cons_of_neg (by simp [hc])]

/-- A word is cut off where something follows that is no part of a name. -/
theorem token_word {first : Char} (hfirst : isNameStart first = true)
    (hword : ∀ d ∈ word, isNameRest d = true) (hc : isNameRest c = false) (cs : List Char) :
    token (first :: (word ++ c :: cs)) =
      (if keywords.contains (String.ofList (first :: word)) then .keyword else .word,
        (first :: word, c :: cs)) := by
  have hall : ∀ d ∈ first :: word, isNameRest d = true :=
    List.forall_mem_cons.2 ⟨isNameRest_of_isNameStart hfirst, hword⟩
  have hne : ∀ quote ∈ ['"', '\x60', '\x27'], isNameStart quote = false :=
    List.forall_mem_cons.2 ⟨by decide +kernel,
      List.forall_mem_cons.2 ⟨by decide +kernel, List.forall_mem_singleton.2 (by decide +kernel)⟩⟩
  unfold token
  split
  · rename_i heq
    cases heq
  · rename_i heq
    cases heq
    rw [hne _ (by simp)] at hfirst
    cases hfirst
  · rename_i heq
    cases heq
    rw [hne _ (by simp)] at hfirst
    cases hfirst
  · rename_i heq
    cases heq
    rw [hne _ (by simp)] at hfirst
    cases hfirst
  · rename_i heq
    cases heq
    rw [if_pos hfirst, ← List.cons_append, takeWhile_isNameRest hall hc,
      dropWhile_isNameRest hall hc]

end Names

/-- A token is cut off, and it is not empty unless the text is. -/
theorem isCut_one (c : Char) (cs : List Char) :
    IsCut (c :: cs) ((c :: cs).take 1, (c :: cs).drop 1) ∧
      (c :: cs ≠ [] → (c :: cs).take 1 ≠ []) := ⟨rfl, by simp⟩

/-- A quote is cut off with what is read behind it, or on its own. -/
theorem isCut_quoted (kind : Kind) (quote : Char) (cs : List Char) (read : Option Cut) :
    let taken := (match read with
      | some (taken, rest) => (kind, (quote :: taken, rest))
      | none => (Kind.unknown, ((quote :: cs).take 1, (quote :: cs).drop 1)) : Kind × Cut)
    (∀ cut, read = some cut → IsCut cs cut) →
      IsCut (quote :: cs) taken.2 ∧ (quote :: cs ≠ [] → taken.2.1 ≠ []) := by
  intro taken hread
  cases read with
  | none => exact isCut_one quote cs
  | some cut => exact ⟨(hread cut rfl).cons quote, by simp⟩

theorem isCut_token (cs : List Char) :
    IsCut cs (token cs).2 ∧ (cs ≠ [] → (token cs).2.1 ≠ []) := by
  unfold token
  split
  · exact ⟨rfl, by simp⟩
  · exact isCut_quoted .string '"' _ _ fun _ => isCut_stringRest?
  · exact isCut_quoted .string '\x60' _ _ fun _ => isCut_rawRest?
  · exact isCut_quoted .character '\x27' _ _ fun _ => isCut_characterRest?
  · split
    · rename_i hstart
      have hrest := isNameRest_of_isNameStart hstart
      exact ⟨List.takeWhile_append_dropWhile, by simp [List.takeWhile_cons_of_pos hrest]⟩
    · rw [Option.orElse_eq_or]
      split
      · rename_i cut hcut
        rcases Option.or_eq_some_iff.1 hcut with h | ⟨-, h⟩
        · exact ⟨(isCut_basedNumber? h).1, fun _ => (isCut_basedNumber? h).2⟩
        · exact ⟨(isCut_decimalNumber? h).1, fun _ => (isCut_decimalNumber? h).2⟩
      · split
        · rename_i cut hcut
          obtain ⟨s, hs, hcut⟩ := List.exists_of_findSome?_eq_some hcut
          obtain ⟨rest, hrest, rfl⟩ := Option.map_eq_some_iff.1 hcut
          refine ⟨(Text.eq_append_of_dropPrefix? hrest).symm, fun _ hnil => ?_⟩
          obtain rfl : s = [] := hnil
          exact absurd hs (by decide)
        · exact isCut_one _ _

/-- What a piece of a source is. -/
inductive Piece.Kind where
  | blank
  | comment
  | token (kind : Lexeme.Kind)
  deriving DecidableEq, Repr

/-- A token, a comment or a character between them, with the place where it starts. -/
structure Piece where
  kind : Piece.Kind
  text : List Char
  start : Place
  deriving DecidableEq, Repr

section Places

variable (here : Place) (cs : List Char)

theorem row_foldl_after : (cs.foldl Place.after here).row = here.row + cs.count '\n' := by
  induction cs generalizing here with
  | nil => rfl
  | cons c cs ih =>
    rw [List.foldl_cons, ih, Place.after, List.count_cons]
    split
    · simp [*]
      omega
    · simp [*]

/-- A place is in the first column when nothing or a line end is before it. -/
theorem column_foldl_after_eq_zero_iff : (cs.foldl Place.after {}).column = 0 ↔
    cs = [] ∨ cs.getLast? = some '\n' := by
  rcases List.eq_nil_or_concat cs with rfl | ⟨ds, c, rfl⟩
  · simp
  · have := c.utf8Size_pos
    rw [List.concat_eq_append, List.foldl_append, List.foldl_cons, List.foldl_nil, Place.after,
      List.getLast?_append]
    split
    · rename_i hc
      simp [beq_iff_eq.1 hc]
    · rename_i hc
      have hc : c ≠ '\n' := by simpa using hc
      simp [hc]
      omega

end Places

/-- The first piece of a text. -/
def piece (cs : List Char) : Piece.Kind × Cut :=
  match cs with
  | [] => (.blank, ([], []))
  | c :: rest =>
    if Text.isBlank c && c.toNat ∉ [0x1C, 0x1D, 0x1E, 0x1F] then (.blank, ([c], rest))
    else
      match comment? cs with
      | some cut => (.comment, cut)
      | none => (.token (token cs).1, (token cs).2)

/-- The pieces of a text from a place on. -/
def piecesFrom (fuel : Nat) (here : Place) (cs : List Char) : List Piece :=
  match fuel, cs with
  | 0, _ | _, [] => []
  | fuel + 1, cs =>
    ⟨(piece cs).1, (piece cs).2.1, here⟩ ::
      piecesFrom fuel ((piece cs).2.1.foldl Place.after here) (piece cs).2.2

/-- The pieces of a source. A byte order mark at its start is one. -/
def pieces (cs : List Char) : List Piece :=
  match cs with
  | c :: rest =>
    if c = byteOrderMark then
      ⟨.blank, [c], {}⟩ :: piecesFrom (cs.length + 1) (Place.after {} c) rest
    else piecesFrom (cs.length + 1) {} cs
  | [] => []

/-- The text of some pieces. -/
def texts (ps : List Piece) : List Char := ps.flatMap (·.text)

theorem isCut_piece (cs : List Char) : IsCut cs (piece cs).2 ∧ (cs ≠ [] → (piece cs).2.1 ≠ []) := by
  unfold piece
  split
  · exact ⟨rfl, by simp⟩
  · split
    · exact ⟨rfl, by simp⟩
    · split
      · rename_i hcut
        exact ⟨(isCut_comment? hcut).1, fun _ => (isCut_comment? hcut).2⟩
      · exact isCut_token _

/-- A blank is a piece of its own. -/
theorem piece_of_isBlank {c : Char}
    (h : (Text.isBlank c && c.toNat ∉ [0x1C, 0x1D, 0x1E, 0x1F]) = true) (cs : List Char) :
    piece (c :: cs) = (.blank, ([c], cs)) := if_pos h

/-- What is no blank is a comment if it can be, and a token otherwise. -/
theorem piece_of_not_isBlank {c : Char}
    (h : ¬(Text.isBlank c && c.toNat ∉ [0x1C, 0x1D, 0x1E, 0x1F]) = true) (cs : List Char) :
    piece (c :: cs) = match comment? (c :: cs) with
      | some cut => (.comment, cut)
      | none => (.token (token (c :: cs)).1, (token (c :: cs)).2) := if_neg h

/-- What follows a piece is shorter. -/
theorem length_piece_lt (h : cs ≠ []) : (piece cs).2.2.length < cs.length := by
  obtain ⟨hcut, hne⟩ := isCut_piece cs
  have hlength := congrArg List.length hcut
  have := List.length_pos_of_ne_nil (hne h)
  rw [List.length_append] at hlength
  omega

section From

variable {fuel : Nat} {here : Place}

theorem piecesFrom_succ (h : cs ≠ []) : piecesFrom (fuel + 1) here cs =
    ⟨(piece cs).1, (piece cs).2.1, here⟩ ::
      piecesFrom fuel ((piece cs).2.1.foldl Place.after here) (piece cs).2.2 := by
  cases cs with
  | nil => exact absurd rfl h
  | cons c cs => rfl

theorem texts_piecesFrom (h : cs.length < fuel) : texts (piecesFrom fuel here cs) = cs := by
  induction fuel generalizing here cs with
  | zero => omega
  | succ fuel ih =>
    by_cases hcs : cs = []
    · subst hcs
      rfl
    · have := length_piece_lt hcs
      rw [piecesFrom_succ hcs, texts, List.flatMap_cons, ← texts, ih (by omega)]
      exact (isCut_piece cs).1

/-- A piece among others is the first one of the text that is left there. -/
theorem of_piecesFrom_eq (hfuel : cs.length < fuel) {ps qs : List Piece} {p : Piece}
    (h : piecesFrom fuel here cs = ps ++ p :: qs) :
    p.start = (texts ps).foldl Place.after here ∧
      piece (texts (p :: qs)) = (p.kind, p.text, texts qs) := by
  induction ps generalizing fuel here cs with
  | nil =>
    have htexts : texts (piecesFrom fuel here cs) = cs := texts_piecesFrom hfuel
    rw [h, List.nil_append] at htexts
    cases fuel with
    | zero => omega
    | succ fuel =>
      by_cases hcs : cs = []
      · subst hcs
        cases h
      · have := length_piece_lt hcs
        rw [piecesFrom_succ hcs, List.nil_append] at h
        obtain ⟨rfl, rfl⟩ := List.cons.inj h
        rw [htexts, texts_piecesFrom (by omega)]
        exact ⟨rfl, rfl⟩
  | cons q ps ih =>
    cases fuel with
    | zero => omega
    | succ fuel =>
      by_cases hcs : cs = []
      · subst hcs
        cases h
      · have := length_piece_lt hcs
        rw [piecesFrom_succ hcs, List.cons_append] at h
        obtain ⟨hq, h⟩ := List.cons.inj h
        rw [texts, List.flatMap_cons, List.foldl_append, ← hq]
        exact ih (by omega) h

theorem row_le_of_mem_piecesFrom {p : Piece} (h : p ∈ piecesFrom fuel here cs) :
    here.row ≤ p.start.row := by
  induction fuel generalizing here cs with
  | zero => cases h
  | succ fuel ih =>
    by_cases hcs : cs = []
    · subst hcs
      cases h
    · rw [piecesFrom_succ hcs] at h
      rcases List.mem_cons.1 h with rfl | h
      · exact Nat.le_refl _
      · have := ih h
        rw [row_foldl_after] at this
        omega

/-- No piece starts on a line above one before it. -/
theorem pairwise_piecesFrom :
    (piecesFrom fuel here cs).Pairwise fun p q => p.start.row ≤ q.start.row := by
  induction fuel generalizing here cs with
  | zero => exact .nil
  | succ fuel ih =>
    by_cases hcs : cs = []
    · subst hcs
      exact .nil
    · rw [piecesFrom_succ hcs]
      refine .cons (fun q hq => ?_) ih
      have := row_le_of_mem_piecesFrom hq
      rw [row_foldl_after] at this
      exact Nat.le_of_add_right_le this

/-- The kind, the text and the start of a piece that is a token. -/
def Piece.token? (p : Piece) : Option (Lexeme.Kind × String × Place) :=
  match p.kind with
  | .token kind => some (kind, String.ofList p.text, p.start)
  | _ => none

/-- The tokens are the pieces that are tokens, and the end of the source. -/
theorem exists_tokensFrom_eq (hfuel : cs.length < fuel) (afterLine afterComment : Bool) :
    ∃ stop, (tokensFrom fuel here afterLine afterComment cs).map
        (fun t => (t.kind, t.text, t.start)) =
      (piecesFrom fuel here cs).filterMap Piece.token? ++ [(.ending, "", stop)] := by
  induction fuel generalizing here cs afterLine afterComment with
  | zero => omega
  | succ fuel ih =>
    cases cs with
    | nil => exact ⟨here, rfl⟩
    | cons c rest =>
      have hlt : (piece (c :: rest)).2.2.length < fuel := by
        have := length_piece_lt (List.cons_ne_nil c rest)
        omega
      rw [piecesFrom_succ (List.cons_ne_nil c rest), tokensFrom]
      split
      · rename_i hblank
        rw [piece_of_isBlank hblank] at hlt ⊢
        exact ih hlt _ _
      · rename_i hblank
        rw [piece_of_not_isBlank hblank] at hlt ⊢
        cases hcomment : comment? (c :: rest) with
        | some cut =>
          simp only [hcomment] at hlt ⊢
          exact ih hlt _ _
        | none =>
          simp only [hcomment] at hlt ⊢
          obtain ⟨stop, hstop⟩ := ih hlt false false
          exact ⟨stop, congrArg (_ :: ·) hstop⟩

end From

/-- The pieces of a source leave nothing out. -/
theorem texts_pieces (cs : List Char) : texts (pieces cs) = cs := by
  unfold pieces
  split
  · split
    · rw [texts, List.flatMap_cons, ← texts, texts_piecesFrom (by rw [List.length_cons]; omega)]
      rfl
    · exact texts_piecesFrom (Nat.lt_succ_self _)
  · rfl

/-- No piece starts on a line above one before it. -/
theorem pairwise_pieces (cs : List Char) :
    (pieces cs).Pairwise fun p q => p.start.row ≤ q.start.row := by
  unfold pieces
  split
  · split
    · exact .cons (fun q _ => Nat.zero_le _) pairwise_piecesFrom
    · exact pairwise_piecesFrom
  · exact .nil

/-- The tokens of a source are the pieces that are tokens, and its end. -/
theorem exists_tokens_eq (cs : List Char) :
    ∃ stop, (tokens cs).map (fun t => (t.kind, t.text, t.start)) =
      (pieces cs).filterMap Piece.token? ++ [(.ending, "", stop)] := by
  cases cs with
  | nil => exact ⟨{}, rfl⟩
  | cons c rest =>
    rw [pieces, tokens]
    split
    · exact exists_tokensFrom_eq (Nat.lt_succ_of_lt (Nat.lt_succ_self _)) _ _
    · exact exists_tokensFrom_eq (Nat.lt_succ_self _) _ _

/-- A piece among others starts behind those before it, and it is the first piece of the text that
is left there, unless it is a byte order mark. -/
theorem of_pieces_eq {ps qs : List Piece} {p : Piece} (h : pieces cs = ps ++ p :: qs) :
    p.start = (texts ps).foldl Place.after {} ∧
      (p.kind = .blank ∧ p.text = [byteOrderMark] ∨
        piece (texts (p :: qs)) = (p.kind, p.text, texts qs)) := by
  unfold pieces at h
  split at h
  · split at h
    · rename_i hmark
      cases ps with
      | nil =>
        rw [List.nil_append] at h
        obtain ⟨rfl, rfl⟩ := List.cons.inj h
        exact ⟨rfl, Or.inl ⟨rfl, congrArg ([·]) hmark⟩⟩
      | cons q ps =>
        obtain ⟨hq, h⟩ := List.cons.inj h
        rw [texts, List.flatMap_cons, List.foldl_append, ← hq]
        exact (of_piecesFrom_eq (Nat.lt_succ_of_lt (Nat.lt_succ_self _)) h).imp_right Or.inr
    · exact (of_piecesFrom_eq (Nat.lt_succ_self _) h).imp_right Or.inr
  · cases ps <;> cases h

end TypeWeave.Go.Lexeme
