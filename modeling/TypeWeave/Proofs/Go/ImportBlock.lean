import TypeWeave.Assembly
import TypeWeave.Proofs.Go.Literal
import TypeWeave.Proofs.Go.Piece
import TypeWeave.Proofs.Imports
import TypeWeave.Proofs.Text.Utf8

/-!
# Reading import blocks back

Go reads the imports of a file as tokens and by its grammar: an import has a path between quotes,
perhaps with a name before it, and stands alone or among others between parentheses, where the end
of a line ends it. The import block of a generated file is read back as the paths that it was made
for exactly if these can be written between quotes as they are. Main statements: `imports?_text_iff`
and `importBlock_iff`.
-/

namespace TypeWeave.Go.ImportBlock

open Text.Utf8 (encode)

/-- What import declarations are made of. -/
inductive Token where
  /-- The keyword of a declaration. -/
  | declare
  | name (text : List Char)
  | path (bytes : List UInt8)
  | mark (c : Char)
  deriving DecidableEq, Repr

/-- What a line end stands for, which is a semicolon if a declaration may end there. -/
def lineEnd (ends : Bool) : List Token := if ends then [.mark ';'] else []

theorem length_lt_of_rawRest? {cs rest : List Char} {bs : List UInt8}
    (h : Literal.rawRest? cs = some (bs, rest)) : rest.length < cs.length := by
  unfold Literal.rawRest? at h
  rw [List.span_eq_takeWhile_dropWhile] at h
  split at h
  · rename_i q _ hspan
    obtain ⟨-, hdrop⟩ := Prod.mk.inj hspan
    have := (List.dropWhile_suffix (l := cs) (· != '\x60')).length_le
    cases h
    rw [hdrop, List.length_cons] at this
    omega
  · cases h

theorem length_lt_of_read? {cs rest : List Char} {bs : List UInt8}
    (h : Literal.read? cs = some (bs, rest)) : rest.length < cs.length := by
  unfold Literal.read? at h
  split at h
  · obtain ⟨body, rfl, -⟩ := Literal.exists_of_rest? h
    rw [List.length_cons, List.length_append, List.length_cons]
    omega
  · exact Nat.lt_succ_of_lt (length_lt_of_rawRest? h)
  · cases h

theorem length_lt_of_comment? {cs : List Char} {cut : Lexeme.Cut}
    (h : Lexeme.comment? cs = some cut) : cut.2.length < cs.length := by
  obtain ⟨hcut, hne⟩ := Lexeme.isCut_comment? h
  have hlength := congrArg List.length hcut
  have := List.length_pos_of_ne_nil hne
  rw [List.length_append] at hlength
  omega

/-- The tokens of a text, if it is made of what import declarations are made of; `ends` says whether
a line end here ends a declaration. -/
def tokens? (ends : Bool) (cs : List Char) : Option (List Token) :=
  match cs with
  | [] => some (lineEnd ends)
  | c :: rest =>
    if c = '\n' then (tokens? false rest).map (lineEnd ends ++ ·)
    else if c = ' ' ∨ c = '\t' ∨ c = '\r' then tokens? ends rest
    else
      match hcomment : Lexeme.comment? (c :: rest) with
      | some (taken, after) =>
        have : after.length < rest.length + 1 := length_lt_of_comment? hcomment
        if '\n' ∈ taken then (tokens? false after).map (lineEnd ends ++ ·) else tokens? ends after
      | none =>
        match hpath : Literal.read? (c :: rest) with
        | some (bytes, after) =>
          have : after.length < rest.length + 1 := length_lt_of_read? hpath
          (tokens? true after).map (.path bytes :: ·)
        | none =>
          if Lexeme.isNameStart c then
            let word := c :: rest.takeWhile Lexeme.isNameRest
            let after := rest.dropWhile Lexeme.isNameRest
            have : (rest.dropWhile Lexeme.isNameRest).length < rest.length + 1 :=
              Nat.lt_succ_of_le (List.dropWhile_suffix _).length_le
            if word = "import".toList then (tokens? false after).map (.declare :: ·)
            else if Lexeme.keywords.contains (String.ofList word) then none
            else (tokens? true after).map (.name word :: ·)
          else if c ∈ ['(', ')', '.', ';'] then (tokens? (c == ')') rest).map (.mark c :: ·)
          else none
termination_by cs.length

/-- Where in its declarations a reader is; `inside` says whether that is between parentheses. -/
inductive Phase where
  /-- Before a declaration. -/
  | outside
  /-- Behind the keyword. -/
  | declared
  /-- Before an import between parentheses. -/
  | group
  /-- Behind the name for an import. -/
  | named (inside : Bool)
  /-- Behind the path of an import. -/
  | given (inside : Bool)
  /-- Behind the closing parenthesis. -/
  | closed

/-- What a token does: where the reader is behind it, and the path that it is. -/
def step? : Phase → Token → Option (Phase × List (List UInt8))
  | .outside, .declare => some (.declared, [])
  | .declared, .mark '(' => some (.group, [])
  | .declared, .name _ | .declared, .mark '.' => some (.named false, [])
  | .declared, .path bytes => some (.given false, [bytes])
  | .group, .name _ | .group, .mark '.' => some (.named true, [])
  | .group, .path bytes => some (.given true, [bytes])
  | .group, .mark ')' => some (.closed, [])
  | .named inside, .path bytes => some (.given inside, [bytes])
  | .given false, .mark ';' => some (.outside, [])
  | .given true, .mark ';' => some (.group, [])
  | .given true, .mark ')' => some (.closed, [])
  | .closed, .mark ';' => some (.outside, [])
  | _, _ => none

/-- The paths of some tokens, which are declarations as a whole. -/
def paths? (phase : Phase) (ts : List Token) : Option (List (List UInt8)) :=
  match phase, ts with
  | .outside, [] => some []
  | _, [] => none
  | phase, t :: ts => (step? phase t).bind fun s => (paths? s.1 ts).map (s.2 ++ ·)

/-- The paths of a text that is read on from some place. -/
def importsFrom? (phase : Phase) (ends : Bool) (cs : List Char) : Option (List (List UInt8)) :=
  (tokens? ends cs).bind (paths? phase)

/-- The paths of a text that is import declarations. -/
def imports? (cs : List Char) : Option (List (List UInt8)) := importsFrom? .outside false cs

section Tokens

variable (ends : Bool) (cs : List Char)

theorem tokens?_newline :
    tokens? ends ('\n' :: cs) = (tokens? false cs).map (lineEnd ends ++ ·) := by
  rw [tokens?, if_pos rfl]

theorem tokens?_space : tokens? ends (' ' :: cs) = tokens? ends cs := by
  rw [tokens?, if_neg (by decide), if_pos (by decide)]

theorem tokens?_tab : tokens? ends ('\t' :: cs) = tokens? ends cs := by
  rw [tokens?, if_neg (by decide), if_pos (by decide)]

theorem tokens?_quote : tokens? ends ('"' :: cs) =
    (Literal.rest? cs).bind fun r => (tokens? true r.2).map (.path r.1 :: ·) := by
  have hread : Literal.read? ('"' :: cs) = Literal.rest? cs := rfl
  rw [tokens?, if_neg (by decide), if_neg (by decide)]
  split
  · rename_i hcomment
    cases hcomment
  · split
    · rename_i hpath
      rw [hread] at hpath
      rw [hpath, Option.bind_some]
    · rename_i hpath
      rw [hread] at hpath
      rw [hpath, Option.bind_none, if_neg (by decide +kernel), if_neg (by decide)]

theorem tokens?_mark {c : Char} (hc : c = '(' ∨ c = ')') : tokens? ends (c :: cs) =
    (tokens? (c == ')') cs).map (.mark c :: ·) := by
  rw [tokens?]
  rcases hc with rfl | rfl
  all_goals
    rw [if_neg (by decide), if_neg (by decide)]
    split
    · rename_i hcomment
      cases hcomment
    · split
      · rename_i hpath
        cases hpath
      · rw [if_neg (by decide +kernel), if_pos (by decide)]

theorem tokens?_import :
    tokens? ends ("import ".toList ++ cs) = (tokens? false cs).map (.declare :: ·) := by
  have hword : "import ".toList ++ cs = 'i' :: ("mport".toList ++ ' ' :: cs) := rfl
  rw [hword, tokens?, if_neg (by decide), if_neg (by decide)]
  split
  · rename_i hcomment
    cases hcomment
  · split
    · rename_i hpath
      cases hpath
    · have hstart : Lexeme.isNameStart 'i' = true := by decide +kernel
      have hword : ∀ d ∈ "mport".toList, Lexeme.isNameRest d = true :=
        List.all_eq_true.1 (by decide +kernel)
      have hspace : Lexeme.isNameRest ' ' = false := by decide +kernel
      rw [if_pos hstart]
      simp only [Lexeme.takeWhile_isNameRest hword hspace, Lexeme.dropWhile_isNameRest hword hspace]
      rw [if_pos (by decide), tokens?_space]

end Tokens

/-- The text of the import block for some paths. -/
def text (paths : List String) : String := "\n".intercalate (Assembly.importLines paths)

/-- The lines of some imports between parentheses, and the closing one. -/
def groupText (paths : List String) : List Char :=
  (paths.flatMap fun p => '\n' :: '\t' :: '"' :: (p.toList ++ ['"'])) ++ ['\n', ')']

theorem groupText_cons (p : String) (paths : List String) :
    groupText (p :: paths) = '\n' :: '\t' :: '"' :: (p.toList ++ '"' :: groupText paths) := by
  simp [groupText]

theorem head?_groupText (paths : List String) : (groupText paths).head? = some '\n' := by
  cases paths with
  | nil => rfl
  | cons p paths => rw [groupText_cons]; rfl

theorem toList_intercalate_cons (line : String) (lines : List String) :
    ("\n".intercalate (line :: lines)).toList =
      line.toList ++ lines.flatMap fun l => '\n' :: l.toList := by
  induction lines generalizing line with
  | nil => simp
  | cons next lines ih =>
    rw [String.intercalate_cons_cons, String.toList_append, String.toList_append, ih]
    simp

theorem toList_text_singleton (p : String) :
    (text [p]).toList = "import ".toList ++ '"' :: (p.toList ++ ['"']) := by
  rw [text, Assembly.importLines, toList_intercalate_cons, String.toList_append,
    String.toList_append]
  simp

theorem toList_text_cons_cons (p q : String) (paths : List String) :
    (text (p :: q :: paths)).toList = "import ".toList ++ '(' :: groupText (p :: q :: paths) := by
  have hlines : Assembly.importLines (p :: q :: paths) =
      "import (" :: ((p :: q :: paths).map (fun p => "\t\"" ++ p ++ "\"") ++ [")"]) := rfl
  rw [text, hlines, toList_intercalate_cons, List.flatMap_append, List.flatMap_map]
  simp [groupText, String.toList_append]

section Reading

variable {phase next : Phase} {ends ends' : Bool} {cs cs' : List Char}

/-- A token takes the reader to the next place. -/
theorem importsFrom?_of_token {t : Token} {bs : List (List UInt8)}
    (ht : tokens? ends cs = (tokens? ends' cs').map (t :: ·))
    (hs : step? phase t = some (next, bs)) :
    importsFrom? phase ends cs = (importsFrom? next ends' cs').map (bs ++ ·) := by
  rw [importsFrom?, importsFrom?, ht]
  cases tokens? ends' cs' with
  | none => rfl
  | some ts => simp only [Option.map_some, Option.bind_some, paths?, hs]

/-- A path between double quotes takes the reader behind it. -/
theorem importsFrom?_quote (hs : ∀ bs, step? phase (.path bs) = some (next, [bs])) :
    importsFrom? phase ends ('"' :: cs) =
      (Literal.rest? cs).bind fun r => (importsFrom? next true r.2).map (r.1 :: ·) := by
  cases hr : Literal.rest? cs with
  | none => rw [importsFrom?, tokens?_quote, hr]; rfl
  | some r =>
    rw [Option.bind_some]
    exact importsFrom?_of_token (by rw [tokens?_quote, hr, Option.bind_some]) (hs r.1)

/-- The place between parentheses before a line end: before the first import, or behind one. -/
def Phase.beforeLine (ends : Bool) : Phase := if ends then .given true else .group

/-- The next line between parentheses is read as a further import. -/
theorem importsFrom?_newline :
    importsFrom? (.beforeLine ends) ends ('\n' :: cs) = importsFrom? .group false cs := by
  rw [importsFrom?, importsFrom?, tokens?_newline]
  cases tokens? false cs with
  | none => rfl
  | some ts =>
    cases ends with
    | false => rfl
    | true =>
      show ((paths? .group ts).map ([] ++ ·)) = paths? .group ts
      simp

theorem importsFrom?_group_nil : importsFrom? (.beforeLine ends) ends (groupText []) = some [] := by
  have hend : importsFrom? .closed true [] = some [] := by
    rw [importsFrom?, tokens?]
    rfl
  show importsFrom? _ _ ['\n', ')'] = _
  rw [importsFrom?_newline, importsFrom?_of_token (tokens?_mark false [] (Or.inr rfl)) rfl]
  exact congrArg (Option.map ([] ++ ·)) hend

/-- What is read from a line with a path, and from the lines behind it. -/
theorem importsFrom?_group_cons (p : String) (paths : List String) :
    importsFrom? (.beforeLine ends) ends (groupText (p :: paths)) =
      (Literal.rest? (p.toList ++ '"' :: groupText paths)).bind fun r =>
        (importsFrom? (.beforeLine true) true r.2).map (r.1 :: ·) := by
  rw [groupText_cons, importsFrom?_newline, importsFrom?, tokens?_tab, ← importsFrom?]
  exact importsFrom?_quote fun _ => rfl

/-- Paths between parentheses are read back exactly if each can be written as it is. -/
theorem importsFrom?_group_iff (paths : List String) :
    importsFrom? (.beforeLine ends) ends (groupText paths) =
        some (paths.map fun p => encode p.toList) ↔
      ∀ p ∈ paths, Literal.IsPlain p.toList := by
  induction paths generalizing ends with
  | nil => simp [importsFrom?_group_nil]
  | cons p paths ih =>
    rw [importsFrom?_group_cons, List.forall_mem_cons, List.map_cons]
    constructor
    · intro h
      obtain ⟨⟨bs, rest⟩, hread, h⟩ := Option.bind_eq_some_iff.1 h
      obtain ⟨more, hmore, heq⟩ := Option.map_eq_some_iff.1 h
      obtain ⟨rfl, rfl⟩ := List.cons.inj heq
      obtain ⟨hplain, rfl⟩ := Literal.isPlain_of_read? (Or.inr (head?_groupText paths)) hread
      exact ⟨hplain, ih.1 hmore⟩
    · rintro ⟨hp, hpaths⟩
      rw [Literal.rest?_of_isPlain hp, Option.bind_some, ih.2 hpaths, Option.map_some]

/-- A path that stands alone is read back exactly if it can be written as it is. -/
theorem importsFrom?_single_iff (p : String) :
    importsFrom? .declared false ('"' :: (p.toList ++ ['"'])) = some [encode p.toList] ↔
      Literal.IsPlain p.toList := by
  have hend : importsFrom? (.given false) true [] = some [] := by
    rw [importsFrom?, tokens?]
    rfl
  rw [importsFrom?_quote fun _ => rfl]
  constructor
  · intro h
    obtain ⟨⟨bs, rest⟩, hread, h⟩ := Option.bind_eq_some_iff.1 h
    obtain ⟨more, -, heq⟩ := Option.map_eq_some_iff.1 h
    obtain ⟨rfl, -⟩ := List.cons.inj heq
    exact (Literal.isPlain_of_read? (Or.inl rfl) hread).1
  · intro hp
    rw [Literal.rest?_of_isPlain hp, Option.bind_some, hend, Option.map_some]

/-- The import block for some paths is read back as these paths exactly if each of them can be
written between quotes as it is. -/
theorem imports?_text_iff (paths : List String) :
    imports? (text paths).toList = some (paths.map fun p => encode p.toList) ↔
      ∀ p ∈ paths, Literal.IsPlain p.toList := by
  match paths with
  | [] =>
    have htext : (text []).toList = [] := rfl
    rw [htext, imports?, importsFrom?, tokens?]
    simp [lineEnd, paths?]
  | [p] =>
    rw [toList_text_singleton, imports?, importsFrom?_of_token (tokens?_import false _) rfl]
    simpa using importsFrom?_single_iff p
  | p :: q :: paths =>
    rw [toList_text_cons_cons, imports?, importsFrom?_of_token (tokens?_import false _) rfl,
      importsFrom?_of_token (tokens?_mark false _ (Or.inl rfl)) rfl]
    simpa [Phase.beforeLine] using @importsFrom?_group_iff false (p :: q :: paths)

end Reading

/-- Different paths that can be written as they are have different import blocks. -/
theorem eq_of_text_eq {paths others : List String} (h : text paths = text others)
    (hpaths : ∀ p ∈ paths, Literal.IsPlain p.toList)
    (hothers : ∀ p ∈ others, Literal.IsPlain p.toList) : paths = others := by
  have hread := (imports?_text_iff paths).2 hpaths
  rw [h, (imports?_text_iff others).2 hothers] at hread
  refine List.map_injective_iff.2 (fun p q hpq => ?_) (Option.some.inj hread).symm
  exact String.toList_inj.1 (Text.Utf8.encode_injective hpq)

/-- There is a line to import something. -/
theorem exists_importLines_eq {paths : List String} (h : paths ≠ []) :
    ∃ line lines, Assembly.importLines paths = line :: lines := by
  match paths with
  | [] => exact absurd rfl h
  | [p] => exact ⟨_, _, rfl⟩
  | p :: q :: paths => exact ⟨_, _, rfl⟩

/-- The import block of a generated file stands behind its package clause. -/
theorem exists_source_eq (header package : String) (paths fragments : List String) :
    ∃ rest, Assembly.source header package paths fragments =
      header ++ "\n\npackage " ++ package ++ (if paths = [] then "" else "\n\n" ++ text paths) ++
        "\n" ++ rest := by
  obtain ⟨rest, hrest⟩ : ∃ rest, ((((fragments.map Assembly.trimmed).filter fun b =>
      !Text.blank b).flatMap fun b => ["", b]).flatMap fun l => '\n' :: l.toList) ++ "\n".toList =
        '\n' :: rest := by
    generalize (fragments.map Assembly.trimmed).filter _ = bodies
    cases bodies with
    | nil => exact ⟨[], rfl⟩
    | cons b bodies => exact ⟨_, rfl⟩
  refine ⟨String.ofList rest, String.toList_inj.1 ?_⟩
  by_cases h : paths = []
  · subst h
    simp only [Assembly.source, Assembly.importLines, List.append_nil, List.cons_append,
      List.nil_append, String.toList_append, toList_intercalate_cons, List.flatMap_cons,
      List.append_assoc, hrest, String.toList_ofList, if_true]
    rfl
  · obtain ⟨line, lines, hlines⟩ := exists_importLines_eq h
    simp only [Assembly.source, text, hlines, List.cons_append, List.nil_append,
      String.toList_append, toList_intercalate_cons, List.flatMap_cons, List.flatMap_append,
      List.append_assoc, hrest, String.toList_ofList, if_neg h]
    rfl

/-- An import block says what it was made for, as long as every path can be written between quotes
as it is: it is read back as exactly these paths, no other such paths have the same block, and a
generated file holds it behind its package clause. -/
theorem importBlock_iff (paths : List String) :
    (imports? (text paths).toList = some (paths.map fun p => encode p.toList) ↔
      ∀ p ∈ paths, Literal.IsPlain p.toList) ∧
    (∀ others, (∀ p ∈ paths, Literal.IsPlain p.toList) → (∀ p ∈ others, Literal.IsPlain p.toList) →
      text paths = text others → paths = others) ∧
    ∀ header package fragments, ∃ rest, Assembly.source header package paths fragments =
      header ++ "\n\npackage " ++ package ++ (if paths = [] then "" else "\n\n" ++ text paths) ++
        "\n" ++ rest :=
  ⟨imports?_text_iff paths, fun _ hpaths hothers h => eq_of_text_eq h hpaths hothers,
    fun header package fragments => exists_source_eq header package paths fragments⟩

open Template in
/-- A path with a line end and quotes in it has the same import block as the paths that these seem
to separate. -/
theorem text_eq_of_quoted :
    ∃ one two : Imports,
      (∀ store, (Imports.empty.registerAll [.text "x\"\n\t\"y" false, .text "z" false]).run store =
        .ok ((one, none), store)) ∧
      (∀ store, (Imports.empty.registerAll [.text "x" false, .text "y" false, .text "z" false]).run
        store = .ok ((two, none), store)) ∧
      one.paths ≠ two.paths ∧ text one.paths = text two.paths ∧
      imports? (text one.paths).toList ≠ some (one.paths.map fun p => encode p.toList) := by
  refine ⟨⟨["x\"\n\t\"y", "z"]⟩, ⟨["x", "y", "z"]⟩, fun store => ?_, fun store => ?_, by decide,
    by decide, mt (imports?_text_iff _).1 (by decide)⟩
  · exact Imports.registerAll_of_pathOf?
      (show _ = ["x\"\n\t\"y", "z"].map some by decide) store
  · exact Imports.registerAll_of_pathOf? (show _ = ["x", "y", "z"].map some by decide) store

end TypeWeave.Go.ImportBlock
