import TypeWeave.Proofs.Go.LineEnd.Number

/-!
# Quotes, comments and line ends

Strings between double quotes and characters end at a line end. Raw strings and comments between
marks go on behind one, and have the carriage returns of the text.
-/

namespace TypeWeave.Go.Lexeme

open Text (crlf crlf_cons crlf_eq_self crlf_eq_nil)

/-- Some digits of an escape end at a line end. -/
theorem take_crlf {n : Nat} {cs : List Char} (h : '\n' ∉ cs.take n) :
    (crlf cs).take n = cs.take n ∧ (crlf cs).drop n = crlf (cs.drop n) := by
  induction n generalizing cs with
  | zero => simp
  | succ n ih =>
    cases cs with
    | nil => simp
    | cons c cs =>
      simp only [List.take_succ_cons, List.mem_cons, not_or] at h
      obtain ⟨htake, hdrop⟩ := ih h.2
      simp [crlf_cons (Ne.symm h.1), htake, hdrop]

/-- A line end among some digits shows by its carriage return. -/
theorem return_mem_take_crlf {n : Nat} {cs : List Char} (h : '\n' ∈ cs.take n) :
    '\r' ∈ (crlf cs).take n := by
  induction n generalizing cs with
  | zero => simp at h
  | succ n ih =>
    cases cs with
    | nil => simp at h
    | cons c cs =>
      by_cases hc : c = '\n'
      · simp [hc]
      · rw [List.take_succ_cons, List.mem_cons] at h
        rw [crlf_cons hc, List.take_succ_cons, List.mem_cons]
        exact .inr (ih (h.resolve_left (Ne.symm hc)))

/-- Some digits of a class. -/
def counted? (p : Char → Bool) (n : Nat) (cs : List Char) : Option Cut :=
  if (cs.take n).length = n && (cs.take n).all p then some (cs.take n, cs.drop n) else none

section Counted

variable {p : Char → Bool} {n : Nat}

theorem newline_not_mem_counted? (hn : p '\n' = false) {cs : List Char} {cut : Cut}
    (h : counted? p n cs = some cut) : '\n' ∉ cut.1 := by
  unfold counted? at h
  split at h
  · rename_i hds
    cases h
    rw [Bool.and_eq_true, List.all_eq_true] at hds
    intro hmem
    have hp := hds.2 _ hmem
    rw [hn] at hp
    cases hp
  · cases h

theorem counted?_crlf (hn : p '\n' = false) (hr : p '\r' = false) (cs : List Char) :
    counted? p n (crlf cs) = (counted? p n cs).map crlfCut := by
  unfold counted?
  by_cases h : '\n' ∈ cs.take n
  · have hfeed : (cs.take n).all p = false := List.all_eq_false.2 ⟨'\n', h, by simp [hn]⟩
    have hreturn : ((crlf cs).take n).all p = false :=
      List.all_eq_false.2 ⟨'\r', return_mem_take_crlf h, by simp [hr]⟩
    simp [hfeed, hreturn]
  · obtain ⟨htake, hdrop⟩ := take_crlf h
    rw [htake, hdrop]
    split <;> simp [crlfCut, crlf_eq_self h]

end Counted

section Escapes

variable {c : Char}

/-- An escape is a mark with digits behind it, or a single character. -/
theorem escape?_cons (c : Char) (rest : List Char) : escape? (c :: rest) =
    if c = 'x' then (counted? isHex 2 rest).map fun cut => ([c] ++ cut.1, cut.2)
    else if c = 'u' then (counted? isHex 4 rest).map fun cut => ([c] ++ cut.1, cut.2)
    else if c = 'U' then (counted? isHex 8 rest).map fun cut => ([c] ++ cut.1, cut.2)
    else some ([c], rest) := by
  have hcounted (n : Nat) : (if decide ((rest.take n).length = n) && (rest.take n).all isHex then
      some (c :: rest.take n, rest.drop n) else none) =
        (counted? isHex n rest).map fun cut => ([c] ++ cut.1, cut.2) := by
    unfold counted?
    split <;> rfl
  by_cases hx : c = 'x'
  · subst hx
    exact hcounted 2
  · rw [if_neg hx]
    by_cases hu : c = 'u'
    · subst hu
      exact hcounted 4
    · rw [if_neg hu]
      by_cases hU : c = 'U'
      · subst hU
        exact hcounted 8
      · rw [if_neg hU]
        simp [escape?]

/-- No line end is in an escape of anything else. -/
theorem newline_not_mem_escape? (hc : c ≠ '\n') {rest : List Char} {cut : Cut}
    (h : escape? (c :: rest) = some cut) : '\n' ∉ cut.1 := by
  have hcounted {n : Nat}
      (h : (counted? isHex n rest).map (fun cut => ([c] ++ cut.1, cut.2)) = some cut) :
      '\n' ∉ cut.1 := by
    obtain ⟨digits, hdigits, rfl⟩ := Option.map_eq_some_iff.1 h
    have hline := newline_not_mem_counted? (by decide) hdigits
    simp [hline, Ne.symm hc]
  rw [escape?_cons] at h
  split_ifs at h
  · exact hcounted h
  · exact hcounted h
  · exact hcounted h
  · cases h
    simpa using Ne.symm hc

/-- An escape of anything but a line end is within its line. -/
theorem escape?_crlf (hc : c ≠ '\n') (rest : List Char) :
    escape? (c :: crlf rest) = (escape? (c :: rest)).map crlfCut := by
  rw [escape?_cons, escape?_cons]
  have hhex (n : Nat) : counted? isHex n (crlf rest) = (counted? isHex n rest).map crlfCut :=
    counted?_crlf (by decide) (by decide) rest
  simp only [hhex]
  split_ifs <;> simp [Function.comp_def, crlfCut, crlf_cons hc]

end Escapes

section Strings

theorem stringRest?_newline (fuel : Nat) (cs : List Char) :
    stringRest? fuel ('\n' :: cs) = none := by
  cases fuel <;> simp [stringRest?]

theorem stringRest?_slash (fuel : Nat) (cs : List Char) :
    stringRest? (fuel + 1) ('\\' :: cs) = (escape? cs).bind fun e =>
      (stringRest? fuel e.2).map fun cut => ('\\' :: e.1 ++ cut.1, cut.2) := by
  rw [stringRest?]
  refine congrArg (Option.bind _) (funext fun e => ?_)
  obtain ⟨e, rest⟩ := e
  dsimp only
  cases stringRest? fuel rest <;> rfl

theorem stringRest?_cons {c : Char} (hn : c ≠ '\n') (hq : c ≠ '"') (hs : c ≠ '\\') (fuel : Nat)
    (cs : List Char) : stringRest? (fuel + 1) (c :: cs) =
      (stringRest? fuel cs).map fun cut => (c :: cut.1, cut.2) := by
  rw [stringRest?]
  · cases stringRest? fuel cs <;> rfl
  all_goals
    intro h
    contradiction

/-- What is read within a line, with carriage returns behind it. -/
def crlfCut? (read : Option Cut) : Option Cut :=
  read.bind fun cut => if '\n' ∈ cut.1 then none else some (crlfCut cut)

/-- What is read behind some characters of the line is within a line as well. -/
theorem crlfCut?_map_append {before : List Char} (h : '\n' ∉ before) (read : Option Cut) :
    crlfCut? (read.map fun cut => (before ++ cut.1, cut.2)) =
      (crlfCut? read).map fun cut => (before ++ cut.1, cut.2) := by
  cases read with
  | none => rfl
  | some cut =>
    simp only [crlfCut?, Option.map_some, Option.bind_some, List.mem_append, h, false_or]
    split
    · rfl
    · simp [crlfCut, crlf_eq_self h]

/-- What is read behind a line end is within no line. -/
theorem crlfCut?_map_of_mem {before : List Char} (h : '\n' ∈ before) (read : Option Cut) :
    crlfCut? (read.map fun cut => (before ++ cut.1, cut.2)) = none := by
  cases read with
  | none => rfl
  | some cut => simp [crlfCut?, h]

/-- An escape in a string is within its line, and the string goes on behind it. -/
theorem stringRest?_slash_crlf {fuel fuel' : Nat} {d : Char} (hd : d ≠ '\n') {cs : List Char}
    (hbehind : ∀ taken rest, taken ++ rest = d :: cs →
      stringRest? fuel' (crlf rest) = crlfCut? (stringRest? fuel rest)) :
    stringRest? (fuel' + 1) ('\\' :: crlf (d :: cs)) =
      crlfCut? (stringRest? (fuel + 1) ('\\' :: d :: cs)) := by
  rw [stringRest?_slash, stringRest?_slash, crlf_cons hd, escape?_crlf hd]
  cases he : escape? (d :: cs) with
  | none => rfl
  | some e =>
    have hline := newline_not_mem_escape? hd he
    have hbefore : '\n' ∉ '\\' :: e.1 := by simpa using hline
    rw [Option.map_some, Option.bind_some, Option.bind_some, crlfCut, crlf_eq_self hline,
      hbehind e.1 e.2 (isCut_escape? he)]
    exact (crlfCut?_map_append hbefore _).symm

/-- A string of one line is read in both texts, and no other string is read with carriage
returns. -/
theorem stringRest?_crlf {fuel fuel' : Nat} {cs : List Char} (hfuel : cs.length < fuel)
    (hfuel' : (crlf cs).length < fuel') :
    stringRest? fuel' (crlf cs) = crlfCut? (stringRest? fuel cs) := by
  induction fuel generalizing cs fuel' with
  | zero => omega
  | succ fuel ih =>
    obtain ⟨fuel', rfl⟩ : ∃ f, fuel' = f + 1 := ⟨fuel' - 1, by omega⟩
    rcases cs with _ | ⟨c, cs⟩
    · rfl
    · rw [List.length_cons] at hfuel
      by_cases hn : c = '\n'
      · subst hn
        rw [Text.crlf_newline, stringRest?_cons (by decide) (by decide) (by decide),
          stringRest?_newline, stringRest?_newline]
        rfl
      · rw [crlf_cons hn, List.length_cons] at hfuel'
        rw [crlf_cons hn]
        by_cases hq : c = '"'
        · subst hq
          rfl
        · by_cases hs : c = '\\'
          · subst hs
            rcases cs with _ | ⟨d, cs⟩
            · rfl
            · by_cases hd : d = '\n'
              · subst hd
                have hreturn (rest : List Char) :
                    escape? ('\r' :: rest) = some (['\r'], rest) := rfl
                have hfeed (rest : List Char) : escape? ('\n' :: rest) = some (['\n'], rest) := rfl
                rw [stringRest?_slash, stringRest?_slash, Text.crlf_newline, hreturn, hfeed,
                  Option.bind_some, Option.bind_some, stringRest?_newline,
                  crlfCut?_map_of_mem (by simp)]
                rfl
              · refine stringRest?_slash_crlf hd fun taken rest hcut => ?_
                rw [← hcut] at hfuel hfuel'
                rw [Text.crlf_append] at hfuel'
                rw [List.length_append] at hfuel hfuel'
                exact ih (by omega) (by omega)
          · rw [stringRest?_cons hn hq hs, stringRest?_cons hn hq hs, ih (by omega) (by omega)]
            exact (crlfCut?_map_append (show '\n' ∉ [c] by simpa using Ne.symm hn) _).symm

end Strings

/-- A raw string goes on behind line ends. -/
theorem rawRest?_crlf (cs : List Char) : rawRest? (crlf cs) = (rawRest? cs).map crlfCut := by
  induction cs with
  | nil => rfl
  | cons c cs ih =>
    by_cases hn : c = '\n'
    · subst hn
      rw [Text.crlf_newline]
      cases h : rawRest? cs <;> simp [rawRest?, ih, h, crlfCut]
    · rw [crlf_cons hn]
      by_cases hq : c = '\x60'
      · subst hq
        simp [rawRest?, crlfCut, crlf_cons hn]
      · cases h : rawRest? cs <;> simp [rawRest?, ih, h, crlfCut, crlf_cons hn]

/-- A comment goes on behind line ends. -/
theorem commentRest?_crlf (cs : List Char) :
    commentRest? (crlf cs) = (commentRest? cs).map crlfCut := by
  have hcons {c : Char} {cs : List Char} (h : ∀ rest, c = '*' → cs = '/' :: rest → False) :
      commentRest? (c :: cs) = (commentRest? cs).map fun cut => (c :: cut.1, cut.2) := by
    rw [commentRest?]
    exact h
  induction cs with
  | nil => rfl
  | cons c cs ih =>
    by_cases hn : c = '\n'
    · subst hn
      rw [Text.crlf_newline, hcons (by simp), hcons (by simp), hcons (by simp), ih]
      simp [Function.comp_def, crlfCut]
    · rw [crlf_cons hn]
      rcases cs with _ | ⟨d, cs⟩
      · simp [commentRest?]
      · by_cases hclosed : c = '*' ∧ d = '/'
        · obtain ⟨rfl, rfl⟩ := hclosed
          simp [commentRest?, crlf_cons hn, crlf_cons (show '/' ≠ '\n' by decide), crlfCut]
        · have hopen : ∀ rest, c = '*' → d :: cs = '/' :: rest → False := by
            rintro rest rfl heq
            exact hclosed ⟨rfl, (List.cons.inj heq).1⟩
          have hopen' : ∀ rest, c = '*' → crlf (d :: cs) = '/' :: rest → False := by
            rintro rest rfl heq
            by_cases hd : d = '\n'
            · simp [hd] at heq
            · rw [crlf_cons hd] at heq
              exact hclosed ⟨rfl, (List.cons.inj heq).1⟩
          rw [hcons hopen, hcons hopen', ih]
          simp [Function.comp_def, crlfCut, crlf_cons hn]

section Characters

/-- What a quote closes. -/
def closed? (cut : Cut) : Option Cut :=
  match cut.2 with
  | '\x27' :: rest => some (cut.1 ++ ['\x27'], rest)
  | _ => none

theorem closed?_crlf {cut : Cut} (h : '\n' ∉ cut.1) :
    closed? (crlfCut cut) = crlfCut? (closed? cut) := by
  obtain ⟨body, rest⟩ := cut
  rcases rest with _ | ⟨c, rest⟩
  · rfl
  · by_cases hn : c = '\n'
    · simp [hn, closed?, crlfCut, crlfCut?]
    · by_cases hq : c = '\x27'
      · subst hq
        simp [closed?, crlfCut, crlfCut?, crlf_cons hn, h]
      · simp [closed?, crlfCut, crlfCut?, crlf_cons hn, hq]

/-- The body of a character that is an escape. -/
def escaped? (a : Char) (rest : List Char) : Option Cut :=
  ((counted? isOctal 3 (a :: rest)).or
    (if characterEscapes.contains a then some ([a], rest)
      else if a == 'x' || a == 'u' || a == 'U' then escape? (a :: rest)
      else none)).map fun cut => ('\\' :: cut.1, cut.2)

/-- Behind a mark that asks for digits at least two of them stand. -/
theorem escape?_eq_none {a : Char} (ha : (a == 'x' || a == 'u' || a == 'U') = true)
    {rest : List Char} (h : rest.length < 2) : escape? (a :: rest) = none := by
  have hcounted {n : Nat} (hn : 2 ≤ n) : counted? isHex n rest = none := by
    have hlength : (rest.take n).length ≠ n := by
      rw [List.length_take]
      omega
    simp only [counted?, hlength, decide_false, Bool.false_and, Bool.false_eq_true, if_false]
  simp only [Bool.or_eq_true, beq_iff_eq] at ha
  rw [escape?_cons, hcounted (by omega), hcounted (by omega), hcounted (by omega)]
  rcases ha with (rfl | rfl) | rfl <;> rfl

/-- An escape may be three octal digits, a single character, or a mark with digits behind it. -/
theorem characterRest?_slash (a : Char) (rest : List Char) :
    characterRest? ('\\' :: a :: rest) = (escaped? a rest).bind closed? := by
  by_cases h : rest.length < 2
  · have hread : characterRest? ('\\' :: a :: rest) =
        if characterEscapes.contains a then closed? (['\\', a], rest) else none := by
      rcases rest with _ | ⟨b, _ | ⟨c, rest⟩⟩
      · rfl
      · rfl
      · exact absurd h (by simp)
    have hoctal : counted? isOctal 3 (a :: rest) = none := by
      have hlength : ((a :: rest).take 3).length ≠ 3 := by
        rw [List.length_take, List.length_cons]
        omega
      simp only [counted?, hlength, decide_false, Bool.false_and, Bool.false_eq_true, if_false]
    rw [hread, escaped?, hoctal, Option.none_or]
    split
    · rfl
    · split
      · rename_i hmark
        rw [escape?_eq_none hmark h]
        rfl
      · rfl
  · obtain ⟨b, c, rest, rfl⟩ : ∃ b c more, rest = b :: c :: more := by
      rcases rest with _ | ⟨b, _ | ⟨c, rest⟩⟩
      · simp at h
      · simp at h
      · exact ⟨b, c, rest, rfl⟩
    have hread : characterRest? ('\\' :: a :: b :: c :: rest) =
        if isOctal a && isOctal b && isOctal c then closed? (['\\', a, b, c], rest)
        else if characterEscapes.contains a then closed? (['\\', a], b :: c :: rest)
        else if a == 'x' || a == 'u' || a == 'U' then
          ((escape? (a :: b :: c :: rest)).map fun cut => ('\\' :: cut.1, cut.2)).bind closed?
        else none := rfl
    have hoctal : counted? isOctal 3 (a :: b :: c :: rest) =
        if isOctal a && isOctal b && isOctal c then some ([a, b, c], rest) else none := by
      simp [counted?, and_assoc]
    rw [hread, escaped?, hoctal]
    split
    · rfl
    · rw [Option.none_or]
      split_ifs <;> rfl

theorem characterRest?_cons {c : Char} (hs : c ≠ '\\') (hq : c ≠ '\x27') (rest : List Char) :
    characterRest? (c :: rest) = closed? ([c], rest) := by
  unfold characterRest?
  split
  · rename_i heq
    exact absurd (List.cons.inj heq).1 hs
  · rename_i heq
    exact absurd (List.cons.inj heq).1 hs
  · rename_i heq
    exact absurd (List.cons.inj heq).1 hq
  · rename_i heq
    obtain ⟨rfl, rfl⟩ := List.cons.inj heq
    rfl
  · rename_i heq
    cases heq

/-- A line end is no escape. -/
theorem escaped?_eq_none {a : Char} (ha : a = '\n' ∨ a = '\r') (rest : List Char) :
    escaped? a rest = none := by
  have hoctal : isOctal a = false := by rcases ha with rfl | rfl <;> decide
  have hcounted : counted? isOctal 3 (a :: rest) = none := by simp [counted?, hoctal]
  rw [escaped?, hcounted]
  rcases ha with rfl | rfl <;> rfl

/-- An escape is within its line. -/
theorem escaped?_crlf {a : Char} (ha : a ≠ '\n') (rest : List Char) :
    escaped? a (crlf rest) = (escaped? a rest).map crlfCut := by
  have hoctal : counted? isOctal 3 (a :: crlf rest) =
      (counted? isOctal 3 (a :: rest)).map crlfCut := by
    rw [← crlf_cons ha]
    exact counted?_crlf (by decide) (by decide) _
  have hslash : '\\' ≠ '\n' := by decide
  unfold escaped?
  rw [hoctal, escape?_crlf ha]
  cases counted? isOctal 3 (a :: rest) with
  | some cut => simp [crlfCut, crlf_cons hslash]
  | none =>
    simp only [Option.map_none, Option.none_or]
    split_ifs <;> simp [Function.comp_def, crlfCut, crlf_cons hslash, crlf_cons ha]

theorem newline_not_mem_escaped? {a : Char} (ha : a ≠ '\n') {rest : List Char} {cut : Cut}
    (h : escaped? a rest = some cut) : '\n' ∉ cut.1 := by
  obtain ⟨body, hbody, rfl⟩ := Option.map_eq_some_iff.1 h
  suffices '\n' ∉ body.1 by simpa using this
  rcases Option.or_eq_some_iff.1 hbody with hoctal | ⟨-, hother⟩
  · exact newline_not_mem_counted? (by decide) hoctal
  · split_ifs at hother
    · cases hother
      simpa using Ne.symm ha
    · exact newline_not_mem_escape? ha hother

/-- A character that is no line end is read in both texts, and no other one is read with carriage
returns. -/
theorem characterRest?_crlf (cs : List Char) :
    characterRest? (crlf cs) = crlfCut? (characterRest? cs) := by
  rcases cs with _ | ⟨c, cs⟩
  · rfl
  · by_cases hn : c = '\n'
    · subst hn
      have hnone : crlfCut? (closed? (['\n'], cs)) = none := by
        unfold closed?
        split
        · rfl
        · rfl
      rw [Text.crlf_newline, characterRest?_cons (by decide) (by decide),
        characterRest?_cons (by decide) (by decide), hnone]
      rfl
    · rw [crlf_cons hn]
      by_cases hq : c = '\x27'
      · subst hq
        rfl
      · by_cases hs : c = '\\'
        · subst hs
          rcases cs with _ | ⟨a, cs⟩
          · rfl
          · by_cases ha : a = '\n'
            · subst ha
              rw [Text.crlf_newline, characterRest?_slash, characterRest?_slash,
                escaped?_eq_none (.inl rfl), escaped?_eq_none (.inr rfl)]
              rfl
            · rw [crlf_cons ha, characterRest?_slash, characterRest?_slash, escaped?_crlf ha]
              cases hbody : escaped? a cs with
              | none => rfl
              | some body => exact closed?_crlf (newline_not_mem_escaped? ha hbody)
        · have hline : '\n' ∉ [c] := by simpa using Ne.symm hn
          rw [characterRest?_cons hs hq, characterRest?_cons hs hq, ← closed?_crlf hline, crlfCut,
            crlf_eq_self hline]

end Characters

end TypeWeave.Go.Lexeme
