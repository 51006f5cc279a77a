import TypeWeave.Proofs.Go.Piece
import TypeWeave.Proofs.Text.LineEnd

/-!
# Numbers and line ends

Numbers end at a line end. With a carriage return before each line feed they are cut off the same
text, with the carriage returns behind them.
-/

namespace TypeWeave.Go.Lexeme

open Text (crlf crlf_cons crlf_eq_self crlf_eq_nil)

/-- A cut of a text, with carriage returns. -/
def crlfCut (cut : Cut) : Cut := (crlf cut.1, crlf cut.2)

section Digits

variable {p : Char → Bool} (hn : p '\n' = false) (hr : p '\r' = false)
include hn hr

/-- Digits end at a line end. -/
theorem digitRun_crlf (cs : List Char) : digitRun p (crlf cs) = crlfCut (digitRun p cs) := by
  have hne {c : Char} (hc : p c = true) : c ≠ '\n' := by
    rintro rfl
    rw [hn] at hc
    cases hc
  have hbar : '_' ≠ '\n' := by decide
  have hsecond {c : Char} {rest : List Char}
      (hnot : ∀ d ds, c = '_' → rest = d :: ds → False) (d : Char) (ds : List Char) (hc : c = '_')
      (hds : crlf rest = d :: ds) : False := by
    cases rest with
    | nil => cases hds
    | cons e rest => exact hnot e rest hc rfl
  fun_induction digitRun p cs with
  | case1 c rest hc taken rest' hrest ih =>
    rw [crlf_cons hbar, crlf_cons (hne hc), digitRun, if_pos hc, ih, hrest]
    simp [crlfCut, crlf_cons (hne hc), crlf_cons hbar]
  | case2 c rest hc =>
    rw [crlf_cons hbar]
    by_cases hc' : c = '\n'
    · simp [hc', digitRun, hr, crlfCut, crlf_cons hbar]
    · simp [crlf_cons hc', digitRun, hc, crlfCut, crlf_cons hbar]
  | case3 c rest hnot hc taken rest' hrest ih =>
    rw [crlf_cons (hne hc), digitRun.eq_2 _ _ _ (hsecond hnot), if_pos hc, ih, hrest]
    simp [crlfCut, crlf_cons (hne hc)]
  | case4 c rest hnot hc =>
    by_cases hc' : c = '\n'
    · simp [hc', digitRun, hr, crlfCut]
    · rw [crlf_cons hc', digitRun.eq_2 _ _ _ (hsecond hnot), if_neg hc]
      simp [crlfCut, crlf_cons hc']
  | case5 => rfl

theorem digits_crlf (cs : List Char) : digits p (crlf cs) = crlfCut (digits p cs) := by
  have hrun := digitRun_crlf hn hr cs
  cases cs with
  | nil => exact hrun
  | cons c cs =>
    by_cases hc : c = '\n'
    · simp only [hc, Text.crlf_newline] at hrun ⊢
      simpa [digits] using hrun
    · rw [crlf_cons hc] at hrun ⊢
      by_cases hbar : c = '_'
      · subst hbar
        simp [digits, crlfCut, crlf_cons hc]
      · simpa [digits, hbar] using hrun

theorem fraction_crlf (cs : List Char) : fraction p (crlf cs) = crlfCut (fraction p cs) := by
  cases cs with
  | nil => rfl
  | cons c cs =>
    by_cases hc : c = '\n'
    · simp [hc, fraction, crlfCut]
    · by_cases hpoint : c = '.'
      · subst hpoint
        simp [crlf_cons hc, fraction, digits_crlf hn hr, crlfCut]
      · simp [crlf_cons hc, fraction, hpoint, crlfCut]

end Digits

theorem decimal_crlf (cs : List Char) :
    digits Char.isDigit (crlf cs) = crlfCut (digits Char.isDigit cs) :=
  digits_crlf (by decide) (by decide) cs

theorem isEmpty_crlf (cs : List Char) : (crlf cs).isEmpty = cs.isEmpty := by
  rw [Bool.eq_iff_iff, List.isEmpty_iff, List.isEmpty_iff, crlf_eq_nil]

theorem imaginary_crlf (cs : List Char) : imaginary (crlf cs) = crlfCut (imaginary cs) := by
  cases cs with
  | nil => rfl
  | cons c cs =>
    by_cases hc : c = '\n'
    · simp [hc, imaginary, crlfCut]
    · by_cases hi : c = 'i'
      · subst hi
        simp [crlf_cons hc, imaginary, crlfCut]
      · simp [crlf_cons hc, imaginary, hi, crlfCut]

/-- The sign of an exponent. -/
def signOf (cs : List Char) : Cut :=
  match cs with
  | '+' :: r => (['+'], r)
  | '-' :: r => (['-'], r)
  | r => ([], r)

theorem signOf_crlf (cs : List Char) : signOf (crlf cs) = crlfCut (signOf cs) := by
  cases cs with
  | nil => rfl
  | cons c cs =>
    by_cases hc : c = '\n'
    · simp [hc, signOf, crlfCut]
    · by_cases hplus : c = '+'
      · subst hplus
        simp [crlf_cons hc, signOf, crlfCut]
      · by_cases hminus : c = '-'
        · subst hminus
          simp [crlf_cons hc, signOf, crlfCut]
        · simp [crlf_cons hc, signOf, hplus, hminus, crlfCut]

/-- The mark of an exponent with a sign and the digits behind it, if there are any. -/
def markedDigits (m : Char) (rest : List Char) (sign : Cut) : Cut :=
  match digits Char.isDigit sign.2 with
  | ([], _) => ([], m :: rest)
  | (ds, behind) => (m :: sign.1 ++ ds, behind)

theorem markedDigits_eq (m : Char) (rest : List Char) (sign : Cut) :
    markedDigits m rest sign =
      if !(digits Char.isDigit sign.2).1.isEmpty then
        (m :: sign.1 ++ (digits Char.isDigit sign.2).1, (digits Char.isDigit sign.2).2)
      else ([], m :: rest) := by
  rcases h : digits Char.isDigit sign.2 with ⟨_ | ⟨d, ds⟩, behind⟩ <;> simp [markedDigits, h]

/-- An exponent is a mark, a sign and digits. -/
theorem exponent_cons (marks : List Char) (m : Char) (rest : List Char) :
    exponent marks (m :: rest) =
      if marks.contains m && !(digits Char.isDigit (signOf rest).2).1.isEmpty then
        (m :: (signOf rest).1 ++ (digits Char.isDigit (signOf rest).2).1,
          (digits Char.isDigit (signOf rest).2).2)
      else ([], m :: rest) := by
  unfold exponent
  dsimp only
  cases marks.contains m with
  | false => rfl
  | true => exact markedDigits_eq m rest (signOf rest)

theorem exponent_crlf {marks : List Char} (hr : '\r' ∉ marks) (hn : '\n' ∉ marks)
    (cs : List Char) : exponent marks (crlf cs) = crlfCut (exponent marks cs) := by
  cases cs with
  | nil => rfl
  | cons m rest =>
    by_cases hm : m = '\n'
    · subst hm
      simp [exponent_cons, hr, hn, crlfCut]
    · rw [crlf_cons hm, exponent_cons, exponent_cons, signOf_crlf]
      simp only [crlfCut, decimal_crlf, isEmpty_crlf]
      split
      · simp [crlf_cons hm]
      · simp [crlf_cons hm]

/-- Cuts one after another each end at a line end. -/
theorem inTurn_crlf {steps : List (List Char → Cut)}
    (h : ∀ step ∈ steps, ∀ cs, step (crlf cs) = crlfCut (step cs)) (cs : List Char) :
    inTurn steps (crlf cs) = crlfCut (inTurn steps cs) := by
  suffices hfold : ∀ acc : Cut, steps.foldl (fun acc step =>
      (acc.1 ++ (step acc.2).1, (step acc.2).2)) (crlfCut acc) = crlfCut (steps.foldl
        (fun acc step => (acc.1 ++ (step acc.2).1, (step acc.2).2)) acc) from hfold ([], cs)
  induction steps with
  | nil => exact fun acc => rfl
  | cons step steps ih =>
    obtain ⟨hstep, hsteps⟩ := List.forall_mem_cons.1 h
    intro acc
    have hacc : crlfCut (acc.1 ++ (step acc.2).1, (step acc.2).2) =
        ((crlfCut acc).1 ++ (step (crlfCut acc).2).1, (step (crlfCut acc).2).2) := by
      simp [crlfCut, hstep]
    rw [List.foldl_cons, List.foldl_cons, ← hacc]
    exact ih hsteps _

/-- The digits of a number whose base a letter marks. -/
def basedDigits? (m : Char) (rest : List Char) : Option Cut :=
  if m == 'x' || m == 'X' then
    if (digitRun isHex rest).1.isEmpty then none
    else
      let cut := digitRun isHex rest
      let more := inTurn [fraction isHex, exponent ['p', 'P']] cut.2
      some (cut.1 ++ more.1, more.2)
  else
    let p : Char → Bool :=
      if m == 'b' || m == 'B' then (fun c => c == '0' || c == '1')
      else if m == 'o' || m == 'O' then isOctal
      else fun _ => false
    if (digitRun p rest).1.isEmpty then none else some (digitRun p rest)

theorem basedNumber?_cons (m : Char) (rest : List Char) :
    basedNumber? ('0' :: m :: rest) = (basedDigits? m rest).map fun cut =>
      ('0' :: m :: cut.1 ++ (imaginary cut.2).1, (imaginary cut.2).2) := by
  rw [basedNumber?]
  refine congrArg (Option.map _) ?_
  unfold basedDigits?
  dsimp only
  split
  · rcases digitRun isHex rest with ⟨_ | ⟨d, ds⟩, rest'⟩ <;> rfl
  · generalize (if (m == 'b' || m == 'B') = true then fun c => c == '0' || c == '1'
      else if (m == 'o' || m == 'O') = true then isOctal else fun x => false : Char → Bool) = p
    rcases digitRun p rest with ⟨_ | ⟨d, ds⟩, rest'⟩ <;> rfl

theorem basedDigits?_crlf (m : Char) (rest : List Char) :
    basedDigits? m (crlf rest) = (basedDigits? m rest).map crlfCut := by
  have hhex (cs : List Char) : digitRun isHex (crlf cs) = crlfCut (digitRun isHex cs) :=
    digitRun_crlf (by decide) (by decide) cs
  have hmore (cs : List Char) : inTurn [fraction isHex, exponent ['p', 'P']] (crlf cs) =
      crlfCut (inTurn [fraction isHex, exponent ['p', 'P']] cs) := inTurn_crlf (by
    intro step hstep cs
    rcases List.mem_pair.1 hstep with rfl | rfl
    · exact fraction_crlf (by decide) (by decide) cs
    · exact exponent_crlf (by decide) (by decide) cs) cs
  unfold basedDigits?
  dsimp only
  split
  · rw [hhex]
    simp only [crlfCut, isEmpty_crlf, hmore]
    split <;> simp [crlfCut]
  · generalize hp : (if (m == 'b' || m == 'B') = true then fun c => c == '0' || c == '1'
      else if (m == 'o' || m == 'O') = true then isOctal else fun x => false : Char → Bool) = p
    have hrun : digitRun p (crlf rest) = crlfCut (digitRun p rest) := by
      refine digitRun_crlf ?_ ?_ rest <;> subst hp <;> split_ifs <;> decide
    simp only [hrun, crlfCut, isEmpty_crlf]
    split <;> simp [crlfCut]

/-- A line end marks no base. -/
theorem basedDigits?_eq_none {m : Char} (hm : m = '\n' ∨ m = '\r') (rest : List Char) :
    basedDigits? m rest = none := by
  have hrun : (digitRun (fun _ => false) rest).1 = [] := by
    unfold digitRun
    split <;> rfl
  rcases hm with rfl | rfl <;> simp [basedDigits?, hrun]

theorem basedNumber?_crlf (cs : List Char) :
    basedNumber? (crlf cs) = (basedNumber? cs).map crlfCut := by
  rcases cs with _ | ⟨c, cs⟩
  · rfl
  · by_cases hc : c = '0'
    · subst hc
      rcases cs with _ | ⟨m, cs⟩
      · rfl
      · have hzero : '0' ≠ '\n' := by decide
        rw [crlf_cons hzero]
        by_cases hm : m = '\n'
        · subst hm
          rw [Text.crlf_newline, basedNumber?_cons, basedNumber?_cons,
            basedDigits?_eq_none (.inl rfl), basedDigits?_eq_none (.inr rfl)]
          rfl
        · rw [crlf_cons hm, basedNumber?_cons, basedNumber?_cons, basedDigits?_crlf,
            Option.map_map, Option.map_map]
          simp [Function.comp_def, crlfCut, imaginary_crlf, crlf_cons hzero, crlf_cons hm]
    · have hnone : basedNumber? (c :: cs) = none := by simp [basedNumber?, hc]
      rw [hnone]
      by_cases hc' : c = '\n'
      · simp [hc', basedNumber?]
      · simp [crlf_cons hc', basedNumber?, hc]

/-- No line end is among digits. -/
theorem newline_not_mem_digits {p : Char → Bool} (hn : p '\n' = false) (cs : List Char) :
    '\n' ∉ (digits p cs).1 := by
  have hrun (cs : List Char) : '\n' ∉ (digitRun p cs).1 := by
    fun_induction digitRun p cs with
    | case1 c rest hc taken rest' hrest ih =>
      rw [hrest] at ih
      have hne : '\n' ≠ c := by rintro rfl; simp [hn] at hc
      simp [ih, hne]
    | case2 => simp
    | case3 c rest hnot hc taken rest' hrest ih =>
      rw [hrest] at ih
      have hne : '\n' ≠ c := by rintro rfl; simp [hn] at hc
      simp [ih, hne]
    | case4 => simp
    | case5 => simp
  unfold digits
  split
  · simp
  · exact hrun _

theorem newline_not_mem_fraction {p : Char → Bool} (hn : p '\n' = false) (cs : List Char) :
    '\n' ∉ (fraction p cs).1 := by
  unfold fraction
  split
  · simpa using newline_not_mem_digits hn _
  · simp

theorem decimalNumber?_crlf (cs : List Char) :
    decimalNumber? (crlf cs) = (decimalNumber? cs).map crlfCut := by
  have hplaces (cs : List Char) : fraction Char.isDigit (crlf cs) =
      crlfCut (fraction Char.isDigit cs) := fraction_crlf (by decide) (by decide) cs
  have hmore (cs : List Char) : inTurn [exponent ['e', 'E'], imaginary] (crlf cs) =
      crlfCut (inTurn [exponent ['e', 'E'], imaginary] cs) := inTurn_crlf (by
    intro step hstep cs
    rcases List.mem_pair.1 hstep with rfl | rfl
    · exact exponent_crlf (by decide) (by decide) cs
    · exact imaginary_crlf cs) cs
  have hwhole (cs : List Char) : crlf (digits Char.isDigit cs).1 = (digits Char.isDigit cs).1 :=
    crlf_eq_self (newline_not_mem_digits (by decide) cs)
  have hfraction (cs : List Char) :
      crlf (fraction Char.isDigit cs).1 = (fraction Char.isDigit cs).1 :=
    crlf_eq_self (newline_not_mem_fraction (by decide) cs)
  unfold decimalNumber?
  simp only [decimal_crlf, hplaces, hmore, crlfCut, isEmpty_crlf, hwhole, hfraction]
  split
  · rfl
  · split
    · rfl
    · simp [crlfCut, hwhole, hfraction]

end TypeWeave.Go.Lexeme
