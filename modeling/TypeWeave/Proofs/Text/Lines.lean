import TypeWeave.Text.Lines
import Mathlib.Data.List.Basic

/-!
# Lines by the wide rule

No line holds a character that ends lines, and a newline ends one whatever stands around it, so that
the lines of a text are those of its parts between newlines. Main statements:
`wideLines_append_newline` and `wideLines_of_inner`.
-/

namespace TypeWeave.Text

variable {c : Char} {cs line : List Char}

@[simp] theorem wideLines_nil : wideLines [] = [] := rfl

@[simp] theorem wideLines_newline (cs : List Char) : wideLines ('\n' :: cs) = [] :: wideLines cs := by
  simp [wideLines, linesWithEnds, show isLineEnd '\n' = true by decide]

/-- A return in front of a newline ends no line of its own. -/
theorem wideLines_return (h : cs.head? = some '\n') : wideLines ('\r' :: cs) = wideLines cs := by
  obtain ⟨ds, rfl⟩ := List.head?_eq_some_iff.1 h
  rw [wideLines_newline]
  rfl

/-- Any other character that ends lines does. -/
theorem wideLines_cons_of_isLineEnd (hc : isLineEnd c = true)
    (hpair : ¬(c = '\r' ∧ cs.head? = some '\n')) : wideLines (c :: cs) = [] :: wideLines cs := by
  rw [wideLines, linesWithEnds, if_pos hc]
  · rfl
  · rintro ds rfl rfl
    exact hpair ⟨rfl, rfl⟩

/-- A character that ends no line belongs to the line of the next one. -/
theorem wideLines_cons (hc : isLineEnd c = false) (cs : List Char) :
    wideLines (c :: cs) = (c :: (wideLines cs).headD []) :: (wideLines cs).tail := by
  rw [wideLines, linesWithEnds, hc, if_neg Bool.false_ne_true]
  · unfold wideLines
    cases linesWithEnds cs <;> rfl
  · rintro ds rfl -
    cases hc

/-- A line has no character that ends lines. -/
theorem isLineEnd_of_mem_wideLines (hline : line ∈ wideLines cs) (hc : c ∈ line) :
    isLineEnd c = false := by
  induction cs generalizing line with
  | nil => cases hline
  | cons d cs ih =>
    by_cases hpair : d = '\r' ∧ cs.head? = some '\n'
    · obtain ⟨rfl, hhead⟩ := hpair
      exact ih (wideLines_return hhead ▸ hline) hc
    · cases hd : isLineEnd d with
      | true =>
        rw [wideLines_cons_of_isLineEnd hd hpair] at hline
        rcases List.mem_cons.1 hline with rfl | hline
        · cases hc
        · exact ih hline hc
      | false =>
        rw [wideLines_cons hd] at hline
        rcases List.mem_cons.1 hline with rfl | hline
        · rcases List.mem_cons.1 hc with rfl | hc
          · exact hd
          · cases hlines : wideLines cs with
            | nil => simp [hlines] at hc
            | cons l ls => exact ih (hlines ▸ List.mem_cons_self) (by simpa [hlines] using hc)
        · exact ih (List.mem_of_mem_tail hline) hc

/-- A text with a character has a line. -/
theorem wideLines_ne_nil (h : cs ≠ []) : wideLines cs ≠ [] := by
  induction cs with
  | nil => contradiction
  | cons c cs ih =>
    by_cases hpair : c = '\r' ∧ cs.head? = some '\n'
    · obtain ⟨rfl, hhead⟩ := hpair
      rw [wideLines_return hhead]
      exact ih fun hnil => by simp [hnil] at hhead
    · cases hc : isLineEnd c with
      | true => simp [wideLines_cons_of_isLineEnd hc hpair]
      | false => simp [wideLines_cons hc]

/-- A newline ends a line, and behind it the lines are those of the rest. -/
theorem wideLines_append_newline (cs ds : List Char) :
    wideLines (cs ++ '\n' :: ds) = wideLines (cs ++ ['\n']) ++ wideLines ds := by
  induction cs with
  | nil => simp
  | cons c cs ih =>
    have hhead (es : List Char) : (cs ++ '\n' :: es).head? = some (cs.headD '\n') := by
      cases cs <;> rfl
    rw [List.cons_append, List.cons_append]
    by_cases hpair : c = '\r' ∧ cs.headD '\n' = '\n'
    · obtain ⟨rfl, hnewline⟩ := hpair
      have hboth (es : List Char) : (cs ++ '\n' :: es).head? = some '\n' :=
        (hhead es).trans (congrArg some hnewline)
      rw [wideLines_return (hboth ds), wideLines_return (hboth []), ih]
    · have hnone (es : List Char) : ¬(c = '\r' ∧ (cs ++ '\n' :: es).head? = some '\n') := by
        rwa [hhead, Option.some.injEq]
      cases hc : isLineEnd c with
      | true =>
        rw [wideLines_cons_of_isLineEnd hc (hnone ds), wideLines_cons_of_isLineEnd hc (hnone []), ih,
          List.cons_append]
      | false =>
        have hne : cs ++ ['\n'] ≠ [] := by simp
        obtain ⟨l, ls, hlines⟩ := List.exists_cons_of_ne_nil (wideLines_ne_nil hne)
        rw [wideLines_cons hc, wideLines_cons hc, ih, hlines]
        rfl

/-- Every newline ends a line, so there are at least as many of these. -/
theorem count_newline_le (cs : List Char) : cs.count '\n' ≤ (wideLines cs).length := by
  induction cs with
  | nil => simp
  | cons c cs ih =>
    by_cases hpair : c = '\r' ∧ cs.head? = some '\n'
    · obtain ⟨rfl, hhead⟩ := hpair
      rwa [wideLines_return hhead, List.count_cons_of_ne (by decide)]
    · cases hc : isLineEnd c with
      | true =>
        rw [wideLines_cons_of_isLineEnd hc hpair, List.length_cons, List.count_cons]
        split <;> omega
      | false =>
        have hne : c ≠ '\n' := by
          rintro rfl
          cases hc
        rw [wideLines_cons hc, List.length_cons, List.length_tail, List.count_cons_of_ne hne]
        omega

/-- A text without characters that end lines is a single line, unless it is empty. -/
theorem wideLines_of_inner (hne : line ≠ []) (h : ∀ c ∈ line, isLineEnd c = false) :
    wideLines line = [line] := by
  induction line with
  | nil => contradiction
  | cons c cs ih =>
    obtain ⟨hc, hcs⟩ := List.forall_mem_cons.1 h
    rw [wideLines_cons hc]
    cases cs with
    | nil => rfl
    | cons d cs =>
      rw [ih (List.cons_ne_nil d cs) hcs]
      rfl

/-- The newline behind a text without characters that end lines ends its only line. -/
theorem wideLines_inner_newline (h : ∀ c ∈ line, isLineEnd c = false) :
    wideLines (line ++ ['\n']) = [line] := by
  induction line with
  | nil => simp
  | cons c cs ih =>
    obtain ⟨hc, hcs⟩ := List.forall_mem_cons.1 h
    rw [List.cons_append, wideLines_cons hc, ih hcs]
    rfl

end TypeWeave.Text
