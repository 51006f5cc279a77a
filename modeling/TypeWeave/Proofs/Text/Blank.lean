import TypeWeave.Text.Blank
import Mathlib.Data.List.DropRight

/-!
# Stripped text

What is stripped from a text stands at its ends and is of the class that is stripped; what is left
neither starts nor ends with a character of that class. Main statements: `exists_eq_stripWhile`,
`head?_stripWhile` and `getLast?_stripWhile`.
-/

namespace TypeWeave.Text

variable {p q : Char → Bool} {c : Char} {cs : List Char}

theorem dropEndWhile_eq_rdropWhile (p : Char → Bool) (cs : List Char) :
    dropEndWhile p cs = cs.rdropWhile p := by
  induction cs with
  | nil => rfl
  | cons c cs ih =>
    have hrest : dropEndWhile p cs = (cs.reverse.dropWhile p).reverse := ih
    rw [dropEndWhile, hrest, List.rdropWhile, List.reverse_cons, List.dropWhile_append]
    cases h : cs.reverse.dropWhile p with
    | nil => by_cases hc : p c <;> simp [hc]
    | cons d ds => simp

theorem dropEndWhile_dropEndWhile : dropEndWhile p (dropEndWhile p cs) = dropEndWhile p cs := by
  simp only [dropEndWhile_eq_rdropWhile, List.rdropWhile_idempotent p cs]

/-- What is dropped from the end of a text leaves its first character. -/
theorem dropWhile_dropEndWhile (h : cs.dropWhile p = cs) :
    (dropEndWhile p cs).dropWhile p = dropEndWhile p cs := by
  rw [List.dropWhile_eq_self_iff] at h ⊢
  intro hlength
  have hinitial := List.rdropWhile_prefix p (l := cs)
  rw [← dropEndWhile_eq_rdropWhile] at hinitial
  rw [hinitial.getElem hlength]
  exact h (hlength.trans_le hinitial.length_le)

theorem stripWhile_stripWhile : stripWhile p (stripWhile p cs) = stripWhile p cs := by
  unfold stripWhile
  rw [dropWhile_dropEndWhile (List.dropWhile_idempotent p cs), dropEndWhile_dropEndWhile]

/-- A text is what is left of it with the stripped characters around it. -/
theorem exists_eq_stripWhile (p : Char → Bool) (cs : List Char) :
    ∃ before after, cs = before ++ stripWhile p cs ++ after ∧ before.all p = true ∧
      after.all p = true := by
  have hafter : (cs.dropWhile p).rdropWhile p ++ (cs.dropWhile p).rtakeWhile p = cs.dropWhile p :=
    List.rdropWhile_append_rtakeWhile
  refine ⟨cs.takeWhile p, (cs.dropWhile p).rtakeWhile p, ?_, List.all_takeWhile, ?_⟩
  · rw [stripWhile, dropEndWhile_eq_rdropWhile, List.append_assoc, hafter,
      List.takeWhile_append_dropWhile]
  · exact List.all_eq_true.2 fun c hc => List.mem_rtakeWhile_imp hc

theorem head?_stripWhile (h : (stripWhile p cs).head? = some c) : p c = false := by
  have hself : (stripWhile p cs).dropWhile p = stripWhile p cs :=
    dropWhile_dropEndWhile (List.dropWhile_idempotent p cs)
  have hnot := List.head?_dropWhile_not p (stripWhile p cs)
  rw [hself, h] at hnot
  simpa using hnot

theorem getLast?_stripWhile (h : (stripWhile p cs).getLast? = some c) : p c = false := by
  rw [stripWhile, dropEndWhile_eq_rdropWhile] at h
  obtain ⟨hne, rfl⟩ := List.mem_getLast?_eq_getLast (Option.mem_def.2 h)
  exact Bool.eq_false_iff.2 (List.rdropWhile_last_not p _ hne)

/-- Stripping characters of a class does not change whether a text is all of that class, or of a
wider one. -/
theorem all_stripWhile_of_imp (h : ∀ c, p c = true → q c = true) :
    (stripWhile p cs).all q = cs.all q := by
  obtain ⟨before, after, heq, hbefore, hafter⟩ := exists_eq_stripWhile p cs
  have hwide {ds : List Char} (hds : ds.all p = true) : ds.all q = true :=
    List.all_eq_true.2 fun c hc => h c (List.all_eq_true.1 hds c hc)
  conv_rhs => rw [heq]
  rw [List.all_append, List.all_append, hwide hbefore, hwide hafter, Bool.true_and, Bool.and_true]

theorem strip_strip (s : String) : strip (strip s) = strip s := by
  unfold strip stripBlank
  rw [String.toList_ofList, stripWhile_stripWhile]

/-- A text is stripped to nothing but white space only if it is nothing else. -/
theorem blank_strip (s : String) : blank (strip s) = blank s := by
  unfold blank strip
  rw [String.toList_ofList]
  exact all_stripWhile_of_imp fun _ => id

end TypeWeave.Text
