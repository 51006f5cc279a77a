import TypeWeave.Text.Search
import Mathlib.Data.List.Basic

/-!
# Searching for a single character, and what stands at the start and the end

A text without a character is not cut at it, and joining texts brings in no characters but those of
the separator. A text starts with a literal when it is the literal and a remainder, and a string
ends with another one when its characters do.
-/

namespace TypeWeave.Text

/-- A character that does not occur is not found. -/
theorem breakOn?_singleton_eq_none {c : Char} {cs : List Char} (h : c ∉ cs) :
    breakOn? [c] cs = none := by
  induction cs with
  | nil => rfl
  | cons d ds ih =>
    rw [List.mem_cons, not_or] at h
    simp only [breakOn?, dropPrefix?, if_neg h.1, ih h.2, Option.map_none]

/-- A text without the separator is a single piece. -/
theorem splitOn_singleton_of_not_mem {c : Char} {cs : List Char} (h : c ∉ cs) :
    splitOn [c] cs = [cs] := by
  simp only [splitOn, splitLimit, breakOn?_singleton_eq_none h]

/-- The characters of joined pieces are those of the pieces and of the separators. -/
theorem mem_intercalate {c : Char} {sep : List Char} (hc : c ∉ sep) (ps : List (List Char)) :
    c ∈ intercalate sep ps ↔ ∃ p ∈ ps, c ∈ p := by
  induction ps with
  | nil => simp [intercalate]
  | cons p ps ih =>
    cases ps with
    | nil => simp [intercalate]
    | cons q ps =>
      simp only [intercalate, List.mem_append, hc, or_false, ih, List.exists_mem_cons_iff]

/-- Nothing is cut from a text without the separator. -/
theorem afterLast_of_not_mem {c : Char} {cs : List Char} (h : c ∉ cs) : afterLast c cs = cs := by
  have hrev : c ∉ cs.reverse := by simpa using h
  simp only [afterLast, breakOnLast?, List.reverse_singleton, breakOn?_singleton_eq_none hrev,
    Option.map_none]

/-- A text is cut at the first character that is sought. -/
theorem breakOn?_singleton_append {c : Char} {cs : List Char} (h : c ∉ cs) (ds : List Char) :
    breakOn? [c] (cs ++ c :: ds) = some (cs, ds) := by
  induction cs with
  | nil => simp [breakOn?, dropPrefix?]
  | cons d cs ih =>
    rw [List.mem_cons, not_or] at h
    simp only [List.cons_append, breakOn?, dropPrefix?, if_neg h.1, ih h.2, Option.map_some]

/-- A text that starts with a literal is the literal and what remains. -/
theorem eq_append_of_dropPrefix? {ps cs rest : List Char} (h : dropPrefix? ps cs = some rest) :
    cs = ps ++ rest := by
  induction ps generalizing cs with
  | nil => exact Option.some.inj h
  | cons p ps ih =>
    cases cs with
    | nil => cases h
    | cons c cs =>
      rw [dropPrefix?] at h
      split at h
      · rename_i hc
        rw [hc, ih h, List.cons_append]
      · cases h

/-- The first piece of a text is what stands before the first separator. -/
theorem exists_splitOn_append {c : Char} {cs : List Char} (h : c ∉ cs) (ds : List Char) :
    ∃ rest, splitOn [c] (cs ++ c :: ds) = cs :: rest := by
  simp only [splitOn, splitLimit, breakOn?_singleton_append h]
  exact ⟨_, rfl⟩

/-- The bounds on the number of pieces do not matter when they are beyond the length of the text. -/
theorem splitLimit_singleton_eq {c : Char} {cs : List Char} {fuel fuel' n n' : Nat}
    (hfuel : cs.length < fuel) (hn : cs.length < n) (hfuel' : cs.length < fuel')
    (hn' : cs.length < n') : splitLimit fuel [c] n cs = splitLimit fuel' [c] n' cs := by
  induction fuel generalizing cs n fuel' n' with
  | zero => omega
  | succ fuel ih =>
    obtain ⟨n, rfl⟩ := Nat.exists_eq_succ_of_ne_zero (Nat.ne_zero_of_lt hn)
    obtain ⟨fuel', rfl⟩ := Nat.exists_eq_succ_of_ne_zero (Nat.ne_zero_of_lt hfuel')
    obtain ⟨n', rfl⟩ := Nat.exists_eq_succ_of_ne_zero (Nat.ne_zero_of_lt hn')
    by_cases hc : c ∈ cs
    · obtain ⟨before, after, rfl, hbefore⟩ := List.eq_append_cons_of_mem hc
      simp only [List.length_append, List.length_cons] at hfuel hn hfuel' hn'
      simp only [splitLimit, breakOn?_singleton_append hbefore]
      exact congrArg (before :: ·) (ih (by omega) (by omega) (by omega) (by omega))
    · simp only [splitLimit, breakOn?_singleton_eq_none hc]

/-- A text is split at its first separator, and the rest of it like a text of its own. -/
theorem splitOn_singleton_append {c : Char} {cs : List Char} (h : c ∉ cs) (ds : List Char) :
    splitOn [c] (cs ++ c :: ds) = cs :: splitOn [c] ds := by
  have hlength : (cs ++ c :: ds).length = cs.length + (ds.length + 1) := by simp
  rw [splitOn, splitLimit, breakOn?_singleton_append h]
  exact congrArg (cs :: ·)
    (splitLimit_singleton_eq (by omega) (by omega) (Nat.lt_succ_self _) (Nat.lt_succ_self _))

/-- Joined pieces without the separator are split into the same pieces. -/
theorem splitOn_intercalate {c : Char} {ps : List (List Char)} (hne : ps ≠ [])
    (h : ∀ p ∈ ps, c ∉ p) : splitOn [c] (intercalate [c] ps) = ps := by
  induction ps with
  | nil => contradiction
  | cons p ps ih =>
    obtain ⟨hp, hps⟩ := List.forall_mem_cons.1 h
    cases ps with
    | nil => exact splitOn_singleton_of_not_mem hp
    | cons q ps =>
      rw [intercalate, List.append_assoc, List.singleton_append, splitOn_singleton_append hp,
        ih (List.cons_ne_nil q ps) hps]

/-- Joined pieces are changed character by character like each piece and the separator. -/
theorem map_intercalate (f : Char → Char) (sep : List Char) (ps : List (List Char)) :
    (intercalate sep ps).map f = intercalate (sep.map f) (ps.map (List.map f)) := by
  induction ps with
  | nil => rfl
  | cons p ps ih =>
    cases ps with
    | nil => rfl
    | cons q ps =>
      rw [intercalate, List.map_append, List.map_append, ih]
      rfl

/-- What stands after the last of some characters has none of them. -/
theorem afterLast_append {c : Char} {ds : List Char} (h : c ∉ ds) (cs : List Char) :
    afterLast c (cs ++ c :: ds) = ds := by
  have hrev : c ∉ ds.reverse := by simpa using h
  have hbreak := breakOn?_singleton_append hrev cs.reverse
  simp [afterLast, breakOnLast?, hbreak]

/-- A string ends with the characters of what it ends with. -/
theorem endsWith_string_iff {pat s : String} : s.endsWith pat = true ↔ pat.toList <:+ s.toList := by
  rw [← String.endsWith_toSlice, String.Slice.Pattern.Model.endsWith_iff,
    String.Slice.Pattern.Model.ForwardStringSearcher.revMatchesAt_iff_splits]
  simp only [String.Slice.splits_endPos_iff, exists_and_left, exists_eq, and_true]
  constructor
  · rintro ⟨t, ht⟩
    refine ⟨t.toList, ?_⟩
    rw [← String.toList_append, ht, String.copy_toSlice]
  · rintro ⟨cs, hcs⟩
    refine ⟨String.ofList cs, ?_⟩
    rw [String.copy_toSlice, ← String.toList_inj, String.toList_append, String.toList_ofList, hcs]

end TypeWeave.Text
