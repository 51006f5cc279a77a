import TypeWeave.Proofs.Text.Search

/-!
# Replacing a literal from the left

A text is worked through from its first character: where the literal stands at the front it is
replaced, and else the character stays. Main statements: `replace_of_dropPrefix?`, `replace_cons`
and `replace_of_absent`.
-/

namespace TypeWeave.Text

variable {p : Char} {ps cs : List Char}

/-- What stands behind an occurrence of a literal is shorter than the text. -/
theorem length_lt_of_breakOn? {before rest : List Char}
    (h : breakOn? (p :: ps) cs = some (before, rest)) : rest.length < cs.length := by
  induction cs generalizing before with
  | nil => simp [breakOn?, dropPrefix?] at h
  | cons c cs ih =>
    rw [breakOn?] at h
    split at h
    · rename_i r hr
      have hlength := length_dropPrefix? hr
      simp only [Option.some.injEq, Prod.mk.injEq] at h
      rw [← h.2]
      simp only [List.length_cons] at hlength ⊢
      omega
    · obtain ⟨⟨b, r⟩, hb, heq⟩ := Option.map_eq_some_iff.1 h
      simp only [Prod.mk.injEq] at heq
      have := ih (heq.2 ▸ hb)
      simp only [List.length_cons]
      omega

/-- Bounds beyond the length of a text do not matter for its pieces. -/
theorem splitLimit_congr {fuel fuel' n n' : Nat} (hfuel : cs.length < fuel)
    (hfuel' : cs.length < fuel') (hn : cs.length < n) (hn' : cs.length < n') :
    splitLimit fuel (p :: ps) n cs = splitLimit fuel' (p :: ps) n' cs := by
  induction fuel generalizing fuel' n n' cs with
  | zero => omega
  | succ fuel ih =>
    obtain ⟨fuel', rfl⟩ := Nat.exists_eq_add_one_of_ne_zero (by omega : fuel' ≠ 0)
    obtain ⟨n, rfl⟩ := Nat.exists_eq_add_one_of_ne_zero (by omega : n ≠ 0)
    obtain ⟨n', rfl⟩ := Nat.exists_eq_add_one_of_ne_zero (by omega : n' ≠ 0)
    rw [splitLimit, splitLimit]
    cases hb : breakOn? (p :: ps) cs with
    | none => rfl
    | some x =>
      have hlt := length_lt_of_breakOn? hb
      exact congrArg (x.1 :: ·) (ih (by omega) (by omega) (by omega) (by omega))

/-- A text without a literal is a single piece. -/
theorem splitOn_of_breakOn?_eq_none (h : breakOn? (p :: ps) cs = none) :
    splitOn (p :: ps) cs = [cs] := by
  simp only [splitOn, splitLimit, h]

/-- The first piece of a text is what stands before the first occurrence of a literal. -/
theorem splitOn_of_breakOn?_eq_some {before rest : List Char}
    (h : breakOn? (p :: ps) cs = some (before, rest)) :
    splitOn (p :: ps) cs = before :: splitOn (p :: ps) rest := by
  have hlt := length_lt_of_breakOn? h
  rw [splitOn, splitLimit, h]
  exact congrArg (before :: ·) (splitLimit_congr hlt (by omega) hlt (by omega))

/-- A text has at least one piece. -/
theorem exists_splitOn_eq_cons (p : Char) (ps cs : List Char) :
    ∃ piece pieces, splitOn (p :: ps) cs = piece :: pieces := by
  cases h : breakOn? (p :: ps) cs with
  | none => exact ⟨_, _, splitOn_of_breakOn?_eq_none h⟩
  | some x => exact ⟨_, _, splitOn_of_breakOn?_eq_some h⟩

/-- A literal at the front is replaced. -/
theorem replace_of_dropPrefix? {rest : List Char} (by' : List Char)
    (h : dropPrefix? (p :: ps) cs = some rest) :
    replace (p :: ps) by' cs = by' ++ replace (p :: ps) by' rest := by
  have hbreak : breakOn? (p :: ps) cs = some ([], rest) := by
    cases cs with
    | nil => cases h
    | cons c cs => rw [breakOn?, h]
  obtain ⟨piece, pieces, hsplit⟩ := exists_splitOn_eq_cons p ps rest
  rw [replace, replace, splitOn_of_breakOn?_eq_some hbreak, hsplit, intercalate, List.nil_append]

/-- A character where no literal stands is kept. -/
theorem replace_cons {c : Char} (by' : List Char) (h : dropPrefix? (p :: ps) (c :: cs) = none) :
    replace (p :: ps) by' (c :: cs) = c :: replace (p :: ps) by' cs := by
  have hbreak : breakOn? (p :: ps) (c :: cs) =
      (breakOn? (p :: ps) cs).map fun x => (c :: x.1, x.2) := by rw [breakOn?, h]
  cases hcs : breakOn? (p :: ps) cs with
  | none =>
    rw [hcs, Option.map_none] at hbreak
    rw [replace, replace, splitOn_of_breakOn?_eq_none hbreak, splitOn_of_breakOn?_eq_none hcs]
    rfl
  | some x =>
    rw [hcs, Option.map_some] at hbreak
    obtain ⟨piece, pieces, hsplit⟩ := exists_splitOn_eq_cons p ps x.2
    rw [replace, replace, splitOn_of_breakOn?_eq_some hbreak, splitOn_of_breakOn?_eq_some hcs,
      hsplit, intercalate, intercalate, List.cons_append, List.cons_append]

/-- A text that a literal does not occur in stays as it is. -/
theorem replace_of_absent (by' : List Char) (h : ¬(p :: ps) <:+: cs) :
    replace (p :: ps) by' cs = cs := by
  induction cs with
  | nil => rfl
  | cons c cs ih =>
    have hnone : dropPrefix? (p :: ps) (c :: cs) = none := by
      rw [Option.eq_none_iff_forall_ne_some]
      intro rest hrest
      exact h ⟨[], rest, (eq_append_of_dropPrefix? hrest).symm⟩
    rw [replace_cons by' hnone, ih fun hpart => h (hpart.trans (List.suffix_cons c cs).isInfix)]

end TypeWeave.Text
