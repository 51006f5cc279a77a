import TypeWeave.Console.ControlSequence
import Mathlib.Data.List.TakeWhile

/-!
# Control sequences in a text

A control sequence is an escape character and a bracket with parameters and a letter behind them. It
is left out of what is written. A text is written as it is exactly when it holds none, and what is
written of any other text is shorter. Main statements: `strip_append`, `strip_sequence`,
`strip_eq_self_iff` and `flatMap_strip_eq_iff`.
-/

namespace TypeWeave.Console.ControlSequence

variable {c : Char} {cs rest : List Char}

/-- What stands in a control sequence behind its escape character. -/
def IsTail (tail : List Char) : Prop :=
  ∃ parameters letter, tail = '[' :: (parameters ++ [letter]) ∧
    (∀ c ∈ parameters, isParameter c = true) ∧ letter.isAlpha = true

/-- A text that holds a control sequence. -/
def HasSequence (cs : List Char) : Prop :=
  ∃ before tail after, cs = before ++ '\x1b' :: (tail ++ after) ∧ IsTail tail

/-- Parameters come before the letters. -/
theorem toNat_lt_of_isParameter (h : isParameter c = true) : c.toNat < 64 := by
  simp only [isParameter, Char.isDigit, Bool.or_eq_true, Bool.and_eq_true, decide_eq_true_eq,
    beq_iff_eq] at h
  rcases h with (⟨-, hdigit⟩ | rfl) | rfl
  · exact Nat.lt_of_le_of_lt (m := 57) hdigit (by decide)
  · decide
  · decide

theorem le_toNat_of_isAlpha (h : c.isAlpha = true) : 65 ≤ c.toNat := by
  have hbelow : ∀ n < 65, (Char.ofNat n).isAlpha = false := by decide
  by_contra hlt
  have hself := hbelow c.toNat (Nat.not_le.1 hlt)
  rw [Char.ofNat_toNat, h] at hself
  cases hself

/-- The text behind a control sequence is what stands behind its tail. -/
theorem behind?_eq_some_iff :
    behind? cs = some rest ↔ ∃ tail, cs = tail ++ rest ∧ IsTail tail := by
  constructor
  · intro h
    unfold behind? at h
    split at h
    · rename_i ds
      split at h
      · rename_i letter after hdrop
        split at h
        · rename_i hletter
          obtain rfl := Option.some.inj h
          refine ⟨'[' :: (ds.takeWhile isParameter ++ [letter]), ?_,
            _, letter, rfl, fun c hc => List.mem_takeWhile_imp hc, hletter⟩
          have hds := List.takeWhile_append_dropWhile (p := isParameter) (l := ds)
          rw [hdrop] at hds
          simp [hds]
        · cases h
      · cases h
    · cases h
  · rintro ⟨tail, rfl, ⟨parameters, letter, rfl, hparameters, hletter⟩⟩
    have hnot : ¬isParameter letter = true := fun h => by
      have := toNat_lt_of_isParameter h
      have := le_toNat_of_isAlpha hletter
      omega
    have hdrop : (parameters ++ letter :: rest).dropWhile isParameter = letter :: rest := by
      rw [List.dropWhile_append_of_pos hparameters, List.dropWhile_cons_of_neg hnot]
    simp [behind?, hdrop, hletter]

/-- A control sequence starts at the first character of a text, or stands behind it. -/
theorem hasSequence_cons_iff : HasSequence (c :: cs) ↔
    c = '\x1b' ∧ (behind? cs).isSome = true ∨ HasSequence cs := by
  constructor
  · rintro ⟨before, tail, after, heq, htail⟩
    cases before with
    | nil =>
      obtain ⟨rfl, rfl⟩ := List.cons.inj heq
      refine Or.inl ⟨rfl, Option.isSome_iff_exists.2 ⟨after, ?_⟩⟩
      exact behind?_eq_some_iff.2 ⟨tail, rfl, htail⟩
    | cons d before =>
      obtain ⟨rfl, rfl⟩ := List.cons.inj heq
      exact Or.inr ⟨before, tail, after, rfl, htail⟩
  · rintro (⟨rfl, h⟩ | ⟨before, tail, after, rfl, htail⟩)
    · obtain ⟨after, hafter⟩ := Option.isSome_iff_exists.1 h
      obtain ⟨tail, rfl, htail⟩ := behind?_eq_some_iff.1 hafter
      exact ⟨[], tail, after, rfl, htail⟩
    · exact ⟨c :: before, tail, after, rfl, htail⟩

/-- A text without control sequences is written as it is, and less is written of any other. -/
theorem strip_spec (cs : List Char) :
    ¬HasSequence cs ∧ strip cs = cs ∨ HasSequence cs ∧ (strip cs).length < cs.length := by
  fun_induction strip cs with
  | case1 =>
    refine Or.inl ⟨?_, rfl⟩
    rintro ⟨before, tail, after, heq, -⟩
    cases before <;> cases heq
  | case2 cs rest h hlength ih =>
    refine Or.inr ⟨hasSequence_cons_iff.2 (Or.inl ⟨rfl, by rw [h]; rfl⟩), ?_⟩
    have hle : (strip rest).length ≤ rest.length := by
      rcases ih with ⟨-, heq⟩ | ⟨-, hlt⟩
      · rw [heq]
      · exact hlt.le
    rw [List.length_cons]
    omega
  | case3 cs h ih =>
    simpa [hasSequence_cons_iff, h] using ih
  | case4 c cs hc ih =>
    simpa [hasSequence_cons_iff, hc] using ih

/-- What stands before the first escape character is kept. -/
theorem strip_append {before : List Char} (h : '\x1b' ∉ before) (cs : List Char) :
    strip (before ++ cs) = before ++ strip cs := by
  induction before with
  | nil => rfl
  | cons c before ih =>
    rw [List.mem_cons, not_or] at h
    rw [List.cons_append, strip, if_neg (Ne.symm h.1), ih h.2, List.cons_append]

/-- A control sequence is left out. -/
theorem strip_sequence {tail : List Char} (h : IsTail tail) (after : List Char) :
    strip ('\x1b' :: (tail ++ after)) = strip after := by
  have hbehind : behind? (tail ++ after) = some after := behind?_eq_some_iff.2 ⟨tail, rfl, h⟩
  rw [strip, if_pos rfl]
  split
  · rename_i rest hrest
    exact congrArg strip (Option.some.inj (hrest.symm.trans hbehind))
  · rename_i hnone
    cases hnone.symm.trans hbehind

theorem strip_eq_self_iff : strip cs = cs ↔ ¬HasSequence cs := by
  rcases strip_spec cs with ⟨hnone, heq⟩ | ⟨hsome, hlt⟩
  · exact iff_of_true heq hnone
  · exact iff_of_false (fun h => absurd hlt (by rw [h]; exact lt_irrefl _)) (not_not.2 hsome)

theorem length_strip_le (cs : List Char) : (strip cs).length ≤ cs.length := by
  rcases strip_spec cs with ⟨-, heq⟩ | ⟨-, hlt⟩
  · rw [heq]
  · exact hlt.le

theorem length_flatMap_strip_le (texts : List (List Char)) :
    (texts.flatMap strip).length ≤ texts.flatten.length := by
  induction texts with
  | nil => exact le_rfl
  | cons cs texts ih =>
    have hle := length_strip_le cs
    simp only [List.flatMap_cons, List.flatten_cons, List.length_append]
    omega

/-- Texts that are written one behind the other are written as they are exactly when each of them is:
what is left out of one of them is not made up for by another one. -/
theorem flatMap_strip_eq_iff (texts : List (List Char)) :
    texts.flatMap strip = texts.flatten ↔ ∀ cs ∈ texts, ¬HasSequence cs := by
  induction texts with
  | nil => simp
  | cons cs texts ih =>
    rw [List.flatMap_cons, List.flatten_cons, List.forall_mem_cons, ← ih, ← strip_eq_self_iff]
    constructor
    · intro h
      have hlength := congrArg List.length h
      have hle := length_strip_le cs
      have hrest := length_flatMap_strip_le texts
      rw [List.length_append, List.length_append] at hlength
      exact List.append_inj h (by omega)
    · rintro ⟨hcs, htexts⟩
      rw [hcs, htexts]

end TypeWeave.Console.ControlSequence
