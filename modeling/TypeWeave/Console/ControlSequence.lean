/-!
# Control sequences

Sequences of characters that steer a terminal. Text that does not go to a terminal is written
without them.
-/

namespace TypeWeave.Console.ControlSequence

/-- The characters between the lead of a control sequence and the letter that ends it. -/
def isParameter (c : Char) : Bool := c.isDigit || c == ';' || c == '?'

/-- The text behind a control sequence whose escape character has been read. -/
def behind? : List Char → Option (List Char)
  | '[' :: cs =>
    match cs.dropWhile isParameter with
    | c :: rest => if c.isAlpha then some rest else none
    | [] => none
  | _ => none

/-- The text behind a control sequence is shorter than the text that begins with it. -/
theorem length_behind? {cs rest : List Char} (h : behind? cs = some rest) :
    rest.length < cs.length := by
  unfold behind? at h
  split at h
  · next tail =>
    have hd : (tail.dropWhile isParameter).length ≤ tail.length :=
      (List.dropWhile_suffix isParameter).length_le
    split at h
    · next c r hr =>
      split at h
      · rw [hr] at hd
        simp only [Option.some.injEq] at h
        simp only [List.length_cons, h] at hd ⊢
        omega
      · simp at h
    · simp at h
  · simp at h

/-- Text without its control sequences. -/
def strip (cs : List Char) : List Char :=
  match cs with
  | [] => []
  | c :: cs =>
    if c = '\x1b' then
      match h : behind? cs with
      | some rest =>
        have := length_behind? h
        strip rest
      | none => c :: strip cs
    else c :: strip cs
termination_by cs.length

/-- Text without escape characters has no control sequences. -/
theorem strip_eq_self {cs : List Char} (h : '\x1b' ∉ cs) : strip cs = cs := by
  induction cs with
  | nil => simp [strip]
  | cons c cs ih =>
    simp only [List.mem_cons, not_or] at h
    rw [strip, if_neg (Ne.symm h.1), ih h.2]

end TypeWeave.Console.ControlSequence
