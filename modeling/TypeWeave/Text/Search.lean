/-!
# Searching text

Finding, replacing and splitting by a literal text, on lists of characters.
-/

namespace TypeWeave.Text

/-- The text after a literal it starts with. -/
def dropPrefix? : List Char → List Char → Option (List Char)
  | [], cs => some cs
  | _ :: _, [] => none
  | p :: ps, c :: cs => if p = c then dropPrefix? ps cs else none

/-- Whether a text starts with a literal. -/
def startsWith (pat cs : List Char) : Bool := (dropPrefix? pat cs).isSome

/-- Whether a text ends with a literal. -/
def endsWith (pat cs : List Char) : Bool := startsWith pat.reverse cs.reverse

/-- The remainder after a literal is a suffix, so it is no longer than the text. -/
theorem length_dropPrefix? {ps cs rest : List Char} (h : dropPrefix? ps cs = some rest) :
    rest.length + ps.length = cs.length := by
  induction ps generalizing cs with
  | nil => simp only [dropPrefix?, Option.some.injEq] at h; subst h; simp
  | cons p ps ih =>
    cases cs with
    | nil => simp [dropPrefix?] at h
    | cons c cs =>
      simp only [dropPrefix?] at h
      split at h
      · have := ih h; simp only [List.length_cons]; omega
      · simp at h

/-- The first place where a literal occurs: the text before it and the text after it. -/
def breakOn? (pat : List Char) : List Char → Option (List Char × List Char)
  | [] => (dropPrefix? pat []).map fun rest => ([], rest)
  | c :: cs =>
    match dropPrefix? pat (c :: cs) with
    | some rest => some ([], rest)
    | none => (breakOn? pat cs).map fun (before, rest) => (c :: before, rest)

/-- The last place where a literal occurs: the text before it and the text after it. -/
def breakOnLast? (pat cs : List Char) : Option (List Char × List Char) :=
  (breakOn? pat.reverse cs.reverse).map fun (after, before) => (before.reverse, after.reverse)

/-- The offset of the first occurrence of a literal. -/
def find? (pat cs : List Char) : Option Nat := (breakOn? pat cs).map (·.1.length)

/-- Whether a literal occurs in a text. -/
def contains (pat cs : List Char) : Bool := (breakOn? pat cs).isSome

/-- The pieces between the first `n` occurrences of a literal, with `fuel` bounding the pieces. -/
def splitLimit (fuel : Nat) (pat : List Char) (n : Nat) (cs : List Char) : List (List Char) :=
  match fuel, n with
  | 0, _ => [cs]
  | _, 0 => [cs]
  | fuel + 1, n + 1 =>
    match breakOn? pat cs with
    | none => [cs]
    | some (before, rest) => before :: splitLimit fuel pat n rest

/-- The pieces between the occurrences of a non-empty literal, found from the left. -/
def splitOn (pat cs : List Char) : List (List Char) :=
  splitLimit (cs.length + 1) pat (cs.length + 1) cs

/-- Join pieces with a literal between them. -/
def intercalate (sep : List Char) : List (List Char) → List Char
  | [] => []
  | [p] => p
  | p :: q :: ps => p ++ sep ++ intercalate sep (q :: ps)

/-- Replace the occurrences of a literal, found from the left without overlap. An empty literal
stands before every character and at the end. -/
def replace (pat by' cs : List Char) : List Char :=
  match pat with
  | [] => by' ++ cs.flatMap fun c => c :: by'
  | _ :: _ => intercalate by' (splitOn pat cs)

/-- The number of occurrences of a literal, found from the left without overlap. -/
def count (pat cs : List Char) : Nat :=
  match pat with
  | [] => cs.length + 1
  | _ :: _ => (splitOn pat cs).length - 1

/-- Cut a text after the last occurrence of a character, or keep it whole. -/
def afterLast (sep : Char) (cs : List Char) : List Char :=
  match breakOnLast? [sep] cs with
  | some (_, after) => after
  | none => cs

/-- The maximal runs of characters outside a class, in order. -/
def words (p : Char → Bool) (cs : List Char) : List (List Char) :=
  let step := fun (c : Char) (acc : List Char × List (List Char)) =>
    if p c then ([], if acc.1.isEmpty then acc.2 else acc.1 :: acc.2) else (c :: acc.1, acc.2)
  let (w, ws) := cs.foldr step ([], [])
  if w.isEmpty then ws else w :: ws

end TypeWeave.Text
