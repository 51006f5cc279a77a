/-!
# Basic patterns

The patterns of line editors: single characters, classes in brackets, stars, and anchors at both
ends. The leftmost match wins, and each star takes as much as the rest of the pattern allows.
-/

namespace TypeWeave.Command

/-- What one character of a text has to be. -/
inductive Atom where
  | char (c : Char)
  | any
  | oneOf (negated : Bool) (ranges : List (Char × Char))
  deriving DecidableEq, Repr

/-- Whether a character is of a kind. -/
def Atom.accepts (c : Char) : Atom → Bool
  | .char a => a == c
  | .any => c != '\n'
  | .oneOf negated ranges => ranges.any (fun (lo, hi) => lo ≤ c && c ≤ hi) != negated

/-- A pattern: atoms, each once or any number of times, and the ends that are anchored. -/
structure Pattern where
  atoms : List (Atom × Bool)
  atStart : Bool := false
  atEnd : Bool := false
  deriving DecidableEq, Repr

namespace Pattern

/-- The ranges inside brackets. -/
def ranges : List Char → List (Char × Char)
  | lo :: '-' :: hi :: rest => (lo, hi) :: ranges rest
  | c :: rest => (c, c) :: ranges rest
  | [] => []

/-- Read the atoms of a pattern. -/
def readAtoms (fuel : Nat) (cs : List Char) : List (Atom × Bool) :=
  match fuel with
  | 0 => []
  | fuel + 1 =>
    let starred (a : Atom) (rest : List Char) : List (Atom × Bool) :=
      match rest with
      | '*' :: rest => (a, true) :: readAtoms fuel rest
      | rest => (a, false) :: readAtoms fuel rest
    match cs with
    | [] => []
    | '.' :: rest => starred .any rest
    | '\\' :: 'n' :: rest => starred (.char '\n') rest
    | '\\' :: 't' :: rest => starred (.char '\t') rest
    | '\\' :: 'r' :: rest => starred (.char '\r') rest
    | '\\' :: c :: rest => starred (.char c) rest
    | '[' :: rest =>
      let (negated, rest) := match rest with
        | '^' :: rest => (true, rest)
        | rest => (false, rest)
      let (first, rest) := match rest with
        | ']' :: rest => ([']'], rest)
        | rest => ([], rest)
      let inside := rest.takeWhile (· != ']')
      starred (.oneOf negated (ranges (first ++ inside))) (rest.drop (inside.length + 1))
    | c :: rest => starred (.char c) rest

/-- Read a pattern. -/
def ofChars (cs : List Char) : Pattern :=
  let (atStart, cs) := match cs with
    | '^' :: rest => (true, rest)
    | cs => (false, cs)
  let (atEnd, cs) :=
    if cs.getLast? == some '$' && cs.dropLast.getLast? != some '\\' then (true, cs.dropLast)
    else (false, cs)
  ⟨readAtoms (cs.length + 1) cs, atStart, atEnd⟩

/-- What is left behind a match at the front of a text. -/
def restAfter (atEnd : Bool) : List (Atom × Bool) → List Char → Option (List Char)
  | [], cs => if atEnd && !cs.isEmpty then none else some cs
  | (a, true) :: atoms, cs =>
    let most := (cs.takeWhile (Atom.accepts · a)).length
    (List.range (most + 1)).reverse.findSome? fun k => restAfter atEnd atoms (cs.drop k)
  | (a, false) :: atoms, c :: cs => if a.accepts c then restAfter atEnd atoms cs else none
  | (_, false) :: _, [] => none

/-- The first match in a text: what is before it, the match and what is behind it. -/
def find? (p : Pattern) (before : List Char) (cs : List Char) :
    Option (List Char × List Char × List Char) :=
  match restAfter p.atEnd p.atoms cs with
  | some rest => some (before, cs.take (cs.length - rest.length), rest)
  | none =>
    if p.atStart then none
    else
      match cs with
      | [] => none
      | c :: cs => p.find? (before ++ [c]) cs

/-- Whether a pattern occurs in a text. -/
def occurs (p : Pattern) (cs : List Char) : Bool := (p.find? [] cs).isSome

/-- A replacement with the match in place of each bare ampersand. -/
def fillIn (found : List Char) : List Char → List Char
  | '\\' :: 'n' :: rest => '\n' :: fillIn found rest
  | '\\' :: 't' :: rest => '\t' :: fillIn found rest
  | '\\' :: c :: rest => c :: fillIn found rest
  | '&' :: rest => found ++ fillIn found rest
  | c :: rest => c :: fillIn found rest
  | [] => []

/-- Replace the first match, or all of them. -/
def replace (p : Pattern) (all : Bool) (by' : List Char) (fuel : Nat) (cs : List Char) :
    List Char :=
  match fuel, p.find? [] cs with
  | 0, _ | _, none => cs
  | fuel + 1, some (before, found, rest) =>
    let changed := before ++ fillIn found by'
    if !all || p.atStart then changed ++ rest
    else
      match found, rest with
      | [], c :: rest => changed ++ c :: p.replace all by' fuel rest
      | _, [] => changed
      | _, rest => changed ++ p.replace all by' fuel rest

end Pattern

end TypeWeave.Command
