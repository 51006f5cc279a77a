import TypeWeave.Command.Pattern
import TypeWeave.Text.Search

/-!
# The stream editor

A stream editor runs a list of edits on every line of a text. An edit may be restricted to lines by
number, to the last line or to lines with a pattern.
-/

namespace TypeWeave.Command

/-- A text cut after its newlines. -/
def rows : List Char → List (List Char)
  | [] => []
  | '\n' :: cs => ['\n'] :: rows cs
  | c :: cs =>
    match rows cs with
    | [] => [[c]]
    | r :: rs => (c :: r) :: rs

/-- A row without its newline. -/
def bare (row : List Char) : List Char :=
  if row.getLast? == some '\n' then row.dropLast else row

/-- The newline of a row, if it has one. -/
def ending (row : List Char) : List Char := if row.getLast? == some '\n' then ['\n'] else []

namespace Editor

/-- Which lines an edit is for. -/
inductive Address where
  | every
  | number (n : Nat)
  | last
  | matching (p : Pattern)
  | between (first last : Nat)
  deriving DecidableEq, Repr

/-- What is done to a line. -/
inductive Edit where
  | substitute (p : Pattern) (by' : List Char) (all : Bool)
  | transliterate (pairs : List (Char × Char))
  | delete
  | print
  | quit
  deriving DecidableEq, Repr

/-- Text up to a delimiter that is not escaped, and what is behind it. -/
def upTo (delimiter : Char) : List Char → Option (List Char × List Char)
  | [] => none
  | '\\' :: c :: cs => do
    let (inside, rest) ← upTo delimiter cs
    return (if c == delimiter then c :: inside else '\\' :: c :: inside, rest)
  | c :: cs =>
    if c == delimiter then some ([], cs)
    else do
      let (inside, rest) ← upTo delimiter cs
      return (c :: inside, rest)

/-- The number at the front of a text. -/
def number (cs : List Char) : Nat × List Char :=
  let ds := cs.takeWhile Char.isDigit
  (ds.foldl (fun n d => 10 * n + (d.toNat - '0'.toNat)) 0, cs.drop ds.length)

/-- Read the address of an edit. -/
def readAddress : List Char → Address × List Char
  | '$' :: cs => (.last, cs)
  | '/' :: cs =>
    match upTo '/' cs with
    | some (inside, rest) => (.matching (.ofChars inside), rest)
    | none => (.every, '/' :: cs)
  | cs =>
    match number cs with
    | (_, rest) =>
      if rest.length = cs.length then (.every, cs)
      else
        match rest with
        | ',' :: '$' :: after => (.between (number cs).1 1000000, after)
        | ',' :: more =>
          let (last, after) := number more
          (.between (number cs).1 last, after)
        | rest => (.number (number cs).1, rest)

/-- Read what an edit does. -/
def readEdit : List Char → Option (Edit × List Char)
  | 's' :: d :: cs => do
    let (pattern, cs) ← upTo d cs
    let (by', cs) ← upTo d cs
    match cs with
    | 'g' :: cs => return (.substitute (.ofChars pattern) by' true, cs)
    | cs => return (.substitute (.ofChars pattern) by' false, cs)
  | 'y' :: d :: cs => do
    let (from', cs) ← upTo d cs
    let (to', cs) ← upTo d cs
    return (.transliterate (from'.zip to'), cs)
  | 'd' :: cs => some (.delete, cs)
  | 'p' :: cs => some (.print, cs)
  | 'q' :: cs => some (.quit, cs)
  | _ => none

/-- Whether a character separates edits. -/
def separates (c : Char) : Bool := c == ';' || c == '\n' || c == ' '

/-- Read a list of edits. -/
def readEdits (fuel : Nat) (cs : List Char) : Option (List (Address × Edit)) :=
  match fuel, cs.dropWhile separates with
  | 0, _ => none
  | _, [] => some []
  | fuel + 1, cs => do
    let (address, cs) := readAddress cs
    let (edit, cs) ← readEdit cs
    return (address, edit) :: (← readEdits fuel cs)

/-- Whether an address names a line. -/
def Address.names (i : Nat) (isLast : Bool) (line : List Char) : Address → Bool
  | .every => true
  | .number n => i == n
  | .last => isLast
  | .matching p => p.occurs line
  | .between a b => i == a || (a ≤ i && i ≤ b)

/-- What became of a line: its text, what was printed on the way, whether it is dropped and whether
the editor stops. -/
structure Edited where
  line : List Char
  printed : List Char := []
  dropped : Bool := false
  stops : Bool := false

/-- Run the edits on a line. -/
def editLine (i : Nat) (isLast : Bool) (newline : List Char) (e : Edited) :
    List (Address × Edit) → Edited
  | [] => e
  | (address, edit) :: edits =>
    if address.names i isLast e.line then
      match edit with
      | .substitute p by' all =>
        let line := p.replace all by' (e.line.length + 1) e.line
        editLine i isLast newline { e with line := line } edits
      | .transliterate pairs =>
        let line := e.line.map fun c => (pairs.lookup c).getD c
        editLine i isLast newline { e with line := line } edits
      | .delete => { e with dropped := true }
      | .print =>
        editLine i isLast newline { e with printed := e.printed ++ e.line ++ newline } edits
      | .quit => { e with stops := true }
    else editLine i isLast newline e edits

/-- Run the edits on rows that start with a number; quiet editors write only what is printed. -/
def run (quiet : Bool) (edits : List (Address × Edit)) (i : Nat) : List (List Char) → List Char
  | [] => []
  | row :: more =>
    let e := editLine i more.isEmpty (ending row) { line := bare row } edits
    let shown := if quiet || e.dropped then [] else e.line ++ ending row
    e.printed ++ shown ++ if e.stops then [] else run quiet edits (i + 1) more

end Editor

end TypeWeave.Command
