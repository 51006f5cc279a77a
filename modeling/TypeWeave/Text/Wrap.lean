import TypeWeave.Text.Blank
import TypeWeave.Text.Category
import TypeWeave.Text.Search

/-!
# Wrapping text

A line is cut into chunks, words and the gaps between them, and chunks are put on a line as long as
they fit. Words may be cut behind hyphens; a word that is longer than a line is cut anywhere.
-/

namespace TypeWeave.Text.Wrap

/-- White space between words. -/
def isGap (c : Char) : Bool := (0x9 ≤ c.toNat && c.toNat ≤ 0xD) || c == ' '

/-- A letter as far as hyphens are concerned. -/
def isWordLetter (c : Char) : Bool := isWordChar c && !isDecimal c

/-- Whether a hyphen with the reversed text before it and the text behind it ends a part of a
word. -/
def endsPart (before after : List Char) : Bool :=
  let left := match before with
    | a :: b :: rest =>
      (isWordLetter a && isWordLetter b) ||
        (isWordLetter a && b == '-' && (rest.head?.map isWordLetter).getD false)
    | _ => false
  let right := match after with
    | a :: '-' :: b :: _ => isWordLetter a && isWordLetter b
    | a :: b :: _ => isWordLetter a && isWordLetter b
    | _ => false
  left && right

/-- Cut a word behind its hyphens. -/
def cutHyphens (before : List Char) : List Char → List (List Char)
  | [] => if before.isEmpty then [] else [before.reverse]
  | '-' :: cs =>
    if endsPart before cs then ('-' :: before).reverse :: cutHyphens [] cs
    else cutHyphens ('-' :: before) cs
  | c :: cs => cutHyphens (c :: before) cs

/-- The words and gaps of a line. -/
def chunks (hyphens : Bool) (fuel : Nat) (cs : List Char) : List (List Char) :=
  match fuel, cs with
  | 0, _ => []
  | _, [] => []
  | fuel + 1, c :: rest =>
    if isGap c then
      (c :: rest.takeWhile isGap) :: chunks hyphens fuel (rest.dropWhile isGap)
    else
      let word := c :: rest.takeWhile (!isGap ·)
      (if hyphens then cutHyphens [] word else [word]) ++
        chunks hyphens fuel (rest.dropWhile (!isGap ·))

/-- The chunks that fit on a line, and the others. -/
def fit (room : Nat) : List (List Char) → List (List Char) × List (List Char)
  | [] => ([], [])
  | c :: cs =>
    if c.length ≤ room then
      let (line, rest) := fit (room - c.length) cs
      (c :: line, rest)
    else ([], c :: cs)

/-- Where a chunk that is too long for a line is cut. -/
def cutPoint (hyphens : Bool) (room : Nat) (c : List Char) : Nat :=
  if hyphens && room < c.length then
    match breakOnLast? ['-'] (c.take room) with
    | some (before, _) =>
      if !before.isEmpty && before.any (· != '-') then before.length + 1 else room
    | none => room
  else room

/-- Put chunks on lines, with `fuel` bounding the lines. -/
def fill (width : Nat) (long hyphens : Bool) (fuel : Nat) (first : Bool)
    (cs : List (List Char)) : List (List Char) :=
  match fuel with
  | 0 => []
  | fuel + 1 =>
    let cs := match cs with
      | c :: rest => if !first && isAllBlank c then rest else cs
      | [] => []
    if cs.isEmpty then []
    else
      let (line, rest) := fit width cs
      let used := (line.map List.length).sum
      let (line, rest) := match rest with
        | c :: more =>
          if width < c.length then
            let room := if width < 1 then 1 else width - used
            if long then
              let n := cutPoint hyphens room c
              (line ++ [c.take n], c.drop n :: more)
            else if line.isEmpty then ([c], more)
            else (line, rest)
          else (line, rest)
        | [] => (line, rest)
      let line := match line.getLast? with
        | some c => if isAllBlank c then line.dropLast else line
        | none => line
      let more := fill width long hyphens fuel (first && line.isEmpty) rest
      if line.isEmpty then more else line.flatten :: more

/-- Wrap one line of text. -/
def wrap (width : Nat) (long hyphens : Bool) (cs : List Char) : List (List Char) :=
  fill width long hyphens (2 * cs.length + 2) true (chunks hyphens cs.length cs)

end TypeWeave.Text.Wrap
