/-!
# Places in a text

A cursor is what is left of a text with the place where that starts. Behind the end a cursor shows
NUL characters, which no text holds.
-/

namespace TypeWeave.Yaml

/-- A place: its offset, its line and its column, all counted from zero. -/
structure Place where
  index : Nat := 0
  line : Nat := 0
  column : Nat := 0
  deriving DecidableEq, Repr

/-- Whether a character ends a line. -/
def isBreak (c : Char) : Bool :=
  c == '\n' || c == '\r' || c == '\x85' || c == '\u2028' || c == '\u2029'

/-- Whether a character is a line end or the end of the text. -/
def endsLine (c : Char) : Bool := c == '\x00' || isBreak c

/-- Whether a character is a blank, a line end or the end of the text. -/
def endsWord (c : Char) : Bool := c == ' ' || endsLine c

/-- Whether a character is a blank, a tab, a line end or the end of the text. -/
def endsToken (c : Char) : Bool := c == '\t' || endsWord c

/-- Whether a character is a letter of a name. -/
def isNameChar (c : Char) : Bool := c.isAlphanum || c == '-' || c == '_'

/-- What is left of a text, and where that starts. -/
structure Cursor where
  rest : List Char
  place : Place := {}
  deriving Repr

namespace Cursor

/-- The character some way ahead. -/
def ahead (c : Cursor) (n : Nat) : Char := c.rest.getD n '\x00'

/-- The next character. -/
def peek (c : Cursor) : Char := c.ahead 0

/-- The place behind a character; a carriage return in front of a newline does not end a line. -/
def after (p : Place) (c next : Char) : Place :=
  if c == '\n' || c == '\x85' || c == '\u2028' || c == '\u2029' || (c == '\r' && next != '\n') then
    ⟨p.index + 1, p.line + 1, 0⟩
  else if c == '\uFEFF' then ⟨p.index + 1, p.line, p.column⟩
  else ⟨p.index + 1, p.line, p.column + 1⟩

/-- Move over one character. -/
def next (c : Cursor) : Cursor :=
  match c.rest with
  | [] => { c with place := ⟨c.place.index + 1, c.place.line, c.place.column + 1⟩ }
  | a :: rest => ⟨rest, after c.place a (rest.headD '\x00')⟩

/-- Move over some characters. -/
def advance : Nat → Cursor → Cursor
  | 0, c => c
  | n + 1, c => advance n c.next

/-- The characters ahead that have a property. -/
def run (p : Char → Bool) (c : Cursor) : List Char := c.rest.takeWhile p

/-- Move over the characters ahead that have a property. -/
def skip (p : Char → Bool) (c : Cursor) : Cursor := advance (c.run p).length c

/-- Move over blanks. -/
def skipBlanks (c : Cursor) : Cursor := c.skip (· == ' ')

/-- Move over a comment, up to the end of its line. -/
def skipComment (c : Cursor) : Cursor :=
  if c.peek == '#' then c.skip fun a => !endsLine a else c

/-- Move over a line end; all that are not separators read as a newline. -/
def lineBreak (c : Cursor) : List Char × Cursor :=
  let a := c.peek
  if a == '\r' && c.ahead 1 == '\n' then (['\n'], advance 2 c)
  else if a == '\n' || a == '\r' || a == '\x85' then (['\n'], c.next)
  else if isBreak a then ([a], c.next)
  else ([], c)

/-- Whether a document starts or ends here. -/
def atSeparator (c : Cursor) : Bool :=
  let three := c.rest.take 3
  (three == ['-', '-', '-'] || three == ['.', '.', '.']) && endsToken (c.ahead 3)

end Cursor

end TypeWeave.Yaml
