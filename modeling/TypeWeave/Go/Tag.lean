import TypeWeave.Text.Blank
import TypeWeave.Text.Search

/-!
# Struct tags

A tag is a raw or an interpreted string literal whose text holds pairs `key:"value"`. A pair is
found wherever a run of key characters is followed by a colon and a quoted value; text between
pairs is skipped.
-/

namespace TypeWeave.Go.Tag

/-- Undo the escapes of a quoted value: first those of quotes, then those of backslashes. -/
def unescape (cs : List Char) : List Char :=
  Text.replace ['\\', '\\'] ['\\'] (Text.replace ['\\', '"'] ['"'] cs)

/-- The text inside a pair of quotes of one kind. A single quote is both of them. -/
def between (cs : List Char) : List Char := cs.tail.dropLast

/-- Whether a text starts and ends with a quote. -/
def enclosedBy (quote : Char) (cs : List Char) : Bool :=
  cs.head? == some quote && cs.getLast? == some quote

/-- The text of a tag literal. A text that is no literal stands for itself. -/
def unquote (literal : String) : String :=
  let cs := literal.toList
  if enclosedBy '\x60' cs then String.ofList (between cs)
  else if enclosedBy '"' cs then String.ofList (unescape (between cs))
  else literal

/-- A character of a key. -/
def isKeyChar (c : Char) : Bool := !Text.isBlank c && c != ':' && c != '"'

/-- A quoted value behind its opening quote, escapes kept, and the text behind it. A backslash
takes any following character but a line end. -/
def value? : List Char → Option (List Char × List Char)
  | [] => none
  | '"' :: cs => some ([], cs)
  | '\\' :: c :: cs =>
    if c = '\n' then none else (value? cs).map fun (v, rest) => ('\\' :: c :: v, rest)
  | c :: cs => if c = '\\' then none else (value? cs).map fun (v, rest) => (c :: v, rest)

/-- The value behind a key. -/
def valueAfterKey? : List Char → Option (List Char × List Char)
  | ':' :: '"' :: cs => value? cs
  | _ => none

/-- The pairs of a tag in order, values with their escapes, with `fuel` bounding the characters. -/
def pairsFrom (fuel : Nat) (cs : List Char) : List (List Char × List Char) :=
  match fuel, cs with
  | 0, _ => []
  | _, [] => []
  | fuel + 1, c :: cs =>
    if isKeyChar c then
      let key := c :: cs.takeWhile isKeyChar
      let rest := cs.dropWhile isKeyChar
      match valueAfterKey? rest with
      | some (v, rest) => (key, v) :: pairsFrom fuel rest
      | none => pairsFrom fuel rest
    else pairsFrom fuel cs

/-- The pairs of a tag in order, values with their escapes. -/
def pairs (cs : List Char) : List (List Char × List Char) := pairsFrom cs.length cs

/-- The value of a key: that of its first pair. -/
def lookup (tag key : String) : Option String :=
  ((pairs tag.toList).lookup key.toList).map fun v => String.ofList (unescape v)

end TypeWeave.Go.Tag
