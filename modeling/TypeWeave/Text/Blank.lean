/-!
# Blank characters

The characters that count as white space when text is stripped, split into words or tested for
being blank, and the stripping functions built on them.
-/

namespace TypeWeave.Text

/-- White space: the separators of Unicode, the control characters that end a line or a field,
and the four information separators. -/
def isBlank (c : Char) : Bool :=
  let n := c.toNat
  (0x9 ≤ n && n ≤ 0xD) || (0x1C ≤ n && n ≤ 0x20) || n == 0x85 || n == 0xA0 || n == 0x1680 ||
    (0x2000 ≤ n && n ≤ 0x200A) || n == 0x2028 || n == 0x2029 || n == 0x202F || n == 0x205F ||
    n == 0x3000

/-- Drop a class of characters from the end of a text. -/
def dropEndWhile (p : Char → Bool) : List Char → List Char
  | [] => []
  | c :: cs =>
    match dropEndWhile p cs with
    | [] => if p c then [] else [c]
    | r => c :: r

/-- Drop a class of characters from both ends of a text. -/
def stripWhile (p : Char → Bool) (cs : List Char) : List Char := dropEndWhile p (cs.dropWhile p)

/-- Drop the white space at both ends of a text. -/
def stripBlank (cs : List Char) : List Char := stripWhile isBlank cs

/-- A text of white space only, the empty text among them. -/
def isAllBlank (cs : List Char) : Bool := cs.all isBlank

/-- Drop the white space at both ends of a string. -/
def strip (s : String) : String := String.ofList (stripBlank s.toList)

/-- A string of white space only. -/
def blank (s : String) : Bool := isAllBlank s.toList

end TypeWeave.Text
