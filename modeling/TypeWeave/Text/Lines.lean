/-!
# Lines

Line boundaries by the wide rule, in which ten characters and the pair CR LF end a line, and the
reading of text files, in which CR LF and a lone CR become LF.
-/

namespace TypeWeave.Text

/-- Characters that end a line by the wide rule. -/
def isLineEnd (c : Char) : Bool :=
  let n := c.toNat
  (0xA ≤ n && n ≤ 0xD) || (0x1C ≤ n && n ≤ 0x1E) || n == 0x85 || n == 0x2028 || n == 0x2029

/-- The lines of a text, each with the characters that end it. -/
def linesWithEnds : List Char → List (List Char × List Char)
  | [] => []
  | '\r' :: '\n' :: cs => ([], ['\r', '\n']) :: linesWithEnds cs
  | c :: cs =>
    if isLineEnd c then ([], [c]) :: linesWithEnds cs
    else
      match linesWithEnds cs with
      | [] => [([c], [])]
      | (l, e) :: ls => (c :: l, e) :: ls

/-- The lines of a text by the wide rule; a final line end opens no further line. -/
def wideLines (cs : List Char) : List (List Char) := (linesWithEnds cs).map (·.1)

/-- Read a text file: CR LF and a lone CR each become LF. -/
def normalizeNewlines : List Char → List Char
  | [] => []
  | '\r' :: '\n' :: cs => '\n' :: normalizeNewlines cs
  | '\r' :: cs => '\n' :: normalizeNewlines cs
  | c :: cs => c :: normalizeNewlines cs

end TypeWeave.Text
