import TypeWeave.Console.Line
import TypeWeave.Log.Level
import TypeWeave.Text.Blank

/-!
# Log lines

A log message is shown behind the name of its level. Lines that are too long for the console are
broken between words, and words that are too long for a line between characters; the lines after the
first one are indented as far.
-/

namespace TypeWeave.Log.Lines

/-- The cells of a console line. -/
def consoleWidth : Nat := 100

/-- The cells for the name of a level. -/
def levelWidth : Nat := 8

/-- The cells for a message. -/
def messageWidth : Nat := consoleWidth - levelWidth - 1

/-- The words of a line, each with the blanks behind it and the first one also with those before
it. Blanks alone are no word. -/
def words (fuel : Nat) (cs : List Char) : List (List Char) :=
  match fuel with
  | 0 => []
  | fuel + 1 =>
    let lead := cs.takeWhile Text.isBlank
    let cs := cs.dropWhile Text.isBlank
    let word := cs.takeWhile (!Text.isBlank ·)
    let rest := cs.dropWhile (!Text.isBlank ·)
    if word.isEmpty then []
    else (lead ++ word ++ rest.takeWhile Text.isBlank) :: words fuel (rest.dropWhile Text.isBlank)

/-- Cut a word into parts that fit on a line, `used` cells of which are taken. -/
def chop (width used : Nat) (part : List Char) : List Char → List (List Char)
  | [] => [part.reverse]
  | c :: cs =>
    if width < used + Text.charWidth c then
      part.reverse :: chop width (Text.charWidth c) [c] cs
    else chop width (used + Text.charWidth c) (c :: part) cs

/-- Lines while they are filled: those that are full, the latest first, the one being filled and the
cells that it takes. -/
structure Filling where
  full : List (List Char) := []
  current : List Char := []
  used : Nat := 0

namespace Filling

/-- Start a new line with a text, unless nothing has been placed yet. -/
def onNewLine (f : Filling) (cs : List Char) : Filling :=
  if f.full.isEmpty && f.current.isEmpty then ⟨[], cs, Text.width cs⟩
  else ⟨f.current :: f.full, cs, Text.width cs⟩

/-- Place a word. -/
def place (width : Nat) (f : Filling) (word : List Char) : Filling :=
  let needed := Text.width (Text.dropEndWhile Text.isBlank word)
  if f.used + needed ≤ width then
    ⟨f.full, f.current ++ word, f.used + Text.width word⟩
  else if width < needed then (chop width 0 [] word).foldl onNewLine f
  else if 0 < f.used then f.onNewLine word
  else ⟨f.full, f.current ++ word, f.used⟩

/-- The lines, the blanks at whose ends are not shown. -/
def lines (f : Filling) : List (List Char) :=
  (f.current :: f.full).reverse.map (Text.dropEndWhile Text.isBlank)

end Filling

/-- Break a line. -/
def wrap (width : Nat) (cs : List Char) : List (List Char) :=
  ((words cs.length cs).foldl (Filling.place width) {}).lines

/-- The lines that a message takes. -/
def body (message : String) : List (List Char) :=
  (Text.splitOn ['\n'] (Console.displayed message.toList)).flatMap (wrap messageWidth)

/-- The text of a message of some level on the console. -/
def shown (level : Level) (message : String) : String :=
  let lead := Text.padRight (levelWidth + 1) ' ' level.name.toList
  let indent := List.replicate (levelWidth + 1) ' '
  let rows := (body message).mapIdx fun i row =>
    Text.dropEndWhile Text.isBlank ((if i = 0 then lead else indent) ++ row) ++ ['\n']
  String.ofList rows.flatten

end TypeWeave.Log.Lines
