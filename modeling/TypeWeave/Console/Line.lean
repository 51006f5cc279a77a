import TypeWeave.Console.Markup
import TypeWeave.Text.Width

/-!
# Console lines

What the program tells its user: a line of markup, shown as text. Control characters that would
move the cursor are left out, tabs go to the next multiple of eight cells, and lines are not broken.
-/

namespace TypeWeave.Console

/-- Control characters that are not shown. -/
def isSuppressed (c : Char) : Bool := [0x7, 0x8, 0xB, 0xC, 0xD].contains c.toNat

/-- Replace tabs by blanks up to the next multiple of `size` cells. -/
def expandTabs (size column : Nat) : List Char → List Char
  | [] => []
  | c :: cs =>
    if c = '\t' then
      let gap := size - column % size
      List.replicate gap ' ' ++ expandTabs size (column + gap) cs
    else if c = '\n' then '\n' :: expandTabs size 0 cs
    else c :: expandTabs size (column + Text.charWidth c) cs

/-- What the console makes of text. -/
def displayed (cs : List Char) : List Char :=
  expandTabs 8 0 (cs.filter fun c => !isSuppressed c)

/-- The line that markup shows. -/
def line (markup : List Char) : Except Markup.Fault String :=
  (Markup.render markup).map fun cs => String.ofList (displayed cs ++ ['\n'])

/-- A line with a lead in markup before a text that is not markup. -/
def leading (lead text : String) : Except Markup.Fault String :=
  line (lead.toList ++ Markup.escape text.toList)

/-- An error with its details. -/
def error (message : String) (details : List String) : Except Markup.Fault String := do
  let first ← leading "[red]Error:[/red] " message
  let others ← details.mapM (leading "  • ")
  return String.join (first :: others)

/-- Good news. -/
def success (message : String) : Except Markup.Fault String := leading "[green]✓[/green] " message

/-- A warning. -/
def warning (message : String) : Except Markup.Fault String :=
  leading "[yellow]Warning:[/yellow] " message

/-- A remark, which is read as markup. -/
def remark (text : String) : Except Markup.Fault String :=
  line ("[dim]" ++ text ++ "[/dim]").toList

end TypeWeave.Console
