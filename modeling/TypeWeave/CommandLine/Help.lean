import TypeWeave.CommandLine.Parameter
import TypeWeave.Text.Search

/-!
# Help

The page that tells how a command is used: its usage, what it does, its options and, for the program
as a whole, its commands. The explanations of options stand in a column of their own.
-/

namespace TypeWeave.CommandLine.Help

/-- The width of a page. -/
def pageWidth : Nat := 80

/-- Put words on lines of a width. -/
def fill (width : Nat) (line : String) : List String → List String
  | [] => [line]
  | word :: words =>
    if line.length + 1 + word.length ≤ width then fill width (line ++ " " ++ word) words
    else line :: fill width word words

/-- Break a text into lines of a width. -/
def wrap (width : Nat) (text : String) : List String :=
  match (Text.splitOn [' '] text.toList).map String.ofList |>.filter (!·.isEmpty) with
  | [] => []
  | word :: words => fill width word words

/-- Blanks. -/
def blanks (n : Nat) : String := String.ofList (List.replicate n ' ')

/-- Terms with their explanations in a second column. -/
def definitions (entries : List (String × String)) : List String :=
  let column := (entries.map fun e => e.1.length).foldl max 0 + 2
  entries.flatMap fun (term, text) =>
    (wrap (pageWidth - column - 2) text).mapIdx fun i line =>
      "  " ++ (if i = 0 then term ++ blanks (column - term.length) else blanks column) ++ line

/-- An option as a page shows it. -/
def term (p : Parameter) : String :=
  ", ".intercalate p.forms ++ (p.value?.map (" " ++ ·)).getD ""

/-- What the command does, in a sentence. -/
def summary : String := "Generate code for DIRECTORIES (default: the current directory)."

/-- What a command does. -/
def description : Command → List String
  | .top => [
    "embedgen - generate Go code from templates bound by embedded types.",
    "",
    "A struct or interface that embeds a type named Foo is rendered with",
    "Foo.tmpl from the same directory. All output for a package is merged",
    "into one generated file."]
  | .generate => [summary]

/-- The usage of a command. -/
def usage (program : String) (c : Command) : String :=
  "Usage: " ++ c.path program ++ " " ++ c.shape

/-- The commands that a page lists. -/
def commands : Command → List String
  | .top => ["", "Commands:"] ++ definitions [(Command.generate.name, summary)]
  | .generate => []

/-- The page of a command. -/
def page (program : String) (c : Command) : String :=
  let indented := (description c).map fun line => if line.isEmpty then "" else "  " ++ line
  let options := definitions (c.options.map fun p => (term p, p.purpose))
  let lines := [usage program c, ""] ++ indented ++ ["", "Options:"] ++ options ++ commands c
  String.join (lines.map (· ++ "\n"))

end TypeWeave.CommandLine.Help
