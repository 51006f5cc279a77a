import TypeWeave.Text.Blank

/-!
# Assembling a generated file

A generated file has a header, the package clause, the imports if there are any, and the fragments
that are not blank, with one empty line between them.
-/

namespace TypeWeave.Assembly

/-- The first line of a generated file. -/
def header : String := "// Code generated by embedgen. DO NOT EDIT."

/-- The lines that import some paths. -/
def importLines (paths : List String) : List String :=
  match paths with
  | [] => []
  | [p] => ["import \"" ++ p ++ "\""]
  | ps => "import (" :: ps.map (fun p => "\t\"" ++ p ++ "\"") ++ [")"]

/-- A fragment without the line ends around it. -/
def trimmed (fragment : String) : String :=
  String.ofList (Text.stripWhile (· == '\n') fragment.toList)

/-- The text of a generated file. -/
def source (header package : String) (imports fragments : List String) : String :=
  let importPart := match importLines imports with
    | [] => []
    | lines => "" :: lines
  let bodies := (fragments.map trimmed).filter fun b => !Text.blank b
  "\n".intercalate
    ([header, "", "package " ++ package] ++ importPart ++ bodies.flatMap fun b => ["", b]) ++ "\n"

end TypeWeave.Assembly
