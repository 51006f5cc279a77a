import TypeWeave.Text.Blank
import TypeWeave.Text.Search

/-!
# Generated files

A generated file says so in a line comment of a fixed form that stands before its package clause.
-/

namespace TypeWeave.Go.Marker

/-- How a marking line starts. -/
def opening : List Char := "// Code generated ".toList

/-- How a marking line ends. -/
def closing : List Char := " DO NOT EDIT.".toList

/-- Whether a line marks a generated file. -/
def isMarker (line : List Char) : Bool :=
  match Text.dropPrefix? opening line with
  | some rest => Text.endsWith closing rest
  | none => false

/-- Whether a line starts the package clause; `ended` says whether a line end follows it. -/
def startsPackage (line : List Char) (ended : Bool) : Bool :=
  match Text.dropPrefix? "package".toList line with
  | some (c :: _) => Text.isBlank c
  | some [] => ended
  | none => false

/-- Whether one of some lines marks a generated file before the package clause. -/
def isMarked : List (List Char) → Bool
  | [] => false
  | line :: rest =>
    if startsPackage line (!rest.isEmpty) then false else isMarker line || isMarked rest

/-- Whether a source says that it is generated. -/
def isGenerated (source : List Char) : Bool := isMarked (Text.splitOn ['\n'] source)

end TypeWeave.Go.Marker
