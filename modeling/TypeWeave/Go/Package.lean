import TypeWeave.File.Tree
import TypeWeave.Go.Extraction
import TypeWeave.Go.Grammar.File
import TypeWeave.Go.Marker
import TypeWeave.Text.Utf8

/-!
# Packages

The source files of a directory and what they declare. Tests, files that the tools of the language
pass over, the output of this program and files that other programs generated are left out. All
other files must be of one package.
-/

namespace TypeWeave.Go.Package

/-- The suffix of source files. -/
def suffix : String := ".go"

/-- Whether a file name is that of a source file to scan. -/
def isSource (outputName name : String) : Bool :=
  name.endsWith suffix && !name.startsWith "_" && !name.startsWith "." &&
    !name.endsWith "_test.go" && name != outputName

/-- The source files of a directory, in order of their names. -/
def sourceFiles (ws : File.Workspace) (directory : File.Path) (outputName : String) :
    Except File.Error (List File.Path) := do
  let paths := ((← ws.list directory).filter (isSource outputName)).map directory.child
  paths.filterM ws.isFile

/-- Line and column, counted from one, of the byte behind some bytes. -/
def placeAfter (bytes : List UInt8) : Nat × Nat :=
  let newline : UInt8 := 10
  (bytes.count newline + 1, (bytes.reverse.takeWhile (· != newline)).length + 1)

/-- The text of a source file. -/
def readSource (ws : File.Workspace) (file : File.Path) : Except Failure (List Char) :=
  match ws.read file with
  | .error e => .error (.file e)
  | .ok bytes =>
    match Text.Utf8.decode bytes with
    | .ok cs => .ok cs
    | .error e =>
      let (line, column) := placeAfter (bytes.take e.offset)
      .error (.source file line column "invalid UTF-8")

/-- What a scan of a directory found. -/
structure Scan where
  directory : File.Path
  package : Option String := none
  files : List File.Path := []
  declarations : List Declaration := []
  deriving DecidableEq, Repr

/-- Add what a source file declares. -/
def Scan.add (s : Scan) (file : File.Path) (source : List Char) : Except Failure Scan := do
  let root := Grammar.parse source
  let found ← Extraction.contents root file
  match s.package with
  | some package =>
    if found.package != package then
      let (line, column) := Extraction.packagePosition root
      throw (.source file line column
        ("package " ++ found.package ++ " conflicts with package " ++ package))
  | none => pure ()
  return { s with
    package := some found.package
    files := s.files ++ [file]
    declarations := s.declarations ++ found.declarations }

/-- Scan a directory. -/
def scan (ws : File.Workspace) (directory : File.Path) (outputName : String) :
    Except Failure Scan := do
  let files ← (sourceFiles ws directory outputName).mapError Failure.file
  files.foldlM (fun (s : Scan) file => do
    let source ← readSource ws file
    if Marker.isGenerated source then return s else s.add file source) { directory := directory }

end TypeWeave.Go.Package
