import TypeWeave.File.Tree
import TypeWeave.Settings.Fault
import TypeWeave.Text.Lines

/-!
# Project files

The configuration file of a project lies in the directory where the program runs or in the nearest
one above it that has it, unless a variable names the only directory to look in.
-/

namespace TypeWeave.Settings.Project

/-- The name of the file. -/
def fileName : String := "embedgen.yaml"

/-- The variable that names the only directory to look in. -/
def directoryVariable : String := "EMBEDGEN_PROJECT_DIR"

/-- The variables of a process, later ones winning over earlier ones of the same name. -/
abbrev Environment := List (String × String)

/-- The value of a variable. -/
def valueOf (env : Environment) (name : String) : Option String := env.reverse.lookup name

/-- The directory that a variable names, if it names one. -/
def chosenDirectory (env : Environment) : Option String :=
  (valueOf env directoryVariable).filter fun d => !d.isEmpty

/-- A path if there is something at it. -/
def present (ws : File.Workspace) (p : File.Path) : Except File.Error (Option File.Path) := do
  if ← ws.pathExists p then return some p else return none

/-- The file in the nearest of a directory and those above it, the names on the way down to the
directory being given innermost first. -/
def search (ws : File.Workspace) (anchor : File.Anchor) :
    List String → Except File.Error (Option File.Path)
  | [] => present ws ⟨anchor, [fileName]⟩
  | name :: above => do
    match ← present ws ⟨anchor, (name :: above).reverse ++ [fileName]⟩ with
    | some p => return some p
    | none => search ws anchor above

/-- The project file of a directory. -/
def find (ws : File.Workspace) (env : Environment) (start : File.Path) :
    Except File.Error (Option File.Path) :=
  match chosenDirectory env with
  | some d => present ws ((ws.resolve (File.Path.ofString d)).child fileName)
  | none =>
    let from' := ws.resolve start
    search ws from'.anchor from'.parts.reverse

/-- What a project file says, and the file if there is one. -/
structure Contents where
  file : Option File.Path := none
  entries : List (Raw × Raw) := []

/-- Read a project file. -/
def read (ws : File.Workspace) (file : File.Path) : Except Fault (List (Raw × Raw)) :=
  match ws.read file with
  | .error e => .error (.file e)
  | .ok bytes =>
    match Text.Utf8.decode bytes with
    | .error place => .error (.undecodable place)
    | .ok cs =>
      match Yaml.Value.ofChars (Text.normalizeNewlines cs) with
      | .error f => if f.isDocument then .error (.malformed file f) else .error (.unreadable f)
      | .ok (.map entries) => .ok entries
      | .ok v => if v.isVoid then .ok [] else .error (.notMapping file v.kind)

/-- The contents of a project file that is given or else found. Only a regular file is read. -/
def contents (ws : File.Workspace) (env : Environment) (given : Option File.Path) :
    Except Fault Contents := do
  let file ← match given with
    | some p => pure (some p)
    | none => (find ws env File.Path.current).mapError Fault.file
  match file with
  | none => return {}
  | some p =>
    if ← (ws.isFile p).mapError Fault.file then return ⟨some p, ← read ws p⟩ else return {}

/-- What the entries say about a name. -/
def lookup (entries : List (Raw × Raw)) (name : String) : Option Raw :=
  (entries.find? fun (k, _) => k.sameKey (.text name)).map (·.2)

end TypeWeave.Settings.Project
