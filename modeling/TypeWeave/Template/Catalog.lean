import TypeWeave.Failure
import TypeWeave.File.Tree
import TypeWeave.Template.Compiled
import TypeWeave.Text.Utf8

/-!
# The template catalog

Templates lie beside the sources that use them, one file for each name. The catalog reads and
compiles a template when its name is first looked up in a directory, and remembers both what it
found and what is not there.
-/

namespace TypeWeave.Template

/-- A template that was found: its name, its file, what it was compiled to, and its number among all
templates that the catalog has compiled. -/
structure Loaded where
  name : String
  path : File.Path
  compiled : Compiled
  serial : Nat

/-- A catalog: the suffix of template files, what is remembered, how many templates were compiled,
and how many look-ups were answered from memory. -/
structure Catalog where
  suffix : String
  entries : List ((File.Path × String) × Option Loaded) := []
  parseCount : Nat := 0
  hits : Nat := 0

namespace Catalog

/-- The suffix of template files unless another one is chosen. -/
def defaultSuffix : String := ".tmpl"

/-- Work with a catalog that may fail; what was counted before a failure stays counted. -/
abbrev Work := ExceptT Failure (StateM Catalog)

/-- The file of a template. -/
def templatePath (suffix : String) (directory : File.Path) (name : String) : File.Path :=
  directory.join (File.Path.ofString (name ++ suffix))

/-- Read and compile a template. -/
def load (ws : File.Workspace) (path : File.Path) (name : String) : Work Loaded := do
  let bytes ← match ws.read path with
    | .ok bytes => pure bytes
    | .error e => throw (.file e)
  let cs ← match Text.Utf8.decode bytes with
    | .ok cs => pure (Text.normalizeNewlines cs)
    | .error e => throw (.template path ("invalid UTF-8 at byte " ++ toString e.offset) none)
  modify fun c => { c with parseCount := c.parseCount + 1 }
  match compile (String.ofList cs) with
  | .ok compiled => return ⟨name, path, compiled, (← get).parseCount⟩
  | .error f => throw (.template path f.message (some f.line))

/-- What is known by a key, a directory and a name: what is remembered, or else the template that is
there, if there is one. -/
def consult (ws : File.Workspace) (key : File.Path × String) : Work (Option Loaded) := do
  match (← get).entries.lookup key with
  | some found =>
    modify fun c => { c with hits := c.hits + 1 }
    return found
  | none =>
    let path := templatePath (← get).suffix key.1 key.2
    let found ← match ws.isFile path with
      | .error e => throw (.file e)
      | .ok false => pure none
      | .ok true => do pure (some (← load ws path key.2))
    modify fun c => { c with entries := c.entries ++ [(key, found)] }
    return found

/-- The template of a name in a directory, if there is one. -/
def lookup (ws : File.Workspace) (directory : File.Path) (name : String) :
    Work (Option Loaded) :=
  if directory.text.toList.contains '\x00' then throw .embeddedNul
  else consult ws (ws.resolve directory, name)

/-- Forget everything that is remembered. -/
def clear (c : Catalog) : Catalog := { c with entries := [] }

/-- The files of the templates that are remembered, in order. -/
def cachedPaths (c : Catalog) : List String :=
  (c.entries.filterMap fun e => e.2.map (·.path.text)).mergeSort
    fun a b => compareChars a.toList b.toList != .gt

end Catalog

end TypeWeave.Template
