import TypeWeave.Assembly
import TypeWeave.Binding
import TypeWeave.Generation.Notice
import TypeWeave.Generation.Output
import TypeWeave.Go.Package

/-!
# Generating the file of a directory

The sources of a directory are scanned, its declarations bound to templates, and the rendered
fragments assembled and formatted; the file is then written in one step. A directory without
bindings gets no file, and loses the one that an earlier run left. A dry run does the same and
leaves the file tree alone.
-/

namespace TypeWeave.Generation

/-- What generation depends on besides the sources: the names of files, the formatter and the
writer. -/
structure Plan where
  outputName : String
  templateSuffix : String
  format : String → Except Failure String
  writer : Output.Writer

/-- The file that is generated for a directory. -/
def Plan.outputFile (p : Plan) (directory : File.Path) : File.Path := directory.child p.outputName

/-- The outcome for one directory. -/
structure Result where
  directory : File.Path
  outputFile : Option File.Path := none
  bindings : Nat := 0
  imports : List String := []
  source : Option String := none
  failure : Option Failure := none
  deriving DecidableEq, Repr

/-- Whether nothing failed. -/
def Result.succeeded (r : Result) : Bool := r.failure.isNone

/-- The bindings of the declarations that a scan found. -/
def bindingsOf (p : Plan) (ws : File.Workspace) (scan : Go.Package.Scan) :
    Except Failure (List Binding) :=
  (ExceptT.run (Binding.ofDeclarations ws scan.declarations)).run { suffix := p.templateSuffix } |>.1

/-- A generated file before it is written. -/
structure Draft where
  bindings : Nat
  imports : List String
  source : String
  deriving DecidableEq, Repr

/-- Render, assemble and format; nothing comes of no bindings. -/
def draft (p : Plan) (ws : File.Workspace) (scan : Go.Package.Scan) :
    Except Failure (Option Draft) := do
  let bindings ← bindingsOf p ws scan
  if bindings.isEmpty then return none
  let (fragments, imports) ← Binding.renderAll Imports.empty bindings
  let source := Assembly.source Assembly.header (scan.package.getD "") imports.paths fragments
  return some ⟨bindings.length, imports.paths, ← p.format source⟩

/-- The result that a draft stands for. -/
def Draft.result (d : Draft) (p : Plan) (directory : File.Path) : Result :=
  { directory := directory, outputFile := some (p.outputFile directory), bindings := d.bindings,
    imports := d.imports, source := some d.source }

/-- What generation for one directory came to, with the file tree and the notices that it leaves. -/
structure Outcome where
  result : Except Failure Result
  workspace : File.Workspace
  notices : List Notice

/-- Generate the file of a directory. -/
def directory (p : Plan) (dryRun : Bool) (ws : File.Workspace) (dir : File.Path) : Outcome :=
  let started := [Notice.started dir]
  let target := p.outputFile dir
  match Go.Package.scan ws dir p.outputName with
  | .error f => ⟨.error f, ws, started⟩
  | .ok scan =>
    let scanned := started ++ [.scanned scan.files.length dir scan.declarations.length]
    match draft p ws scan with
    | .error f => ⟨.error f, ws, scanned⟩
    | .ok none =>
      let told := scanned ++ [.withoutBindings dir]
      if dryRun then ⟨.ok { directory := dir }, ws, told⟩
      else
        match Output.removeStale ws target with
        | .error e => ⟨.error (.file e), ws, told⟩
        | .ok (.absent, ws) => ⟨.ok { directory := dir }, ws, told⟩
        | .ok (.kept, ws) => ⟨.ok { directory := dir }, ws, told ++ [.left target]⟩
        | .ok (.removed, ws) => ⟨.ok { directory := dir }, ws, told ++ [.removed target]⟩
    | .ok (some d) =>
      if dryRun then ⟨.ok (d.result p dir), ws, scanned⟩
      else
        match Output.write p.writer ws target d.source with
        | (.error f, ws) => ⟨.error f, ws, scanned⟩
        | (.ok (), ws) => ⟨.ok (d.result p dir), ws, scanned ++ [.wrote target d.bindings]⟩

end TypeWeave.Generation
