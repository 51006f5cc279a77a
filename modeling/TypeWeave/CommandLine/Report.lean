import TypeWeave.Console.ControlSequence
import TypeWeave.Console.Line
import TypeWeave.Generation.Directory

/-!
# Reports

How the results of a run are told: generated source of a dry run goes to standard output, all else
to standard error. A directory without bindings is named in markup, so a name that is no markup ends
the report.
-/

namespace TypeWeave.CommandLine

/-- What is written to standard output and to standard error. -/
structure Screen where
  out : String := ""
  err : String := ""
  deriving DecidableEq, Repr

namespace Screen

/-- One screen behind another. -/
def append (a b : Screen) : Screen := ⟨a.out ++ b.out, a.err ++ b.err⟩

instance : Append Screen := ⟨append⟩

/-- A screen with text on standard error only. -/
def ofError (text : String) : Screen := { err := text }

end Screen

/-- What is told about a result. -/
def told (dryRun : Bool) (r : Generation.Result) : Except Console.Markup.Fault Screen :=
  match r.failure, r.outputFile with
  | some f, _ => (Console.error (r.directory.text ++ ": " ++ f.message) []).map .ofError
  | none, none => (Console.remark (r.directory.text ++ ": no template bindings")).map .ofError
  | none, some file =>
    if dryRun then
      let source := (r.source.getD "").toList
      .ok { out := String.ofList (Console.ControlSequence.strip source) }
    else
      (Console.success (file.text ++ " (" ++ toString r.bindings ++ " bindings)")).map .ofError

/-- A report: what is on the screen, how many results failed, and why the report ended early if it
did. -/
structure Report where
  screen : Screen := {}
  failed : Nat := 0
  fault : Option Console.Markup.Fault := none
  deriving DecidableEq, Repr

namespace Report

/-- How many failures a result counts for. -/
def weight (r : Generation.Result) : Nat := if r.succeeded then 0 else 1

/-- The report of results. -/
def ofResults (dryRun : Bool) : List Generation.Result → Report
  | [] => {}
  | r :: rs =>
    match told dryRun r with
    | .error f => { failed := weight r, fault := some f }
    | .ok screen =>
      let more := ofResults dryRun rs
      { more with screen := screen ++ more.screen, failed := weight r + more.failed }

end Report

end TypeWeave.CommandLine
