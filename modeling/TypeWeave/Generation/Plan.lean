import TypeWeave.Formatter
import TypeWeave.Generation.Run
import TypeWeave.Settings.Basic

/-!
# Plans from settings

The settings choose the names of files and the formatter.
-/

namespace TypeWeave.Generation

/-- The plan that settings stand for, given how commands are run. -/
def Plan.ofSettings (run : Command.Runner) (s : Settings) : Except Failure Plan := do
  let formatter ← Formatter.ofName s.formatter s.command
  return {
    outputName := s.outputName
    templateSuffix := s.templateSuffix
    format := formatter.format run
    writer := {} }

/-- How many workers a run has; none or zero asked for means those of the settings. -/
def workersFor (s : Settings) (asked : Option Int) : Int :=
  match asked with
  | none | some 0 => s.workers
  | some n => n

end TypeWeave.Generation
