import TypeWeave.CommandLine.Help
import TypeWeave.CommandLine.Report
import TypeWeave.CommandLine.Request
import TypeWeave.Generation.Plan
import TypeWeave.Log.Lines
import TypeWeave.Settings.Load

/-!
# The program

A call of the program: its arguments are read, settings are loaded, the directories are generated and
the results told. A fault in the arguments or the configuration is told with an exit code of its own;
failures that nobody expects end the call and keep what is on the screen by then.
-/

namespace TypeWeave.CommandLine

/-- How a call ends. -/
inductive Exit where
  | success
  | failure
  | misuse
  | interrupted
  deriving DecidableEq, Repr

/-- The exit code of an end. -/
def Exit.code : Exit → Nat
  | .success => 0
  | .failure => 1
  | .misuse => 2
  | .interrupted => 130

/-- A failure that ends a call without being told. -/
inductive Escape where
  | settings (fault : Settings.Fault)
  | failure (failure : Failure)
  | markup (fault : Console.Markup.Fault)
  deriving DecidableEq, Repr

/-- A call: the name by which the program is called, what it can see, and whether the user asks to
stop as soon as work begins. -/
structure Call where
  program : String := "embedgen"
  arguments : List String
  workspace : File.Workspace
  environment : Settings.Project.Environment := []
  runner : Command.Runner
  interrupted : Bool := false

/-- What a call leaves. -/
structure Ended where
  exit : Exit
  screen : Screen := {}
  escaped : Option Escape := none
  workspace : File.Workspace

namespace Call

/-- The version of the program. -/
def version : String := "0.1.0"

/-- The line that tells the version. -/
def versionLine : String := "embedgen, version " ++ version ++ "\n"

/-- End a call without a change of the file tree. -/
def leave (c : Call) (exit : Exit) (screen : Screen) : Ended :=
  { exit := exit, screen := screen, workspace := c.workspace }

/-- End a call by a failure that is not told. -/
def escape (e : Escape) (screen : Screen) (ws : File.Workspace) : Ended :=
  { exit := .failure, screen := screen, escaped := some e, workspace := ws }

/-- Tell something and end the call. -/
def tell (exit : Exit) (screen : Screen) (ws : File.Workspace)
    (text : Except Console.Markup.Fault String) : Ended :=
  match text with
  | .ok text => { exit := exit, screen := screen ++ .ofError text, workspace := ws }
  | .error f => escape (.markup f) screen ws

/-- What is shown for a fault in the arguments. -/
def misuseText (program : String) (c : Command) (f : Fault) : String :=
  let usage :=
    if f.showsUsage then
      Help.usage program c ++ "\nTry '" ++ c.path program ++ " --help' for help.\n\n"
    else ""
  usage ++ "Error: " ++ f.message ++ "\n"

/-- The overrides of settings that arguments give. -/
def overrides (g : Globals) (t : Task) : List (String × Json.Value) :=
  let text (s : Option String) : Json.Value := (s.map Json.Value.text).getD .null
  [(Settings.Field.logLevel.name, text g.logLevel),
    (Settings.Field.workers.name, (t.workers.map Json.Value.int).getD .null),
    (Settings.Field.formatter.name, text t.formatter)]

/-- The log of notices at some threshold. -/
def log (threshold : Log.Level) (notices : List Generation.Notice) : String :=
  String.join ((notices.filter fun n => threshold.shows n.level).map fun n =>
    Log.Lines.shown n.level n.message)

/-- The warning for a user who asked to stop. -/
def interruption : Except Console.Markup.Fault String := Console.warning "Interrupted by user"

/-- Tell what a run came to, behind its log. -/
def finish (dryRun : Bool) (logged : Screen) (run : Generation.Report) : Ended :=
  match run.results with
  | .error .interrupted => tell .interrupted logged run.workspace interruption
  | .error f => escape (.failure f) logged run.workspace
  | .ok results =>
    let report := Report.ofResults dryRun results
    let screen := logged ++ report.screen
    match report.fault with
    | some f => escape (.markup f) screen run.workspace
    | none =>
      { exit := if report.failed = 0 then .success else .failure, screen := screen,
        workspace := run.workspace }

/-- Generate with settings. -/
def work (c : Call) (t : Task) (s : Settings) (plan : Generation.Plan) : Ended :=
  if c.interrupted then tell .interrupted {} c.workspace interruption
  else
    let targets := if t.directories.isEmpty then [⟨.root, c.workspace.here⟩] else t.directories
    let run := Generation.run plan (Generation.workersFor s none) t.dryRun false c.workspace targets
    let setup := Log.configure (Log.Level.ofWord s.logLevel) []
    finish t.dryRun (.ofError (log setup.threshold run.notices)) run

/-- Carry out the command. -/
def generate (c : Call) (g : Globals) (t : Task) : Ended :=
  match Settings.load c.workspace c.environment ⟨g.config, overrides g t⟩ with
  | .error f =>
    if f.isConfiguration then tell .misuse {} c.workspace (Console.error f.message [])
    else escape (.settings f) {} c.workspace
  | .ok s =>
    match Generation.Plan.ofSettings c.runner s with
    | .error (.configuration m) => tell .misuse {} c.workspace (Console.error m [])
    | .error f => escape (.failure f) {} c.workspace
    | .ok plan => c.work t s plan

/-- Carry out a call. -/
def run (c : Call) : Ended :=
  match Request.read c.workspace c.arguments with
  | .error (.misuse command f) =>
    c.leave .misuse (.ofError (misuseText c.program command f))
  | .error .embeddedNul => escape (.failure .embeddedNul) {} c.workspace
  | .ok .nothing => c.leave .misuse (.ofError (Help.page c.program .top))
  | .ok (.help command) => c.leave .success { out := Help.page c.program command }
  | .ok .version => c.leave .success (.ofError versionLine)
  | .ok (.generate g t) => c.generate g t

end Call

end TypeWeave.CommandLine
