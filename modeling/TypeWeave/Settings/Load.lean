import TypeWeave.Json.Reader
import TypeWeave.Settings.Project

/-!
# Loading settings

A field has the value of an override if there is one, else of a variable, else of the project file,
else its default. Every value must fit its field, and every name in the overrides and in the file
must be that of a field.
-/

namespace TypeWeave.Settings

/-- Names with raw values. -/
abbrev Given := List (String × Raw)

/-- Where values come from. -/
structure Sources where
  overrides : Given := []
  environment : Given := []
  file : Given := []

/-- The value of a field before it is read. -/
def Sources.effective (s : Sources) (f : Field) : Option Raw :=
  (s.overrides.lookup f.name).or ((s.environment.lookup f.name).or (s.file.lookup f.name))

/-- The names that are not those of fields; those in the file come first. -/
def Sources.unknown (s : Sources) : List String :=
  ((s.file ++ s.overrides).map (·.1)).eraseDups.filter fun n => (Field.ofName? n).isNone

/-- Put the value of a field into settings, and gather the complaints. -/
def Sources.apply (s : Sources) (acc : Settings × List Complaint) (f : Field) :
    Settings × List Complaint :=
  match s.effective f with
  | none => acc
  | some v =>
    match put acc.1 f v with
    | .ok settings => (settings, acc.2)
    | .error cs => (acc.1, acc.2 ++ cs)

/-- The settings that the sources give. -/
def Sources.settings (s : Sources) : Except Fault Settings :=
  let (settings, complaints) := Field.all.foldl s.apply ({}, [])
  let extra := s.unknown.map fun n => Complaint.mk [n] "Extra inputs are not permitted"
  if (complaints ++ extra).isEmpty then .ok settings else .error (.invalid (complaints ++ extra))

/-- What the names of variables for fields start with, in lower case. -/
def variableLead : String := "embedgen_"

/-- What stands between the name of a field and that of a part of it. -/
def partMark : String := "__"

/-- Variables with their names in lower case. -/
def lowered (env : Project.Environment) : Project.Environment :=
  env.map fun (k, v) => (String.ofList (Text.lower k.toList), v)

/-- Whether variables are set for parts of a field. -/
def hasParts (env : Project.Environment) (f : Field) : Bool :=
  env.any fun (k, _) => k.startsWith (variableLead ++ f.name ++ partMark)

/-- The value of a variable for a list: JSON text, or parts. A null counts as not given. -/
def listVariable (env : Project.Environment) (f : Field) : Except Fault (Option Raw) :=
  match Project.valueOf env (variableLead ++ f.name) with
  | none => .ok (if hasParts env f then some (.map []) else none)
  | some text =>
    match Json.Reader.read? text.toList with
    | none => .error (.variable f)
    | some .null => .ok none
    | some v => .ok (some (rawOfJson v))

/-- What the variables say about a field. -/
def variableFor (env : Project.Environment) (f : Field) : Except Fault (Option Raw) :=
  match f with
  | .command => listVariable env f
  | f => .ok ((Project.valueOf env (variableLead ++ f.name)).map .text)

/-- What the variables say. Their names are read in any letter case. -/
def ofEnvironment (env : Project.Environment) : Except Fault Given := do
  let env := lowered env
  let found ← Field.all.mapM fun f => do return (← variableFor env f).map fun v => (f.name, v)
  return found.filterMap id

/-- Overrides that are given, under the names of the fields; a null counts as not given. -/
def ofOverrides (overrides : List (String × Json.Value)) : Given :=
  let given := overrides.filterMap fun (k, v) =>
    match v with
    | .null => none
    | v => some (k, rawOfJson v)
  let (exact, others) := given.partition fun (k, _) => (Field.ofName? k).isSome
  exact ++ others.filterMap fun (k, v) =>
    match Field.ofAnyCase? k with
    | some f => if (exact.lookup f.name).isSome then none else some (f.name, v)
    | none => some (k, v)

/-- What a file says; its keys must be texts. -/
def ofEntries : List (Raw × Raw) → Except Fault Given
  | [] => .ok []
  | (.text k, v) :: es => (ofEntries es).map ((k, v) :: ·)
  | _ => .error .keyNotText

/-- What is asked of a load: the configuration file to use, if one is named, and the overrides. -/
structure Request where
  file : Option File.Path := none
  overrides : List (String × Json.Value) := []

/-- The settings from overrides, variables and the contents of a project file. -/
def ofSources (overrides : List (String × Json.Value)) (env : Project.Environment)
    (entries : List (Raw × Raw)) : Except Fault Settings := do
  let environment ← ofEnvironment env
  let file ← ofEntries entries
  (Sources.mk (ofOverrides overrides) environment file).settings

/-- What lasts from one load to the next: the variables, and the project file that is named for the
load that is going on. -/
structure Session where
  environment : Project.Environment := []
  named : Option File.Path := none
  deriving DecidableEq, Repr

namespace Session

/-- Load settings in a session whose project file is named already. -/
def build (s : Session) (ws : File.Workspace) (overrides : List (String × Json.Value)) :
    Except Fault Settings := do
  let contents ← Project.contents ws s.environment s.named
  ofSources overrides s.environment contents.entries

/-- Load settings. The project file is named for the load and afterwards what it was before. -/
def load (s : Session) (ws : File.Workspace) (r : Request) : Except Fault Settings × Session :=
  let isThere : Except Fault Bool := match r.file with
    | some p => (ws.pathExists p).mapError Fault.file
    | none => .ok true
  match isThere, r.file with
  | .error f, _ => (.error f, s)
  | .ok false, p => (.error (.missing (p.getD File.Path.current)), s)
  | .ok true, p =>
    let during := { s with named := p }
    (during.build ws r.overrides, { during with named := s.named })

/-- A place that can be opened and holds nothing. -/
def nowhere : File.Path := ⟨.root, ["dev", "null"]⟩

/-- Whether a variable is one of this program's. -/
def isOwn (name : String) : Bool :=
  "EMBEDGEN_".toList.isPrefixOf (Text.upper name.toList)

/-- The default settings, which neither variables nor files change. The variables are set aside for
the load and are back afterwards. -/
def defaults (s : Session) (ws : File.Workspace) : Except Fault Settings × Session :=
  let without := { s with environment := s.environment.filter fun v => !isOwn v.1 }
  let (r, after) := without.load ws { file := some nowhere }
  (r, { after with environment := s.environment })

end Session

/-- Load settings from the files and variables of a process. -/
def load (ws : File.Workspace) (env : Project.Environment) (r : Request) : Except Fault Settings :=
  ({ environment := env : Session }.load ws r).1

/-- Why a change of settings is refused. -/
inductive Refusal where
  | invalid (complaints : List Complaint)
  | noField (name : String)
  deriving DecidableEq, Repr

/-- Set a field by its name; settings stay as they are when the value does not fit. -/
def assign (s : Settings) (name : String) (v : Raw) : Except Refusal Settings :=
  match Field.ofName? name with
  | some f => (put s f v).mapError Refusal.invalid
  | none => if name.startsWith "_" then .ok s else .error (.noField name)

/-- The words for a refused change. -/
def Refusal.message : Refusal → String
  | .invalid complaints => Fault.onOneLine complaints
  | .noField name => "\"EmbedgenSettings\" object has no field \"" ++ name ++ "\""

end TypeWeave.Settings
