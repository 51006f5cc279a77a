import TypeWeave.Text.LetterCase
import TypeWeave.Text.Search

/-!
# Settings

The settings of a run, their fields and names, and what each of them has to satisfy.
-/

namespace TypeWeave

/-- The settings. -/
structure Settings where
  outputName : String := "embedgen_gen.go"
  templateSuffix : String := ".tmpl"
  formatter : String := "gofmt"
  command : List String := ["gofmt"]
  workers : Int := 1
  logLevel : String := "normal"
  deriving DecidableEq, Repr

namespace Settings

/-- The fields of the settings. -/
inductive Field where
  | outputName
  | templateSuffix
  | formatter
  | command
  | workers
  | logLevel
  deriving DecidableEq, Repr

namespace Field

/-- The fields in the order in which they are looked at. -/
def all : List Field := [.outputName, .templateSuffix, .formatter, .command, .workers, .logLevel]

/-- The name of a field in files and messages. -/
def name : Field → String
  | .outputName => "output_filename"
  | .templateSuffix => "template_suffix"
  | .formatter => "formatter"
  | .command => "gofmt_command"
  | .workers => "workers"
  | .logLevel => "log_level"

/-- The field of a name. -/
def ofName? (name : String) : Option Field := all.find? fun f => f.name == name

/-- The field of a name in any letter case. -/
def ofAnyCase? (name : String) : Option Field := ofName? (String.ofList (Text.lower name.toList))

end Field

/-- The names of the formatters. -/
def formatters : List String := ["gofmt", "check"]

/-- The verbosities. -/
def logLevels : List String := ["quiet", "normal", "verbose", "debug"]

/-- What is wrong with a value, in words. -/
abbrev Checked (α : Type) := Except String α

/-- The words for a value that breaks a rule. -/
def brokenRule (rule : String) : String := "Value error, " ++ rule

/-- The words for a value that is none of some. -/
def noneOf (choices : List String) : String := brokenRule ("must be one of " ++ ", ".intercalate choices)

/-- A name of a generated file is a source file name, without a directory, and not that of a test. -/
def checkOutputName (s : String) : Checked String :=
  if !s.endsWith ".go" || s.contains '/' || s.contains '\\' then
    .error (brokenRule "must be a bare file name ending in .go")
  else if s.endsWith "_test.go" then .error (brokenRule "must not be a _test.go file")
  else .ok s

/-- A template suffix is a dot with something behind it. -/
def checkTemplateSuffix (s : String) : Checked String :=
  if !s.startsWith "." || s.length < 2 then
    .error (brokenRule "must start with '.' and name an extension")
  else .ok s

/-- A formatter is one of those there are. -/
def checkFormatter (s : String) : Checked String :=
  if formatters.contains s then .ok s else .error (noneOf formatters)

/-- A command has at least one word. -/
def checkCommand (words : List String) : Checked (List String) :=
  if words.isEmpty then .error (brokenRule "must not be empty") else .ok words

/-- There is at least one worker. -/
def checkWorkers (n : Int) : Checked Int :=
  if n < 1 then .error "Input should be greater than or equal to 1" else .ok n

/-- A verbosity is one of those there are, in any letter case. -/
def checkLogLevel (s : String) : Checked String :=
  let lowered := String.ofList (Text.lower s.toList)
  if logLevels.contains lowered then .ok lowered else .error (noneOf logLevels)

end Settings

end TypeWeave
