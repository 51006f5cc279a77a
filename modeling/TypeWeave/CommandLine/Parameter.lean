import TypeWeave.Settings.Basic

/-!
# Commands and their parameters

The program has one command, `generate`. Options before the name of the command belong to the
program as a whole.
-/

namespace TypeWeave.CommandLine

/-- What arguments are for: the program as a whole, or its command. -/
inductive Command where
  | top
  | generate
  deriving DecidableEq, Repr

/-- The options, and the directories that the command takes. -/
inductive Parameter where
  | config
  | logLevel
  | version
  | help
  | workers
  | formatter
  | dryRun
  | directories
  deriving DecidableEq, Repr

/-- The options that arguments for a command may hold. -/
def Command.options : Command → List Parameter
  | .top => [.config, .logLevel, .version, .help]
  | .generate => [.workers, .formatter, .dryRun, .help]

/-- The name of the command. -/
def Command.name : Command → String
  | .top => ""
  | .generate => "generate"

/-- What stands for the arguments of a command in its usage. -/
def Command.shape : Command → String
  | .top => "[OPTIONS] COMMAND [ARGS]..."
  | .generate => "[OPTIONS] [DIRECTORIES]..."

/-- How a command is called in a program of some name. -/
def Command.path (program : String) : Command → String
  | .top => program
  | .generate => program ++ " generate"

namespace Parameter

/-- The letter of an option. -/
def letter? : Parameter → Option Char
  | .config => some 'c'
  | .logLevel => some 'l'
  | .help => some 'h'
  | .workers => some 'w'
  | _ => none

/-- The long form of an option. -/
def long : Parameter → String
  | .config => "--config"
  | .logLevel => "--log-level"
  | .version => "--version"
  | .help => "--help"
  | .workers => "--workers"
  | .formatter => "--formatter"
  | .dryRun => "--dry-run"
  | .directories => "[DIRECTORIES]..."

/-- The short form of an option. -/
def short? (p : Parameter) : Option String := p.letter?.map fun c => String.ofList ['-', c]

/-- The forms of a parameter. -/
def forms (p : Parameter) : List String := p.short?.toList ++ [p.long]

/-- What stands for the value of an option; an option without one takes no value. -/
def value? : Parameter → Option String
  | .config => some "FILE"
  | .logLevel => some "LEVEL"
  | .workers => some "INTEGER RANGE"
  | .formatter => some ("[" ++ "|".intercalate Settings.formatters ++ "]")
  | _ => none

/-- What an option does. -/
def purpose : Parameter → String
  | .config => "Use this config file instead of searching for embedgen.yaml"
  | .logLevel => "Set log verbosity (" ++ "|".intercalate Settings.logLevels ++ ")"
  | .version => "Show the version and exit."
  | .help => "Show this message and exit."
  | .workers => "Process this many package directories in parallel [x>=1]"
  | .formatter => "gofmt, or check to validate syntax without a Go toolchain"
  | .dryRun => "Print generated source to stdout instead of writing files"
  | .directories => ""

/-- How a parameter is named in complaints about its value. -/
def hint (p : Parameter) : String :=
  " / ".intercalate (p.forms.map fun f => "'" ++ f ++ "'")

end Parameter

end TypeWeave.CommandLine
