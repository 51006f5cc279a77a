import TypeWeave.Text.LetterCase

/-!
# Log levels

How grave a log message is, and which messages a chosen verbosity shows.
-/

namespace TypeWeave.Log

/-- The levels, gravest last. -/
inductive Level where
  | debug
  | info
  | warning
  | error
  deriving DecidableEq, Repr

namespace Level

/-- The number of a level; a message is shown if its number reaches that of the threshold. -/
def number : Level → Nat
  | .debug => 10
  | .info => 20
  | .warning => 30
  | .error => 40

/-- The name of a level in front of its messages. -/
def name : Level → String
  | .debug => "DEBUG"
  | .info => "INFO"
  | .warning => "WARNING"
  | .error => "ERROR"

/-- The words for thresholds: those for verbosity and the names of the levels themselves. -/
def words : List (String × Level) :=
  [("quiet", .error), ("normal", .warning), ("verbose", .info), ("debug", .debug),
    ("error", .error), ("warning", .warning), ("info", .info)]

/-- The threshold of a word in any letter case; an unknown word means warnings. -/
def ofWord (word : String) : Level :=
  (words.lookup (String.ofList (Text.lower word.toList))).getD .warning

/-- Whether a threshold shows a message. -/
def shows (threshold message : Level) : Bool := threshold.number ≤ message.number

end Level

/-- The state of the log: the threshold of the log as a whole and those of its outlets. -/
structure Setup where
  threshold : Level
  outlets : List Level
  deriving DecidableEq, Repr

/-- Set the threshold. The first call opens an outlet; later ones change the outlets there are. -/
def configure (level : Level) (before : List Level) : Setup :=
  ⟨level, if before.isEmpty then [level] else before.map fun _ => level⟩

end TypeWeave.Log
