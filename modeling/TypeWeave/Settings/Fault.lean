import TypeWeave.File.Error
import TypeWeave.File.Path
import TypeWeave.Settings.Reading

/-!
# Why settings are refused

Some causes are told to the user as faults in the configuration; the others are not expected, and end
the program.
-/

namespace TypeWeave.Settings

/-- The causes. -/
inductive Fault where
  /-- A configuration file that was asked for is not there. -/
  | missing (file : File.Path)
  /-- A configuration file that is no document. -/
  | malformed (file : File.Path) (fault : Yaml.Fault)
  /-- A configuration file that holds something other than a mapping. -/
  | notMapping (file : File.Path) (kind : String)
  /-- Values that break rules, and names that nothing stands for. -/
  | invalid (complaints : List Complaint)
  /-- A value in a configuration file that cannot be read. -/
  | unreadable (fault : Yaml.Fault)
  /-- A configuration file that is not text. -/
  | undecodable (place : Text.Utf8.Malformed)
  /-- A variable whose text cannot be read as a list. -/
  | variable (field : Field)
  /-- A key in a configuration file that is no text. -/
  | keyNotText
  /-- A refusal of the file system. -/
  | file (error : File.Error)
  deriving DecidableEq, Repr

namespace Fault

/-- Whether a fault is told to the user as one in the configuration. -/
def isConfiguration : Fault → Bool
  | .missing _ | .malformed _ _ | .notMapping _ _ | .invalid _ => true
  | _ => false

/-- A complaint on one line. -/
def line (separator : String) (c : Complaint) : String :=
  separator.intercalate c.path ++ ": " ++ c.text

/-- The complaints about a single value, on one line. -/
def onOneLine (complaints : List Complaint) : String :=
  "; ".intercalate (complaints.map (line "."))

/-- The words for a fault. -/
def message : Fault → String
  | .missing p => "Config file not found: " ++ p.text
  | .malformed p fault =>
    "Invalid YAML in config file: " ++ p.text ++ "\nError at " ++ fault.location ++ ": " ++
      fault.message p.text
  | .notMapping p kind =>
    "Config file " ++ p.text ++ " must contain a mapping, got " ++ kind
  | .invalid complaints =>
    "Invalid configuration:\n  " ++ "\n  ".intercalate (complaints.map (line " → "))
  | .unreadable fault => fault.message ""
  | .undecodable place => place.message
  | .variable f =>
    "error parsing value for field \"" ++ f.name ++ "\" from source \"EnvSettingsSource\""
  | .keyNotText => "keywords must be strings"
  | .file e => e.message

end Fault

end TypeWeave.Settings
