import TypeWeave.Text.Quoted
import TypeWeave.Yaml.Cursor

/-!
# Faults in YAML text

Why a text is no YAML document or holds a value that cannot be read.
-/

namespace TypeWeave.Yaml

/-- The causes. -/
inductive Fault where
  /-- A document that is not well formed, or a tag that nothing stands for. -/
  | problem (text : String) (place : Place)
  /-- A character that no document may hold, by its code and its offset. -/
  | unprintable (code position : Nat)
  /-- A number or date that does not read as one. -/
  | misread (text : String)
  /-- A number without digits. -/
  | noDigits
  /-- A word that is no truth value. -/
  | unknownWord (word : String)
  /-- A text that has not the form of a date. -/
  | noDate
  deriving DecidableEq, Repr

namespace Fault

/-- Whether a fault is one of the text as a document, and is told with its place. -/
def isDocument : Fault → Bool
  | .problem _ _ | .unprintable _ _ => true
  | _ => false

/-- Where a fault is, in words. -/
def location : Fault → String
  | .problem _ p => "line " ++ toString (p.line + 1) ++ ", column " ++ toString (p.column + 1)
  | _ => "unknown location"

/-- The words for a fault in the text of a given name. -/
def message (name : String) : Fault → String
  | .problem text _ => text
  | .unprintable code position =>
    "unacceptable character #x" ++ String.ofList (Text.hexDigits 4 code) ++
      ": special characters are not allowed\n  in \"" ++ name ++ "\", position " ++
      toString position
  | .misread text => text
  | .noDigits => "string index out of range"
  | .unknownWord word => Text.quoted word
  | .noDate => "'NoneType' object has no attribute 'groupdict'"

end Fault

end TypeWeave.Yaml
