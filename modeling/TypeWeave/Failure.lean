import TypeWeave.File.Error
import TypeWeave.File.Path
import TypeWeave.Template.Fault
import TypeWeave.Text.Lines
import TypeWeave.Text.Quoted
import TypeWeave.Text.Split
import TypeWeave.Text.Utf8

/-!
# Failures

Why generating code for a directory stops, with the words in which each cause is told. A missing
template is not among them: a type may embed whatever it likes.
-/

namespace TypeWeave

/-- The causes. -/
inductive Failure where
  /-- A source file that cannot be read as Go. -/
  | source (file : File.Path) (line column : Int) (detail : String)
  /-- A template that cannot be compiled. -/
  | template (path : File.Path) (diagnostic : String) (line : Option Int)
  /-- A template that fails while it renders for a declaration. -/
  | rendering (declaration template diagnostic : String)
  /-- A fault that is not told as one of a rendering. -/
  | escaped (fault : Template.Fault)
  /-- Assembled source that the formatter refuses. -/
  | format (source diagnostic : String)
  /-- Sources that cannot be read or output that cannot be written. -/
  | generation (message : String)
  /-- Settings or arguments that make no sense. -/
  | configuration (message : String)
  /-- A directory that is skipped because others failed. -/
  | aborted (message : String)
  /-- Any other failure of the program. -/
  | other (message : String)
  /-- A refusal of the file system. -/
  | file (error : File.Error)
  /-- Bytes that should be text and are not. -/
  | undecodable (place : Text.Utf8.Malformed)
  /-- A name with a NUL character, which no system call takes. -/
  | embeddedNul
  /-- The user's request to stop. -/
  | interrupted
  deriving DecidableEq, Repr

namespace Failure

/-- What is wrong with a source file that does not follow the grammar. -/
def syntaxDetail : String := "syntax error"

/-- The lines of a text behind their numbers. -/
def numbered (source : String) : List String :=
  (Text.wideLines source.toList).mapIdx fun i line =>
    String.ofList (Text.padLeft 4 ' ' (toString (i + 1)).toList ++ [' ', ' '] ++ line)

/-- How a failure is told. -/
def message : Failure → String
  | .source path line column detail =>
    path.text ++ ":" ++ toString line ++ ":" ++ toString column ++ ": " ++ detail
  | .template path diagnostic line =>
    let location := match line with
      | some l => if l = 0 then path.text else path.text ++ ":" ++ toString l
      | none => path.text
    location ++ ": template parse error: " ++ diagnostic
  | .rendering declared name diagnostic =>
    "executing template " ++ Text.quoted name ++ " for type " ++ Text.quoted declared ++ ": " ++
      diagnostic
  | .escaped f => f.message
  | .format text diagnostic =>
    "formatting generated source failed: " ++ diagnostic ++ "\n" ++ "\n".intercalate (numbered text)
  | .generation m | .configuration m | .aborted m | .other m => m
  | .file e => e.message
  | .undecodable place => place.message
  | .embeddedNul => "embedded null byte"
  | .interrupted => "interrupted"

/-- Whether a failure belongs to one directory, so that the others can still be done. -/
def isReported : Failure → Bool
  | .escaped _ | .undecodable _ | .embeddedNul | .interrupted => false
  | _ => true

end Failure

end TypeWeave
