import TypeWeave.Text.Quoted

/-!
# Refused file operations

Why the file system refuses an operation, with the paths that the refusal names.
-/

namespace TypeWeave.File

/-- The reason for a refusal. -/
inductive Refusal where
  | notFound
  | denied
  | busy
  | exists
  | notDirectory
  | isDirectory
  | invalid
  | nameTooLong
  | tooManyLinks
  deriving DecidableEq, Repr

namespace Refusal

/-- The number of a reason. -/
def number : Refusal → Nat
  | .notFound => 2
  | .denied => 13
  | .busy => 16
  | .exists => 17
  | .notDirectory => 20
  | .isDirectory => 21
  | .invalid => 22
  | .nameTooLong => 36
  | .tooManyLinks => 40

/-- The words for a reason. -/
def text : Refusal → String
  | .notFound => "No such file or directory"
  | .denied => "Permission denied"
  | .busy => "Device or resource busy"
  | .exists => "File exists"
  | .notDirectory => "Not a directory"
  | .isDirectory => "Is a directory"
  | .invalid => "Invalid argument"
  | .nameTooLong => "File name too long"
  | .tooManyLinks => "Too many levels of symbolic links"

/-- Refusals that say that a path leads nowhere, and count as absence when a path is probed. -/
def isAbsence : Refusal → Bool
  | .notFound | .notDirectory | .tooManyLinks => true
  | _ => false

end Refusal

/-- A refused operation on a path, or from one path to another. -/
structure Error where
  refusal : Refusal
  path : String
  target : Option String := none
  deriving DecidableEq, Repr

/-- The message of a refused operation. -/
def Error.message (e : Error) : String :=
  let target := match e.target with
    | some t => " -> " ++ Text.quoted t
    | none => ""
  "[Errno " ++ toString e.refusal.number ++ "] " ++ e.refusal.text ++ ": " ++
    Text.quoted e.path ++ target

end TypeWeave.File
