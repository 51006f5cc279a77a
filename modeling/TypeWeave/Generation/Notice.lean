import TypeWeave.File.Path
import TypeWeave.Log.Level

/-!
# Notices

What generation reports while it works.
-/

namespace TypeWeave.Generation

/-- Something that happened. -/
inductive Notice where
  | started (directory : File.Path)
  | scanned (files : Nat) (directory : File.Path) (declarations : Nat)
  | withoutBindings (directory : File.Path)
  | wrote (file : File.Path) (bindings : Nat)
  /-- A file where output would go was not generated, and stays. -/
  | left (file : File.Path)
  | removed (file : File.Path)
  | finished (directories failed : Nat)
  deriving DecidableEq, Repr

namespace Notice

/-- How grave a notice is. -/
def level : Notice → Log.Level
  | .left _ => .warning
  | _ => .info

/-- The words of a notice. -/
def message : Notice → String
  | .started d => "Generating " ++ d.text
  | .scanned files d declarations =>
    "Scanned " ++ toString files ++ " files in " ++ d.text ++ ": " ++ toString declarations ++
      " declarations"
  | .withoutBindings d => "No template bindings in " ++ d.text
  | .wrote file bindings => "Wrote " ++ file.text ++ " (" ++ toString bindings ++ " bindings)"
  | .left file => "Leaving " ++ file.text ++ ": it has no generated-code marker"
  | .removed file => "Removed stale " ++ file.text
  | .finished directories failed =>
    "Processed " ++ toString directories ++ " directories, " ++ toString failed ++ " failed"

end Notice

end TypeWeave.Generation
