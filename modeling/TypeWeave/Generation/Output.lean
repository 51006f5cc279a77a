import TypeWeave.Failure
import TypeWeave.File.Atomic
import TypeWeave.Go.Marker
import TypeWeave.Text.Utf8

/-!
# Output files

Writing a generated file at once, and removing one that nothing asks for any more. Only files with
the marker of generated code are removed.
-/

namespace TypeWeave.Generation.Output

/-- What writing depends on besides the file tree: refusals from outside and the tags that
temporary files may have. -/
structure Writer where
  hazards : File.Atomic.Hazards := {}
  tags : List String := File.Atomic.tags
  deriving DecidableEq, Repr

/-- Replace the text of a file, with the tree afterwards. -/
def write (writer : Writer) (ws : File.Workspace) (target : File.Path) (text : String) :
    Except Failure Unit × File.Workspace :=
  if target.text.toList.contains '\x00' then (.error .embeddedNul, ws)
  else
    let (result, ws) :=
      File.Atomic.replace writer.hazards writer.tags ws target (Text.Utf8.encode text.toList)
    (result.mapError Failure.file, ws)

/-- What became of a file that is not needed any more. -/
inductive Stale where
  /-- There was no such file. -/
  | absent
  /-- It was not generated, and stays. -/
  | kept
  | removed
  deriving DecidableEq, Repr

/-- Remove an output file from an earlier run, with the tree afterwards. -/
def removeStale (ws : File.Workspace) (target : File.Path) :
    Except File.Error (Stale × File.Workspace) := do
  if !(← ws.isFile target) then return (.absent, ws)
  let bytes ← ws.read target
  if !Go.Marker.isGenerated (Text.Utf8.decodeLossy bytes) then return (.kept, ws)
  return (.removed, ← ws.unlink target)

end TypeWeave.Generation.Output
