import TypeWeave.Generation.Directory

/-!
# Generating for several directories

Directories share nothing: what fails in one is recorded in its result, and the results come in the
order of the directories. Only a failure that belongs to no directory ends a run.
-/

namespace TypeWeave.Generation

/-- What a run came to, with the file tree and the notices that it leaves. -/
structure Report where
  results : Except Failure (List Result)
  workspace : File.Workspace
  notices : List Notice
  /-- Whether the signal to skip directories was given. -/
  aborted : Bool

/-- The failure that a result records. A refusal of the file system is told with its directory. -/
def recorded (dir : File.Path) : Failure → Failure
  | .file e => .generation (dir.text ++ ": " ++ e.message)
  | f => f

/-- Generate for one directory, keeping what fails there in the result. -/
def isolated (p : Plan) (dryRun aborted : Bool) (ws : File.Workspace) (dir : File.Path) : Outcome :=
  if aborted then
    let f := Failure.aborted (dir.text ++ ": aborted")
    ⟨.ok { directory := dir, failure := some f }, ws, []⟩
  else
    let o := directory p dryRun ws dir
    match o.result with
    | .error f =>
      if f.isReported then
        { o with result := .ok { directory := dir, failure := some (recorded dir f) } }
      else o
    | .ok _ => o

/-- Generate for directories in order. A failure that belongs to no directory stops the ones behind
it unless they run side by side. -/
def each (p : Plan) (dryRun aborted sideBySide : Bool) (ws : File.Workspace) :
    List File.Path → Except Failure (List Result) × File.Workspace × List Notice
  | [] => (.ok [], ws, [])
  | dir :: dirs =>
    let o := isolated p dryRun aborted ws dir
    match o.result with
    | .error f =>
      if sideBySide then
        let (_, ws, notices) := each p dryRun aborted sideBySide o.workspace dirs
        (.error f, ws, o.notices ++ notices)
      else (.error f, o.workspace, o.notices)
    | .ok r =>
      let (rs, ws, notices) := each p dryRun aborted sideBySide o.workspace dirs
      (rs.map (r :: ·), ws, o.notices ++ notices)

/-- Generate for some directories. With more than one worker they run side by side, and a user's
request to stop then gives the signal to skip. -/
def run (p : Plan) (workers : Int) (dryRun aborted : Bool) (ws : File.Workspace)
    (dirs : List File.Path) : Report :=
  let sideBySide := 1 < workers && 1 < dirs.length
  let (results, ws, notices) := each p dryRun aborted sideBySide ws dirs
  match results with
  | .error f => ⟨.error f, ws, notices, aborted || (sideBySide && f == .interrupted)⟩
  | .ok rs =>
    let failed := (rs.filter fun r => !r.succeeded).length
    ⟨.ok rs, ws, notices ++ [.finished rs.length failed], aborted⟩

end TypeWeave.Generation
