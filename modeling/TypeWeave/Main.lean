import TypeWeave.Command.Shell
import TypeWeave.CommandLine.Program

/-!
# The executable

Reads what a call can see into a file tree, carries the call out, and puts what it changed back. Only
the files below the current directory and below the arguments are seen, and the project files of the
directories above. Links are seen as what they lead to.
-/

namespace TypeWeave.Executable

/-- A location as the system's functions take it. -/
def onDisk (l : File.Location) : IO.FS.DirEntry := ⟨"", "/".intercalate l⟩

/-- Put what stands at a location and below it into a tree, with `depth` bounding the levels. -/
def gather (depth : Nat) (tree : File.Tree) (l : File.Location) : IO File.Tree := do
  match depth with
  | 0 => return tree
  | depth + 1 =>
    let entry := onDisk l
    if ← entry.path.isDir then
      let names := (← entry.path.readDir).toList.map fun e => e.fileName
      names.foldlM (fun t name => gather depth t (l ++ [name])) (tree.set l .directory)
    else
      try
        return tree.set l (.file (← IO.FS.readBinFile entry.path).toList)
      catch _ => return tree

/-- Put the directories on the way to a location into a tree, with their project files. -/
def gatherAbove (tree : File.Tree) (l : File.Location) : IO File.Tree :=
  (List.range l.length).foldlM (fun tree n => do
    let tree := if n = 0 then tree else tree.set (l.take n) .directory
    gather 1 tree (l.take n ++ [Settings.Project.fileName])) tree

/-- The levels of directories that are read. -/
def maxDepth : Nat := 64

/-- The part of the file tree that a call with some arguments can see. -/
def gatherFor (arguments : List String) : IO File.Workspace := do
  let here := (File.Path.ofString (← IO.currentDir).toString).parts
  let named := arguments.map fun a => ((File.Path.ofString a).absolute here).parts
  let tree ← (here :: named).foldlM (fun tree l => do
    gather maxDepth (← gatherAbove tree l) l) File.Tree.empty
  return ⟨tree, here⟩

/-- The variables of the process that the program looks at. -/
def environment : IO Settings.Project.Environment := do
  let names := Settings.Project.directoryVariable ::
    Settings.Field.all.map fun f => (Settings.variableLead ++ f.name).toUpper
  let found ← names.mapM fun n => do return (← IO.getEnv n).map fun v => (n, v)
  return found.filterMap id

/-- Put the files that differ between two trees back. -/
def store (before after : File.Tree) : IO Unit := do
  for (l, e) in after.entries do
    match e with
    | .file bytes =>
      if before.get? l != some e then IO.FS.writeBinFile (onDisk l).path ⟨bytes.toArray⟩
    | _ => pure ()
  for (l, e) in before.entries do
    match e, after.get? l with
    | .file _, none => IO.FS.removeFile (onDisk l).path
    | _, _ => pure ()

/-- The words for a failure that the program does not tell itself. -/
def escapeText : CommandLine.Escape → String
  | .settings f => f.message
  | .failure f => f.message
  | .markup f => f.message

end TypeWeave.Executable

/-- Carry out a call of the program. -/
def main (arguments : List String) : IO UInt32 := do
  let workspace ← TypeWeave.Executable.gatherFor arguments
  let ended := TypeWeave.CommandLine.Call.run {
    arguments := arguments
    workspace := workspace
    environment := ← TypeWeave.Executable.environment
    runner := TypeWeave.Command.Shell.runner workspace }
  TypeWeave.Executable.store workspace.tree ended.workspace.tree
  IO.print ended.screen.out
  IO.eprint ended.screen.err
  if let some e := ended.escaped then
    IO.eprintln (TypeWeave.Executable.escapeText e)
  return ended.exit.code.toUInt32
