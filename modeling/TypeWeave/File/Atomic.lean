import TypeWeave.File.Tree

/-!
# Replacing a file at once

A file is replaced by writing a temporary file beside it and moving that over it. Each of the three
steps may be refused by the tree or by a hazard that the tree knows nothing of; a refused
replacement leaves no temporary file.
-/

namespace TypeWeave.File

namespace Workspace

/-- Move a file, replacing what the target holds. -/
def move (w : Workspace) (source target : Path) : Except Error Workspace :=
  let refuse (r : Refusal) : Except Error Workspace :=
    .error { refusal := r, path := source.text, target := some target.text }
  match w.locate source, w.locate target with
  | .error r, _ => refuse r
  | _, .error r => refuse r
  | .ok s, .ok t =>
    match w.tree.get? s, w.tree.get? t with
    | none, _ => refuse .notFound
    | some .directory, _ => refuse .isDirectory
    | some e, old =>
      if target.name == "" || target.name == ".." then refuse .busy
      else if old == some .directory then refuse .isDirectory
      else .ok { w with tree := (w.tree.erase s).set t e }

end Workspace

namespace Atomic

/-- Refusals from outside the tree, one for each step. A write may be cut off after some bytes. -/
structure Hazards where
  create : Option Refusal := none
  write : Option (Nat × Refusal) := none
  move : Option Refusal := none
  deriving DecidableEq, Repr

/-- No refusals from outside. -/
def Hazards.none : Hazards := {}

/-- Tags for the names of temporary files. -/
def tags : List String :=
  "abcdefghijklmnopqrstuvwxyz".toList.map fun c => String.ofList (List.replicate 8 c)

/-- The name of a temporary file for a file. -/
def temporaryName (name tag : String) : String := "." ++ name ++ "." ++ tag ++ ".tmp"

/-- Create an empty file under the first of some tags that gives a free name. -/
def create (w : Workspace) (directory : Path) (name : String) :
    List String → Except Error (Workspace × Path)
  | [] => .error { refusal := .exists, path := directory.text }
  | tag :: tags =>
    let p := directory.child (temporaryName name tag)
    match w.locate p with
    | .error r => .error { refusal := r, path := p.text }
    | .ok l =>
      match w.tree.get? l with
      | some _ => create w directory name tags
      | none => .ok ({ w with tree := w.tree.set l (.file []) }, p)

/-- Write to the temporary file and move it over the target. The first part says whether that went
well; the second is the tree after it, in which a temporary file that was left behind is still to
be removed. -/
def fill (h : Hazards) (w : Workspace) (temporary target : Path) (bytes : List UInt8) :
    Except Error Unit × Workspace :=
  let cut := match h.write with
    | some (n, _) => bytes.take n
    | none => bytes
  match w.write temporary cut with
  | .error e => (.error e, w)
  | .ok w =>
    match h.write with
    | some (_, r) => (.error { refusal := r, path := temporary.text }, w)
    | none =>
      match h.move with
      | some r =>
        (.error { refusal := r, path := temporary.text, target := some target.text }, w)
      | none =>
        match w.move temporary target with
        | .error e => (.error e, w)
        | .ok w => (.ok (), w)

/-- Remove a temporary file if it is still there. -/
def discard (w : Workspace) (temporary : Path) : Workspace :=
  match w.unlink temporary with
  | .ok w => w
  | .error _ => w

/-- Replace a file, with the tree afterwards. The tags are tried in turn for the name of the
temporary file. -/
def replace (h : Hazards) (tags : List String) (w : Workspace) (target : Path)
    (bytes : List UInt8) : Except Error Unit × Workspace :=
  let directory := w.absolute target.parent
  match h.create with
  | some r => (.error { refusal := r, path := directory.text }, w)
  | none =>
    match create w directory target.name tags with
    | .error e => (.error e, w)
    | .ok (created, temporary) =>
      match fill h created temporary target bytes with
      | (.ok (), w) => (.ok (), w)
      | (.error e, w) => (.error e, discard w temporary)

end Atomic

end TypeWeave.File
