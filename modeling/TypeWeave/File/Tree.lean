import TypeWeave.File.Path
import TypeWeave.File.Error

/-!
# File trees

A file tree maps absolute locations to directories, files and links. Operations take paths as
programs write them, walk them part by part, and give back the tree after the operation or the
reason for a refusal. A link at the end of a path is followed by what asks, reads and writes, and is
itself what is listed, moved or removed. A link on the way of a path counts as no directory, as if
links led to files only. Permissions are not modelled. Main statements: what a location holds after
`set` and `erase`.
-/

namespace TypeWeave.File

/-- The names from the root down to a place. -/
abbrev Location := List String

/-- What a location holds. -/
inductive Entry where
  | directory
  | file (bytes : List UInt8)
  /-- A place that can be opened and is neither a directory nor a regular file. -/
  | device
  /-- A symbolic link to a place. -/
  | link (target : Location)
  deriving DecidableEq, Repr

/-- The entries of a file system below its root. -/
structure Tree where
  entries : List (Location × Entry)
  deriving DecidableEq, Repr

namespace Tree

/-- The tree with a root only. -/
def empty : Tree := ⟨[]⟩

/-- What a location holds; the root is always a directory. -/
def get? (t : Tree) (l : Location) : Option Entry :=
  if l = [] then some .directory else t.entries.lookup l

/-- Put an entry at a location. -/
def set (t : Tree) (l : Location) (e : Entry) : Tree :=
  ⟨(l, e) :: t.entries.filter (·.1 != l)⟩

/-- Remove the entry at a location. -/
def erase (t : Tree) (l : Location) : Tree := ⟨t.entries.filter (·.1 != l)⟩

/-- The names in a directory. -/
def children (t : Tree) (l : Location) : List String :=
  t.entries.filterMap fun (k, _) => if k.dropLast = l then k.getLast? else none

/-- Looking up in a list without the entries of one key. -/
theorem lookup_filter_ne {entries : List (Location × Entry)} {k l : Location} (h : k ≠ l) :
    (entries.filter (·.1 != l)).lookup k = entries.lookup k := by
  induction entries with
  | nil => rfl
  | cons x xs ih =>
    obtain ⟨k', e⟩ := x
    by_cases hl : k' = l
    · subst hl
      simp [List.lookup_cons, ih, beq_eq_false_iff_ne.2 h]
    · by_cases hk : k = k'
      · subst hk; simp [hl]
      · simp [hl, List.lookup_cons, beq_eq_false_iff_ne.2 hk, ih]

/-- No entry of a key is left once they are filtered out. -/
theorem lookup_filter_self (entries : List (Location × Entry)) (l : Location) :
    (entries.filter (·.1 != l)).lookup l = none := by
  induction entries with
  | nil => rfl
  | cons x xs ih =>
    obtain ⟨k', e⟩ := x
    by_cases hl : k' = l
    · subst hl; simp [ih]
    · simp [hl, List.lookup_cons, beq_eq_false_iff_ne.2 (Ne.symm hl), ih]

/-- A location holds what was put there. -/
theorem get?_set_self {t : Tree} {l : Location} {e : Entry} (h : l ≠ []) :
    (t.set l e).get? l = some e := by
  simp [get?, set, h]

/-- Putting an entry leaves the other locations alone. -/
theorem get?_set_of_ne {t : Tree} {k l : Location} {e : Entry} (h : k ≠ l) :
    (t.set l e).get? k = t.get? k := by
  simp only [get?, set]
  split
  · rfl
  · rw [List.lookup_cons, beq_eq_false_iff_ne.2 h]; exact lookup_filter_ne h

/-- A location is empty after its entry was removed. -/
theorem get?_erase_self {t : Tree} {l : Location} (h : l ≠ []) : (t.erase l).get? l = none := by
  simp only [get?, erase, h, if_false]
  exact lookup_filter_self ..

/-- Removing an entry leaves the other locations alone. -/
theorem get?_erase_of_ne {t : Tree} {k l : Location} (h : k ≠ l) :
    (t.erase l).get? k = t.get? k := by
  simp only [get?, erase]
  split
  · rfl
  · exact lookup_filter_ne h

/-- Removing an entry that was put into a free location gives the tree back. -/
theorem erase_set_of_get?_eq_none {t : Tree} {l : Location} {e : Entry} (h : t.get? l = none) :
    (t.set l e).erase l = t := by
  have hl : l ≠ [] := by rintro rfl; simp [get?] at h
  simp only [get?, hl, if_false] at h
  have hmem : ∀ x ∈ t.entries, (x.1 != l) = true := by
    intro x hx
    simp only [bne_iff_ne, ne_eq]
    intro he
    have := List.lookup_eq_none_iff.1 h x hx
    simp [he] at this
  obtain ⟨entries⟩ := t
  simp only [set, erase, mk.injEq, List.filter_cons, bne_self_eq_false, Bool.false_eq_true,
    if_false, List.filter_filter, Bool.and_self]
  exact List.filter_eq_self.2 hmem

end Tree

/-- The bytes of the longest name. -/
def maxNameBytes : Nat := 255

/-- The bytes of the longest path. -/
def maxPathBytes : Nat := 4095

/-- One directory deeper: a name must not be too long, and its place must be a directory. -/
def Tree.descend (t : Tree) (here : Location) (part : String) : Except Refusal Location :=
  match t.get? here with
  | some .directory =>
    if part == ".." then .ok here.dropLast
    else if maxNameBytes < part.utf8ByteSize then .error .nameTooLong
    else .ok (here ++ [part])
  | some _ => .error .notDirectory
  | none => .error .notFound

/-- Walk the parts of a path from a location; the last part need not exist. -/
def Tree.walk (t : Tree) (here : Location) : List String → Except Refusal Location
  | [] => .ok here
  | part :: parts =>
    match t.descend here part with
    | .ok next => t.walk next parts
    | .error r => .error r

/-- The most links that are followed one after another. -/
def maxLinks : Nat := 40

/-- The place at the end of the links that start at a place, of which at most `n` are followed. -/
def Tree.followAtMost (t : Tree) : Nat → Location → Except Refusal Location
  | 0, l =>
    match t.get? l with
    | some (.link _) => .error .tooManyLinks
    | _ => .ok l
  | n + 1, l =>
    match t.get? l with
    | some (.link k) => t.followAtMost n k
    | _ => .ok l

/-- The place at the end of the links that start at a place. -/
def Tree.follow (t : Tree) (l : Location) : Except Refusal Location := t.followAtMost maxLinks l

/-- The place that a path names, whether or not anything is there: links on its way are followed,
and two dots take away the name before them. -/
def Tree.real (t : Tree) (here : Location) : List String → Location
  | [] => here
  | part :: parts =>
    if part == ".." then t.real here.dropLast parts
    else
      match t.follow (here ++ [part]) with
      | .ok next => t.real next parts
      | .error _ => t.real (here ++ [part]) parts

/-- A file tree with a current directory. -/
structure Workspace where
  tree : Tree
  here : Location
  deriving DecidableEq, Repr

namespace Workspace

/-- The location that a path names. A link at its end is not followed. -/
def locate (w : Workspace) (p : Path) : Except Refusal Location :=
  w.tree.walk (if p.isAbsolute then [] else w.here) p.parts

/-- The location that a path names when a link at its end is followed. -/
def reach (w : Workspace) (p : Path) : Except Refusal Location :=
  match w.locate p with
  | .error r => .error r
  | .ok l => w.tree.follow l

/-- What a path names. -/
def probe (w : Workspace) (p : Path) : Except Refusal Entry :=
  match w.reach p with
  | .error r => .error r
  | .ok l =>
    match w.tree.get? l with
    | some e => .ok e
    | none => .error .notFound

/-- Probe a path for a property; a path that leads nowhere has none, and one that holds a NUL
character names nothing. -/
def test (w : Workspace) (q : Entry → Bool) (p : Path) : Except Error Bool :=
  if p.text.toList.contains '\x00' then .ok false
  else
    match w.probe p with
    | .ok e => .ok (q e)
    | .error r => if r.isAbsence then .ok false else .error { refusal := r, path := p.text }

/-- Whether a path names anything. It is asked for paths with the whole way from the root, which
may be longer than any path that the system takes. -/
def pathExists (w : Workspace) (p : Path) : Except Error Bool :=
  if p.text.toList.contains '\x00' then .ok false
  else if maxPathBytes < p.text.utf8ByteSize then
    .error { refusal := .nameTooLong, path := p.text }
  else w.test (fun _ => true) p

/-- Whether a path names a regular file. -/
def isFile (w : Workspace) (p : Path) : Except Error Bool :=
  w.test (fun e => match e with | .file _ => true | _ => false) p

/-- Whether a path names a directory. -/
def isDirectory (w : Workspace) (p : Path) : Except Error Bool :=
  w.test (· == .directory) p

/-- The bytes of a file. -/
def read (w : Workspace) (p : Path) : Except Error (List UInt8) :=
  match w.probe p with
  | .ok (.file bytes) => .ok bytes
  | .ok .directory => .error { refusal := .isDirectory, path := p.text }
  | .ok _ => .ok []
  | .error r => .error { refusal := r, path := p.text }

/-- Write a file, replacing its bytes. -/
def write (w : Workspace) (p : Path) (bytes : List UInt8) : Except Error Workspace :=
  match w.reach p with
  | .error r => .error { refusal := r, path := p.text }
  | .ok l =>
    match w.tree.get? l with
    | some .directory => .error { refusal := .isDirectory, path := p.text }
    | some .device => .ok w
    | _ =>
      if p.parts.isEmpty then .error { refusal := .isDirectory, path := p.text }
      else .ok { w with tree := w.tree.set l (.file bytes) }

/-- Remove a file. -/
def unlink (w : Workspace) (p : Path) : Except Error Workspace :=
  match w.locate p with
  | .error r => .error { refusal := r, path := p.text }
  | .ok l =>
    match w.tree.get? l with
    | none => .error { refusal := .notFound, path := p.text }
    | some .directory => .error { refusal := .isDirectory, path := p.text }
    | some _ => .ok { w with tree := w.tree.erase l }

/-- The names in the directory that a path names, in code-point order; nothing when the path
names no directory. -/
def list (w : Workspace) (p : Path) : Except Error (List String) :=
  match w.isDirectory p with
  | .error e => .error e
  | .ok false => .ok []
  | .ok true =>
    match w.locate p with
    | .error _ => .ok []
    | .ok l => .ok ((w.tree.children l).mergeSort (· ≤ ·))

/-- The absolute path that a path names, with the slashes that it starts with. -/
def absolute (w : Workspace) (p : Path) : Path := p.absolute w.here

/-- The absolute path by which the place that a path names is known. -/
def resolve (w : Workspace) (p : Path) : Path :=
  ⟨.root, w.tree.real (if p.isAbsolute then [] else w.here) p.parts⟩

end Workspace

end TypeWeave.File
