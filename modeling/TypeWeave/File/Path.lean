import TypeWeave.Text.Search

/-!
# Paths

A path is an anchor and a list of parts. Reading a path drops empty parts and parts that are a
single dot, and keeps parts that are two dots, so that a path prints in one way only.
-/

namespace TypeWeave.File

/-- Where a path starts. -/
inductive Anchor where
  | relative
  | root
  /-- Exactly two leading slashes, which are kept apart from one. -/
  | doubleRoot
  deriving DecidableEq, Repr

/-- The text of an anchor. -/
def Anchor.text : Anchor → String
  | .relative => ""
  | .root => "/"
  | .doubleRoot => "//"

/-- A path; no part is empty, a single dot or holds a slash. -/
structure Path where
  anchor : Anchor
  parts : List String
  deriving DecidableEq, Repr

namespace Path

/-- The current directory. -/
def current : Path := ⟨.relative, []⟩

/-- The anchor that a text starts with. -/
def anchorOf : List Char → Anchor
  | '/' :: '/' :: '/' :: _ => .root
  | '/' :: '/' :: _ => .doubleRoot
  | '/' :: _ => .root
  | _ => .relative

/-- Read a path. -/
def ofString (s : String) : Path :=
  let parts := (Text.splitOn ['/'] s.toList).map String.ofList
  ⟨anchorOf s.toList, parts.filter fun p => p != "" && p != "."⟩

/-- Parts joined by slashes. -/
def joinParts (parts : List String) : String :=
  String.ofList (Text.intercalate ['/'] (parts.map String.toList))

/-- The text of a path; the empty relative path is a dot. -/
def text (p : Path) : String :=
  match p.anchor, p.parts with
  | .relative, [] => "."
  | a, parts => a.text ++ joinParts parts

/-- Whether a path is independent of the current directory. -/
def isAbsolute (p : Path) : Bool := p.anchor != .relative

/-- A path seen from a directory. -/
def join (d p : Path) : Path :=
  if p.isAbsolute then p else ⟨d.anchor, d.parts ++ p.parts⟩

/-- The path of a named file in a directory. -/
def child (d : Path) (name : String) : Path := d.join (ofString name)

/-- The directory of a path; that of a lone anchor is itself. -/
def parent (p : Path) : Path := ⟨p.anchor, p.parts.dropLast⟩

/-- The last part, empty for a lone anchor. -/
def name (p : Path) : String := p.parts.getLast?.getD ""

/-- Put a part before the parts behind it; two dots take away the part that they follow. -/
def push (behind : List String) (p : String) : List String :=
  if p == ".." then behind.drop 1 else p :: behind

/-- Remove parts that are two dots together with the part before each. -/
def collapse (parts : List String) : List String := (parts.foldl push []).reverse

/-- A path made absolute by its text alone, `here` being the parts of the current directory. It
names the same place when no link is in its way. -/
def absolute (here : List String) (p : Path) : Path :=
  if p.isAbsolute then ⟨p.anchor, collapse p.parts⟩ else ⟨.root, collapse (here ++ p.parts)⟩

end Path

end TypeWeave.File
