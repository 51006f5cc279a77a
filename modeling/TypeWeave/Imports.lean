import TypeWeave.Template.Access

/-!
# Imports of a generated file

The import paths that templates ask for. Each path is kept once and in order, whatever the order of
the requests; a request that is no text or blank is refused.
-/

namespace TypeWeave

/-- The import paths of one generated file, in order and without repetition. -/
structure Imports where
  paths : List String
  deriving DecidableEq, Repr

namespace Imports

open Template

/-- No imports. -/
def empty : Imports := ⟨[]⟩

/-- Put a path in its place. -/
def insertInto (path : String) : List String → List String
  | [] => [path]
  | p :: ps =>
    match compareChars path.toList p.toList with
    | .lt => path :: p :: ps
    | .eq => p :: ps
    | .gt => p :: insertInto path ps

/-- Add a path. -/
def insert (i : Imports) (path : String) : Imports := ⟨insertInto path i.paths⟩

/-- Add the path of a request, without the blanks around it. -/
def register (i : Imports) (request : Value) : Eval Imports := do
  match request with
  | .text s _ =>
    if Text.blank s then Eval.fault .value ("invalid import path: " ++ (← Eval.inspect request))
    else return i.insert (Text.strip s)
  | v => Eval.fault .value ("invalid import path: " ++ (← Eval.inspect v))

/-- Add the paths of requests up to the first one that is refused. -/
def registerAll (i : Imports) : List Value → Eval (Imports × Option Fault)
  | [] => return (i, none)
  | v :: vs => fun s =>
    match (i.register v).run s with
    | .ok (i, s) => (registerAll i vs).run s
    | .error f => .ok ((i, some f), s)

/-- Whether a request is taken. -/
def isRequest : Value → Bool
  | .text s _ => !Text.blank s
  | _ => false

/-- Leave the items behind the first one that is refused where they were, if they are read once. -/
def leaveUnread (requests : Value) (vs : List Value) (failure : Option Fault) : Eval Unit :=
  modify fun s =>
    match requests with
    | .cursor r =>
      match s.cells[r]? with
      | some (.cursor _ _ typeName) =>
        let unread := (vs.dropWhile isRequest).drop 1
        { s with cells := s.cells.setIfInBounds r (.cursor unread failure typeName) }
      | _ => s
    | _ => s

/-- Add the paths of the items of a value up to the first one that is refused. -/
def extend (i : Imports) (requests : Value) : Eval (Imports × Option Fault) := do
  let (vs, failure) ← Eval.source requests
  let (i, refused) ← i.registerAll vs
  match refused with
  | none => return (i, failure)
  | some f => do
    leaveUnread requests vs failure
    return (i, some f)

/-- Whether a value is among the paths. -/
def contains (i : Imports) (v : Value) : Eval Bool := do
  Eval.checkKey 100 v
  match v with
  | .text s _ => return i.paths.contains s
  | _ => return false

end Imports

end TypeWeave
