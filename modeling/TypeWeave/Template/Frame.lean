import TypeWeave.Template.Names
import TypeWeave.Template.Order

/-!
# Frames and targets

Entering a frame gives each of its names the value that the name table states; reading a name finds
the innermost frame that keeps it; assigning unpacks a value into targets.
-/

namespace TypeWeave.Template

/-- The rules that evaluate expressions, run statements, and apply filters and tests by name, which
call each other. -/
structure Evaluator where
  expr (env : Env) (e : Expr) : Eval Value
  run (env : Env) (body : List Stmt) : Eval String
  filter (env : Env) (name : String) (v : Value) (given : List Value)
    (named : List (String × Value)) : Eval Value
  test (env : Env) (name : String) (v : Value) (given : List Value)
    (named : List (String × Value)) : Eval Bool

namespace Eval

/-- The frames from one outwards, with `fuel` bounding their number. -/
def frames (fuel : Nat) (r : Ref) : Eval (List (Ref × Frame)) :=
  match fuel with
  | 0 => return []
  | fuel + 1 => do
    match ← fetch r with
    | .frame f =>
      match f.parent with
      | some p => return (r, f) :: (← frames fuel p)
      | none => return [(r, f)]
    | _ => return []

/-- The frames from one outwards. -/
def framesFrom (r : Ref) : Eval (List (Ref × Frame)) := do frames (← get).cells.size r

/-- The value of a name in the frames, if one of them keeps it. -/
def keptValue? (fs : List (Ref × Frame)) (n : String) : Option (Option Value) :=
  fs.findSome? fun f => f.2.vars.lookup n

/-- The global value of a name. -/
def globalValue? (scope : Ref) (n : String) : Eval (Option Value) := do
  match ← fetch scope with
  | .scope s => return (s.vars.lookup n).orElse fun _ => s.given.lookup n
  | _ => return none

/-- The absence of a name. -/
def undefinedName (n : String) : Value := .undefined (Text.quoted n ++ " is undefined") false

/-- Read a name. -/
def readName (env : Env) (n : String) : Eval Value := do
  match keptValue? (← framesFrom env.frame) n with
  | some (some v) => return v
  | some none => return undefinedName n
  | none => return (← globalValue? env.scope n).getD (undefinedName n)

/-- Replace or add an entry. -/
def putEntry (entries : List (String × α)) (n : String) (a : α) : List (String × α) :=
  if (entries.lookup n).isSome then entries.map fun e => if e.1 == n then (n, a) else e
  else entries ++ [(n, a)]

/-- Set a name in a frame. -/
def writeName (frame : Ref) (n : String) (v : Option Value) : Eval Unit := do
  match ← fetch frame with
  | .frame f => assign frame (.frame { f with vars := putEntry f.vars n v })
  | _ => return ()

/-- Set a global name, which a template does at its top level. -/
def writeGlobal (env : Env) (n : String) (v : Value) : Eval Unit := do
  if env.topLevel then
    match ← fetch env.scope with
    | .scope s => Eval.assign env.scope (.scope { s with vars := putEntry s.vars n v })
    | _ => return ()

/-- Whether a frame or one around it keeps a name. -/
def keptIn (fs : List (Ref × Frame)) (n : String) : Bool := (keptValue? fs n).isSome

/-- Enter a frame inside the current one; `given` holds the values that it is entered with. -/
def enterFrame (env : Env) (tableOf : (String → Bool) → NameTable)
    (given : List (String × Option Value)) : Eval Env := do
  let fs ← framesFrom env.frame
  let table := tableOf (keptIn fs)
  let vars ← table.entries.mapM fun (n, o) => do
    let v ← match o with
      | .given => pure ((given.lookup n).getD none)
      | .outer => pure ((keptValue? fs n).getD none)
      | .global => globalValue? env.scope n
      | .unset => pure none
    return (n, v)
  let r ← alloc (.frame ⟨vars, some env.frame⟩)
  return { env with frame := r, topLevel := false }

/-- The items of a value that is unpacked into `n` targets. -/
def unpacked (n : Nat) (v : Value) : Eval (List Value) := do
  match v with
  | .text .. | .bytes _ | .tuple _ | .group _ _ | .list _ | .dict _ | .view .. | .range ..
  | .cursor _ | .undefined .. =>
    let vs ← items v
    if vs.length < n then
      fault .value ("not enough values to unpack (expected " ++ toString n ++ ", got " ++
        toString vs.length ++ ")")
    if n < vs.length then
      fault .value ("too many values to unpack (expected " ++ toString n ++ ")")
    return vs
  | v => typeFault ("cannot unpack non-iterable " ++ v.typeName ++ " object")

/-- Set an item of a namespace or dictionary by name. -/
def writeField (object : Value) (n : String) (v : Value) : Eval Unit := do
  match object with
  | .space r =>
    match ← fetch r with
    | .space entries => assign r (.space (putEntry entries n v))
    | _ => return ()
  | .dict r =>
    let entries ← dictEntries r
    let isKey (k : Value) : Bool := match k with
      | .text s _ => s == n
      | _ => false
    let entries := if entries.any (isKey ·.1) then
        entries.map fun e => if isKey e.1 then (e.1, v) else e
      else entries ++ [(.ofString n, v)]
    assign r (.dict entries)
  | .undefined message false => fault .undefined message
  | object =>
    typeFault ("\x27" ++ object.typeName ++ "\x27 object does not support item assignment")

/-- Refuse to write a field of anything but a namespace. -/
def checkFields (env : Env) (t : Target) : Eval Unit := do
  for o in t.objects do
    match ← readName env o with
    | .space _ => pure ()
    | .undefined .. =>
      fault .template "cannot assign attribute on non-namespace object"
    | _ => fault .template "cannot assign attribute on non-namespace object"

/-- Pair targets with values until both end. -/
def pairUp (step : Target → Value → Eval Unit) : List Target → List Value → Eval Unit
  | t :: ts, v :: vs => do
    step t v
    pairUp step ts vs
  | _, _ => return ()

/-- Assign a value to a target in the current frame, with `fuel` bounding how deep targets nest. -/
def assignTargetWith (fuel : Nat) (env : Env) (t : Target) (v : Value) : Eval Unit :=
  match fuel with
  | 0 => return ()
  | fuel + 1 => do
    match t with
    | .name n =>
      writeName env.frame n (some v)
      writeGlobal env n v
    | .field o n => writeField (← readName env o) n v
    | .tuple ts => do
      let vs ← unpacked ts.length v
      pairUp (assignTargetWith fuel env) ts vs

/-- Assign a value to a target in the current frame. -/
def assignTarget (env : Env) (t : Target) (v : Value) : Eval Unit :=
  assignTargetWith t.depth env t v

end Eval

end TypeWeave.Template
