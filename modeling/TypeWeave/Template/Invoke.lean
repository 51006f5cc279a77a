import TypeWeave.Template.Filter.Table
import TypeWeave.Template.Test

/-!
# Calls

What can be called: macros, methods, functions, blocks, joiners, and a recursive loop. A macro takes
its parameters by position or name; parameters left out get their defaults, which are evaluated
inside the macro, and arguments that it has no parameter for are taken only if its body asks for
them.
-/

namespace TypeWeave.Template.Invoke

open Eval

/-- The deepest nesting of calls. -/
def maxDepth : Nat := 240

/-- The surroundings of a call, if calls are not nested too deep. -/
def deeper (env : Env) : Eval Env :=
  if env.depth < maxDepth then return { env with depth := env.depth + 1 }
  else fault .recursion "maximum recursion depth exceeded"

/-- Parameters filled by position, then by name; the named arguments that are left over. -/
def fill : List (String × Option Expr) → List Value → List (String × Value) →
    List (String × Option Value) × List (String × Value)
  | [], _, named => ([], named)
  | (p, _) :: ps, v :: vs, named =>
    let (filled, rest) := fill ps vs named
    ((p, some v) :: filled, rest)
  | (p, _) :: ps, [], named =>
    let (filled, rest) := fill ps [] (named.filter fun e => e.1 != p)
    ((p, named.lookup p) :: filled, rest)

/-- A macro in messages. -/
def macroName (c : Closure) : String :=
  match c.name with
  | some n => Text.quoted n
  | none => "None"

/-- The values that a macro is entered with. -/
def entering (c : Closure) (g : Given) : Eval (List (String × Option Value)) := do
  let count := c.parameters.length
  let (filled, named) := fill c.parameters g.positional g.named
  let explicit := c.parameters.any fun p => p.1 == "caller"
  let (caller, named) := if c.takesCaller && !explicit then
      let v := match named.lookup "caller" with
        | some .none | none => Value.undefined "No caller defined" false
        | some v => v
      ([("caller", some v)], named.filter fun e => e.1 != "caller")
    else ([], named)
  let taken ← if c.takesNamed then do
      pure [("kwargs", some (← newDict (Methods.namedEntries named)))]
    else
      match named with
      | [] => pure []
      | (k, _) :: _ =>
        if named.any fun e => e.1 == "caller" then
          typeFault ("macro " ++ macroName c ++ " was invoked with two values for the special caller " ++
            "argument. This is most likely a bug.")
        else
          typeFault ("macro " ++ macroName c ++ " takes no keyword argument " ++ Text.quoted k)
  let extra := g.positional.drop count
  if !c.takesExtra && !extra.isEmpty then
    typeFault ("macro " ++ macroName c ++ " takes not more than " ++ toString count ++ " argument(s)")
  let extra := if c.takesExtra then [("varargs", some (Value.tuple extra))] else []
  return filled ++ caller ++ taken ++ extra

/-- Give the parameters that were left out their defaults. -/
def completeDefaults (ev : Evaluator) (env : Env) (filled : List (String × Option Value)) :
    Parameters → Eval Unit
  | [] => return ()
  | (p, default) :: ps => do
    match filled.lookup p with
    | some (some _) => pure ()
    | _ =>
      let v ← match default with
        | some e => ev.expr env e
        | none => pure (.undefined ("parameter " ++ Text.quoted p ++ " was not provided") false)
      writeName env.frame p (some v)
    completeDefaults ev env filled ps

/-- The special parameters of a macro. -/
def specials (c : Closure) : List String :=
  let explicit := c.parameters.any fun p => p.1 == "caller"
  (if c.takesCaller && !explicit then ["caller"] else []) ++
    (if c.takesNamed then ["kwargs"] else []) ++ (if c.takesExtra then ["varargs"] else [])

/-- Text as a value, which is markup where output is escaped. -/
def textOf (env : Env) (s : String) : Value := .text s env.autoescape

/-- Call a macro. -/
def closure (ev : Evaluator) (env : Env) (c : Closure) (g : Given) : Eval Value := do
  let filled ← entering c g
  let outside ← deeper { c.env with depth := env.depth }
  let inside ← enterFrame outside
    (fun outer => NameTable.ofMacro outer c.parameters (specials c) c.body) filled
  completeDefaults ev inside filled c.parameters
  return textOf env (← ev.run inside c.body)

/-- A macro as a value. -/
def newClosure (env : Env) (name : Option String) (parameters : Parameters) (body : List Stmt) :
    Eval Value := do
  let asks (special : String) : Bool :=
    Stmt.readsFree body special && !parameters.any fun p => p.1 == special
  return .closure (← alloc (.closure ⟨name, parameters, body, env,
    Stmt.readsFree body "caller", asks "kwargs", asks "varargs"⟩))

/-- Run a named block: it sees global names only. -/
def block (ev : Evaluator) (env : Env) (scope : Ref) (name : String) : Eval String := do
  let body := (env.blocks.lookup name).getD []
  let env ← deeper env
  let bare ← alloc (.frame ⟨[], none⟩)
  let special : List (String × Option Value) :=
    [("self", some .blocks),
      ("super", some (.undefined ("there is no parent block called " ++ Text.quoted name ++ ".") false))]
  let special := special.filter fun e => Stmt.readsFree body e.1
  let env ← enterFrame { env with frame := bare, scope := scope, autoescape := false }
    (fun outer => NameTable.ofFrame outer (special.map (·.1)) [] body) special
  ev.run env body

/-- Run the items of a loop one after another. -/
def iterate (ev : Evaluator) (env : Env) (target : Target) (body : List Stmt) (r : Ref)
    (fuel : Nat) (text : String) : Eval String :=
  match fuel with
  | 0 => return text
  | fuel + 1 => do
    match ← Loop.advance ev r with
    | none => return text
    | some v =>
      let names := target.names ++ ["loop"]
      let inside ← enterFrame env (fun outer => NameTable.ofFrame outer names [] body)
        (names.map fun n => (n, if n == "loop" then some (.loop r) else none))
      assignTarget inside target v
      let s ← ev.run inside body
      iterate ev env target body r fuel (text ++ s)

/-- Run a loop over the items of a value. -/
def loop (ev : Evaluator) (env : Env) (head : LoopHead) (body otherwise : List Stmt) (depth : Nat)
    (v : Value) : Eval String := do
  let (vs, failure) ← source v
  let length := match v, head.test with
    | .cursor _, _ | _, some _ => none
    | _, none => some vs.length
  let r ← alloc (.loop {
    pending := vs
    failure := failure
    screen := head.test.map fun test => ⟨head.target, test, env⟩
    length := length
    depth := depth
    recursion := if head.recursive then some ⟨head, body, otherwise, env⟩ else none })
  let text ← iterate ev env head.target body r (vs.length + 1) ""
  if (← Loop.stateOf r).index < 0 && !otherwise.isEmpty then
    let inside ← enterFrame env (fun outer => NameTable.ofFrame outer [] [] otherwise) []
    ev.run inside otherwise
  else return text

/-- Start a recursive loop again on other items. -/
def recur (ev : Evaluator) (env : Env) (r : Ref) (g : Given) : Eval Value := do
  let l ← Loop.stateOf r
  match l.recursion with
  | none => typeFault "The loop must have the 'recursive' marker to be called recursively."
  | some again =>
    let s : Signature := ⟨"LoopContext.__call__", ["self"], [⟨"iterable", none⟩], false, false⟩
    let v := (← s.values g).headD .none
    let inside ← deeper { again.env with depth := env.depth }
    let text ← loop ev inside again.head again.body again.otherwise (l.depth + 1) v
    return textOf env text

/-- Call a value. -/
def value (ev : Evaluator) (env : Env) (f : Value) (g : Given) : Eval Value := do
  match f with
  | .closure r =>
    match ← fetch r with
    | .closure c => closure ev env c g
    | _ => return .none
  | .method receiver name => Methods.call (Access.strictAttribute ev) Access.item receiver name g
  | .routine r => Methods.routine r g
  | .joiner r =>
    let s : Signature := ⟨"Joiner.__call__", ["self"], [], false, false⟩
    let _ ← s.values g
    Methods.join r
  | .loop r => recur ev env r g
  | .block name =>
    let s : Signature := ⟨"BlockReference.__call__", ["self"], [], false, false⟩
    let _ ← s.values g
    return textOf env (← block ev env env.scope name)
  | .undefined message _ => fault .undefined message
  | v => typeFault ("\x27" ++ v.typeName ++ "\x27 object is not callable")

end TypeWeave.Template.Invoke
