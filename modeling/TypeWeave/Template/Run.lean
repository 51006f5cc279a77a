import TypeWeave.Template.Check
import TypeWeave.Template.Evaluate

/-!
# Running statements

A statement has a text and may change the names of its frame. Loops, macros, captured texts and
`with` have frames of their own; the branches of a choice share the frame around them.
-/

namespace TypeWeave.Template.Run

open Eval

/-- The text of an output part. -/
def outputText (env : Env) (v : Value) : Eval String := do
  match v with
  | .text s safe => return if env.autoescape && !safe then Markup.escape s else s
  | v =>
    let s ← display v
    return if env.autoescape then Markup.escape s else s

/-- Output takes texts only. -/
def needOutput (v : Value) : Eval String :=
  match v with
  | .text s _ => return s
  | v => typeFault ("sequence item 0: expected str instance, " ++ v.typeName ++ " found")

/-- Templates are not looked up by name. -/
def noTemplates : Eval α := typeFault "no loader for this environment specified"

/-- The outcome of a request for one of several templates. -/
def embedFrom (ignoreMissing : Bool) (v : Value) : Eval String := do
  match v with
  | .text .. => noTemplates
  | .undefined message _ => fault .undefined message
  | v =>
    let candidates ← if ← truth v then items v else pure []
    if candidates.isEmpty then
      if ignoreMissing then return ""
      else fault .notFound "Tried to select from an empty list of templates."
    else noTemplates

/-- The names and values of all frames from one outwards, the inner ones first. -/
def visible (frame : Ref) : Eval (List (String × Value)) := do
  return (← framesFrom frame).flatMap fun f => f.2.vars.filterMap fun (n, v) => v.map fun v => (n, v)

/-- A scope in which the local names of the frames are global too. -/
def sharedScope (env : Env) : Eval Ref := do
  let locals ← visible env.frame
  let (vars, given) ← match ← fetch env.scope with
    | .scope s => pure (s.vars, s.given)
    | _ => pure ([], [])
  alloc (.scope ⟨[], locals ++ vars ++ given⟩)

/-- A frame for the statements inside a statement. -/
def inner (env : Env) (given : List String) (reads : List Expr) (body : List Stmt) : Eval Env :=
  enterFrame env (fun outer => NameTable.ofFrame outer given reads body) (given.map fun n => (n, none))

/-- Run a statement. -/
def step (ev : Evaluator) (env : Env) (s : Stmt) : Eval String := do
  match s with
  | .output parts =>
    let texts ← parts.mapM fun e => do
      match e with
      | .data s => return s
      | e => outputText env (← ev.expr env e)
    return String.join texts
  | .loop head body otherwise => do
    let text ← Invoke.loop ev env head body otherwise 0 (← ev.expr env head.source)
    return text
  | .choose test body otherwise =>
    if ← truth (← ev.expr env test) then ev.run env body else ev.run env otherwise
  | .define name parameters _ body => do
    let v ← Invoke.newClosure env (some name) parameters body
    writeName env.frame name (some v)
    writeGlobal env name v
    return ""
  | .callBlock parameters call _ body => do
    let caller ← Invoke.newClosure env none parameters body
    match call with
    | .call f args =>
      let callee ← ev.expr env f
      let g ← Evaluate.arguments ev env Evaluate.callName args
      needOutput (← Invoke.value ev env callee ⟨g.positional, g.named ++ [("caller", caller)]⟩)
    | e => needOutput (← ev.expr env e)
  | .filterBlock filter body => do
    let inside ← inner env [] [filter] body
    let text ← ev.run inside body
    needOutput (← Evaluate.filterChain ev inside (Invoke.textOf inside text) filter)
  | .assign target e _ => do
    checkFields env target
    assignTarget env target (← ev.expr env e)
    return ""
  | .capture target filter _ body => do
    let inside ← inner env [] [] body
    let text ← ev.run inside body
    let v ← match filter with
      | some f => Evaluate.filterChain ev inside (Invoke.textOf inside text) f
      | none => pure (Value.ofString text)
    let v ← if env.autoescape then do
        match v with
        | .text s _ => pure (Value.text s true)
        | v => do pure (.text (← display v) true)
      else pure v
    assignTarget env target v
    return ""
  | .withBlock bindings body => do
    let inside ← inner env (bindings.flatMap (·.1.names)) [] body
    bindings.forM fun (target, e) => do assignTarget inside target (← ev.expr env e)
    ev.run inside body
  | .autoescape e body => do
    let inside ← inner env [] [e] body
    let on ← truth (← ev.expr inside e)
    ev.run { inside with autoescape := on } body
  | .block name sharing isRequired _ _ => do
    if isRequired then fault .template ("Required block " ++ Text.quoted name ++ " not found")
    let scope ← if sharing then sharedScope env else pure env.scope
    Invoke.block ev env scope name
  | .extend e _ => do
    let _ ← ev.expr env e
    noTemplates
  | .embed e ignoreMissing => do embedFrom ignoreMissing (← ev.expr env e)
  | .importAs e _ => do
    let _ ← ev.expr env e
    noTemplates
  | .importFrom e _ => do
    let _ ← ev.expr env e
    noTemplates

/-- Run statements one after another. -/
def all (ev : Evaluator) (env : Env) (text : String) : List Stmt → Eval String
  | [] => return text
  | s :: ss => do all ev env (text ++ (← step ev env s)) ss

end TypeWeave.Template.Run
