import TypeWeave.Template.Invoke

/-!
# Evaluating expressions

One step of the evaluation of an expression; the parts of it are evaluated by the rules that the
step is given. Operands are evaluated from left to right, and those of `and`, `or`, a conditional and
a chain of comparisons only as far as they are needed.
-/

namespace TypeWeave.Template.Evaluate

open Eval

/-- The value of an optional part. -/
def optional (ev : Evaluator) (env : Env) : Option Expr → Eval Value
  | none => return .none
  | some e => ev.expr env e

/-- The positional arguments that a value spreads into. -/
def spreadItems (callee : String) (v : Value) : Eval (List Value) := do
  match v with
  | .text .. | .bytes _ | .tuple _ | .group _ _ | .list _ | .dict _ | .view .. | .range .. | .cursor _
  | .undefined .. => items v
  | v => typeFault (callee ++ "() argument after * must be an iterable, not " ++ v.typeName)

/-- The named arguments that a value spreads into. -/
def spreadEntries (callee : String) (v : Value) : Eval (List (String × Value)) := do
  match v with
  | .dict r =>
    (← dictEntries r).mapM fun (k, w) => do
      match k with
      | .text s _ => return (s, w)
      | _ => typeFault "keywords must be strings"
  | .undefined message _ => fault .undefined message
  | v => typeFault (callee ++ "() argument after ** must be a mapping, not " ++ v.typeName)

/-- The arguments of a call, of a filter or of a test. -/
def arguments (ev : Evaluator) (env : Env) (callee : String) (args : Arguments Expr) : Eval Given := do
  let positional ← args.positional.mapM (ev.expr env)
  let spread ← match args.spread with
    | none => pure []
    | some e => do spreadItems callee (← ev.expr env e)
  let named ← args.named.mapM fun (k, e) => do return (k, ← ev.expr env e)
  let more ← match args.spreadNamed with
    | none => pure []
    | some e => do spreadEntries callee (← ev.expr env e)
  match more.find? fun e => (named.lookup e.1).isSome with
  | some (k, _) =>
    typeFault (callee ++ "() got multiple values for keyword argument " ++ Text.quoted k)
  | none => return ⟨positional ++ spread, named ++ more⟩

/-- The name of calls in messages. -/
def callName : String := "jinja2.runtime.Context.call"

/-- Apply a filter that an expression names. -/
def applyFilter (ev : Evaluator) (env : Env) (name : String) (args : Arguments Expr) (v : Value) :
    Eval Value := do
  let g ← arguments ev env name args
  if Filter.exists? name then Filter.applyNamed ev env name v g
  else fault .template ("No filter named " ++ Text.quoted name ++ " found.")

/-- Apply the test that an expression names. -/
def applyTest (ev : Evaluator) (env : Env) (name : String) (args : Arguments Expr) (v : Value) :
    Eval Bool := do
  let g ← arguments ev env name args
  if Test.exists? name then Test.apply Filter.exists? name v g
  else fault .template ("No test named " ++ Text.quoted name ++ " found.")

/-- A chain of comparisons, each with the operand before it. -/
def chain (ev : Evaluator) (env : Env) (v : Value) : List (Comparison × Expr) → Eval Bool
  | [] => return true
  | (op, e) :: rest => do
    let w ← ev.expr env e
    if ← holds op v w then chain ev env w rest else return false

/-- Apply the filters of an expression to a text that stands at the head of them. -/
def filterChain (ev : Evaluator) (env : Env) (text : Value) : Expr → Eval Value
  | .filter none name args _ => applyFilter ev env name args text
  | .filter (some e) name args _ => do applyFilter ev env name args (← filterChain ev env text e)
  | e => ev.expr env e

/-- The value of an expression. -/
def step (ev : Evaluator) (env : Env) (e : Expr) : Eval Value := do
  match e with
  | .nothing => return .none
  | .bool b => return .bool b
  | .integer n => return .int n
  | .float x => return .float x
  | .text s => return .ofString s
  | .data s => return .text s env.autoescape
  | .name n => readName env n
  | .tuple es => return .tuple (← es.mapM (ev.expr env))
  | .list es => do newList (← es.mapM (ev.expr env))
  | .dict entries =>
    let pairs ← entries.mapM fun (k, v) => do return (← ev.expr env k, ← ev.expr env v)
    pairs.forM fun p => checkKey 100 p.1
    newDict (← Methods.putAll [] pairs)
  | .unary op e => Eval.signed op (← ev.expr env e)
  | .binary .both l r =>
    let v ← ev.expr env l
    if ← truth v then ev.expr env r else return v
  | .binary .either l r =>
    let v ← ev.expr env l
    if ← truth v then return v else ev.expr env r
  | .binary op l r =>
    let v ← ev.expr env l
    arithmetic Access.item op v (← ev.expr env r)
  | .concat parts => Eval.concat env.autoescape (← parts.mapM (ev.expr env))
  | .compare first [(op, e)] =>
    let v ← ev.expr env first
    return .bool (← holds op v (← ev.expr env e))
  | .compare first rest => return .bool (← chain ev env (← ev.expr env first) rest)
  | .conditional test v otherwise line =>
    if ← truth (← ev.expr env test) then ev.expr env v
    else
      match otherwise with
      | some e => ev.expr env e
      | none =>
        return .undefined ("the inline if-expression on line " ++ toString line ++
          " evaluated to false and no else section was defined.") true
  | .attribute e name => Access.getAttribute ev env (← ev.expr env e) name
  | .item e (.slice a b c) =>
    let v ← ev.expr env e
    let start ← optional ev env a
    let stop ← optional ev env b
    Access.slice v start stop (← optional ev env c)
  | .item e k =>
    let v ← ev.expr env e
    Access.getItem ev env v (← ev.expr env k)
  | .slice a b c =>
    let start ← optional ev env a
    let stop ← optional ev env b
    return .slice start stop (← optional ev env c)
  | .call f args =>
    let v ← ev.expr env f
    Invoke.value ev env v (← arguments ev env callName args)
  | .filter input name args _ =>
    let v ← optional ev env input
    applyFilter ev env name args v
  | .test input name args _ =>
    let v ← ev.expr env input
    return .bool (← applyTest ev env name args v)

end TypeWeave.Template.Evaluate
