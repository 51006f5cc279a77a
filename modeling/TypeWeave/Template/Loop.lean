import TypeWeave.Template.Frame

/-!
# Loops on their way

A loop takes its items one by one, passing over those that its condition refuses. What a template
asks of the loop variable may make the loop look one item ahead, or read all that remain to count
them.
-/

namespace TypeWeave.Template.Loop

open Eval

/-- Whether a loop takes an item. -/
def accepts (ev : Evaluator) (screen : Option Screen) (v : Value) : Eval Bool := do
  match screen with
  | none => return true
  | some s =>
    let names := s.target.names
    let env ← enterFrame s.env (fun outer => NameTable.ofFrame outer names [s.test] [])
      (names.map fun n => (n, none))
    assignTarget env s.target v
    truth (← ev.expr env s.test)

/-- The next item that a loop takes, and the items behind it. -/
def pull (ev : Evaluator) (screen : Option Screen) (failure : Option Fault) :
    List Value → Eval (Option Value × List Value)
  | [] =>
    match failure with
    | some f => throw f
    | none => return (none, [])
  | v :: rest => do
    if ← accepts ev screen v then return (some v, rest) else pull ev screen failure rest

/-- All items that a loop still takes. -/
def pullAll (ev : Evaluator) (screen : Option Screen) (failure : Option Fault) :
    List Value → Eval (List Value)
  | [] =>
    match failure with
    | some f => throw f
    | none => return []
  | v :: rest => do
    if ← accepts ev screen v then return v :: (← pullAll ev screen failure rest)
    else pullAll ev screen failure rest

/-- The state of a loop. -/
def stateOf (r : Ref) : Eval LoopState := do
  match ← fetch r with
  | .loop l => return l
  | _ => fault .assertion "not a loop"

/-- The item after the current one, which stays to be taken. -/
def peek (ev : Evaluator) (r : Ref) : Eval (Option Value) := do
  let l ← stateOf r
  match l.ahead with
  | some v => return some v
  | none =>
    let (v, rest) ← pull ev l.screen l.failure l.pending
    let l ← stateOf r
    Eval.assign r (.loop { l with ahead := v, pending := rest })
    return v

/-- Move to the next item. -/
def advance (ev : Evaluator) (r : Ref) : Eval (Option Value) := do
  let v ← peek ev r
  match v with
  | none => return none
  | some v =>
    let l ← stateOf r
    Eval.assign r (.loop { l with
      ahead := none
      index := l.index + 1
      before := l.current
      current := some v })
    return some v

/-- The number of items of a loop, which may read all that remain. -/
def lengthOf (ev : Evaluator) (r : Ref) : Eval Nat := do
  let l ← stateOf r
  match l.length with
  | some n => return n
  | none =>
    let rest ← pullAll ev l.screen l.failure l.pending
    let l ← stateOf r
    let n := rest.length + (l.index + 1).toNat + (if l.ahead.isSome then 1 else 0)
    Eval.assign r (.loop { l with pending := rest, screen := none, failure := none, length := some n })
    return n

/-- What a template can ask of the loop variable; methods aside. -/
def attribute? (ev : Evaluator) (r : Ref) (name : String) : Eval (Option Value) := do
  let l ← stateOf r
  match name with
  | "index" => return some (.int (l.index + 1))
  | "index0" => return some (.int l.index)
  | "first" => return some (.bool (l.index == 0))
  | "last" => return some (.bool (← peek ev r).isNone)
  | "length" => return some (.int (← lengthOf ev r))
  | "revindex" => return some (.int ((← lengthOf ev r) - l.index))
  | "revindex0" => return some (.int ((← lengthOf ev r) - l.index - 1))
  | "depth" => return some (.int (l.depth + 1))
  | "depth0" => return some (.int l.depth)
  | "previtem" =>
    if l.index == 0 then return some (.undefined "there is no previous item" false)
    else return some (l.before.getD (.undefined "there is no previous item" false))
  | "nextitem" =>
    return some ((← peek ev r).getD (.undefined "there is no next item" false))
  | "cycle" | "changed" => return some (.method (.loop r) name)
  | _ => return none

/-- The items in turn, by the position of the loop. -/
def cycle (r : Ref) (vs : List Value) : Eval Value := do
  let l ← stateOf r
  if vs.isEmpty then typeFault "no items for cycling given"
  else return vs.getD ((l.index.fmod vs.length).toNat) .none

/-- Whether the values differ from those given the last time. -/
def changed (r : Ref) (vs : List Value) : Eval Value := do
  let l ← stateOf r
  let same ← match l.changed with
    | none => pure false
    | some old => equal (.tuple old) (.tuple vs)
  if same then return .bool false
  else
    let l ← stateOf r
    Eval.assign r (.loop { l with changed := some vs })
    return .bool true

end TypeWeave.Template.Loop
