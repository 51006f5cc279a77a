import TypeWeave.Template.Access
import TypeWeave.Template.Arithmetic
import TypeWeave.Template.Sorting

/-!
# Filters

A filter takes a value and arguments. Several of them look into the items of a sequence by an
attribute path, such as `address.city` or `0`, and compare texts without regard to letter case unless
they are told otherwise.
-/

namespace TypeWeave.Template

/-- What a filter is applied in: the rules of evaluation, the surroundings, and the arguments beyond
its parameters. -/
structure FilterCall where
  ev : Evaluator
  env : Env
  extra : Given

/-- A filter: its signature, whose implicit parameters include the value, and its rule. -/
structure Filter where
  signature : Signature
  apply (call : FilterCall) (v : Value) (args : List Value) : Eval Value

namespace Filter

open Eval

/-- A parameter without a default. -/
def required (name : String) : Parameter := ⟨name, none⟩

/-- A parameter with a default. -/
def optional (name : String) (v : Value) : Parameter := ⟨name, some v⟩

/-- A filter with parameters of its own behind the value. -/
def simple (name : String) (implicit : List String) (parameters : List Parameter)
    (apply : FilterCall → Value → List Value → Eval Value) : Filter :=
  ⟨⟨name, implicit, parameters, false, false⟩, apply⟩

/-- The text of a value, safe if the value is. -/
def softText (v : Value) : Eval (List Char × Bool) := do
  match v with
  | .text s safe => return (s.toList, safe)
  | v => return ((← display v).toList, false)

/-- A filter that changes the text of a value. -/
def onText (name : String) (f : List Char → List Char) : Filter :=
  simple name ["s"] [] fun _ v _ => do
    let (cs, safe) ← softText v
    return .text (String.ofList (f cs)) safe

/-- The parts of an attribute path. -/
def pathParts (path : Value) : List Value :=
  match path with
  | .none => []
  | .text s _ =>
    (Text.splitOn ['.'] s.toList).map fun p =>
      if !p.isEmpty && p.all fun c => (Text.decimalValue? c).isSome then
        .int (p.foldl (fun acc c => 10 * acc + ((Text.decimalValue? c).getD 0 : Int)) 0)
      else .ofString (String.ofList p)
  | v => [v]

/-- Whether a value is absent. -/
def isUndefined : Value → Bool
  | .undefined .. => true
  | _ => false

/-- Follow an attribute path; an absent part becomes the default, if there is one. -/
def follow (call : FilterCall) (parts : List Value) (default : Value) (v : Value) : Eval Value :=
  parts.foldlM (fun v part => do
    let w ← Access.getItem call.ev call.env v part
    match default with
    | .none => return w
    | d => return if isUndefined w then d else w) v

/-- A text in lower case; other values stay. -/
def foldCase (v : Value) : Value :=
  match v with
  | .text s safe => .text (String.ofList (Text.lower s.toList)) safe
  | v => v

/-- The key of an item under an attribute path. -/
def keyOf (call : FilterCall) (path : Value) (caseSensitive : Bool) (default : Value)
    (v : Value) : Eval Value := do
  let k ← follow call (pathParts path) default v
  return if caseSensitive then k else foldCase k

/-- The key of an item under several attribute paths separated by commas. -/
def multiKeyOf (call : FilterCall) (path : Value) (caseSensitive : Bool) (v : Value) :
    Eval Value := do
  let paths := match path with
    | .text s _ => (Text.splitOn [','] s.toList).map fun p => Value.ofString (String.ofList p)
    | v => [v]
  return .tuple (← paths.mapM fun p => keyOf call p caseSensitive .none v)

/-- The items of a value and the fault that follows them, as a filter that gives its results one by
one sees them: a fault at once counts as one that follows no item. -/
def lazySource (v : Value) : Eval (List Value × Option Fault) := fun s =>
  match (source v).run s with
  | .ok r => .ok r
  | .error f => .ok (([], some f), s)

/-- Results that are given one by one, by a step on each item. -/
def oneByOne (v : Value) (step : Value → Eval (List Value)) : Eval Value := do
  let (vs, failure) ← lazySource v
  let (results, early) ← collectUntil step vs
  newCursor results.flatten (early.orElse fun _ => failure)

/-- A value that has a fault once it is looped over. -/
def failing (f : Fault) : Eval Value := newCursor [] (some f)

end Filter

end TypeWeave.Template
