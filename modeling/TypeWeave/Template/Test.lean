import TypeWeave.Template.Access
import TypeWeave.Template.Arithmetic
import TypeWeave.Text.Split

/-!
# Tests

The questions that `is` asks about a value: its type, its number, its case, how it compares with
other values, and whether a name is one of a filter or a test.
-/

namespace TypeWeave.Template

/-- A test: its signature, whose implicit parameters include the value, and its rule. -/
structure Test where
  signature : Signature
  holds (v : Value) (args : List Value) : Eval Bool

namespace Test

open Eval

/-- A test of a value alone. -/
def plain (name : String) (holds : Value → Eval Bool) : Test :=
  ⟨⟨"test_" ++ name, ["value"], [], false, false⟩, fun v _ => holds v⟩

/-- A test of a value alone that has no fault. -/
def pure' (name : String) (holds : Value → Bool) : Test := plain name fun v => return holds v

/-- A test of a value against another one. -/
def against (name parameter : String) (holds : Value → Value → Eval Bool) : Test :=
  ⟨⟨"test_" ++ name, ["value"], [⟨parameter, none⟩], false, false⟩, fun v args =>
    holds v (args.headD .none)⟩

/-- Whether a value leaves a remainder. -/
def leaves (v by' : Value) (rest : Int) : Eval Bool := do
  equal (← arithmetic Access.item .mod v by') (.int rest)

/-- Whether a value can be called. -/
def isCallable : Value → Bool
  | .undefined .. | .method .. | .routine _ | .closure _ | .joiner _ | .loop _ | .block _ => true
  | _ => false

/-- Whether a value has items by position or key and a length. -/
def isIndexed : Value → Bool
  | .text .. | .bytes _ | .tuple _ | .group _ _ | .list _ | .dict _ | .range ..
  | .undefined _ true => true
  | _ => false

/-- Whether a value can be looped over. -/
def isIterable (v : Value) : Eval Bool := do
  match v with
  | .undefined message false => fault .undefined message
  | .view .. | .cursor _ | .loop _ => return true
  | v => return isIndexed v

/-- Whether a value is a name among some. -/
def isNamed (known : String → Bool) (v : Value) : Eval Bool := do
  checkKey 100 v
  match v with
  | .text s _ => return known s
  | _ => return false

/-- The names of the comparisons. -/
def comparisons : List (String × Comparison) :=
  [("eq", .eq), ("equalto", .eq), ("==", .eq), ("ne", .ne), ("!=", .ne), ("lt", .lt), ("<", .lt),
    ("lessthan", .lt), ("le", .le), ("<=", .le), ("gt", .gt), (">", .gt), ("greaterthan", .gt),
    ("ge", .ge), (">=", .ge)]

/-- The short name of a comparison. -/
def shortName : Comparison → String
  | .eq => "eq"
  | .ne => "ne"
  | .lt => "lt"
  | .le => "le"
  | .gt => "gt"
  | .ge => "ge"
  | .member => "in"
  | .absent => "not in"

/-- The tests besides comparisons and those of names. -/
def table : List (String × Test) :=
  [("odd", plain "odd" fun v => leaves v (.int 2) 1),
    ("even", plain "even" fun v => leaves v (.int 2) 0),
    ("divisibleby", against "divisibleby" "num" fun v n => leaves v n 0),
    ("defined", pure' "defined" fun v => match v with
      | .undefined .. => false
      | _ => true),
    ("undefined", pure' "undefined" fun v => match v with
      | .undefined .. => true
      | _ => false),
    ("none", pure' "none" fun v => match v with
      | .none => true
      | _ => false),
    ("boolean", pure' "boolean" fun v => match v with
      | .bool _ => true
      | _ => false),
    ("false", pure' "false" fun v => match v with
      | .bool b => !b
      | _ => false),
    ("true", pure' "true" fun v => match v with
      | .bool b => b
      | _ => false),
    ("integer", pure' "integer" fun v => match v with
      | .int _ => true
      | _ => false),
    ("float", pure' "float" fun v => match v with
      | .float _ => true
      | _ => false),
    ("lower", plain "lower" fun v => do return Text.isLowerText (← display v).toList),
    ("upper", plain "upper" fun v => do return Text.isUpperText (← display v).toList),
    ("string", pure' "string" Value.isText),
    ("mapping", pure' "mapping" fun v => match v with
      | .dict _ => true
      | _ => false),
    ("number", pure' "number" fun v => v.numeral?.isSome),
    ("sequence", pure' "sequence" isIndexed),
    ("iterable", plain "iterable" isIterable),
    ("sameas", against "sameas" "other" same),
    ("escaped", pure' "escaped" fun v => match v with
      | .text _ safe => safe
      | _ => false),
    ("in", against "in" "seq" fun v container => contains container v)]

/-- The names of all tests. -/
def names : List String :=
  table.map (·.1) ++ comparisons.map (·.1) ++ ["callable", "filter", "test"]

/-- Whether a test exists. -/
def exists? (name : String) : Bool := names.contains name

/-- A test with its arguments; `isFilter` knows the names of filters. -/
def apply (isFilter : String → Bool) (name : String) (v : Value) (g : Given) : Eval Bool := do
  match table.lookup name, comparisons.lookup name with
  | some t, _ => do t.holds v (← t.signature.values g)
  | none, some op =>
    unless g.named.isEmpty do typeFault ("_operator." ++ shortName op ++ "() takes no keyword arguments")
    match g.positional with
    | [w] => Eval.holds op v w
    | ws =>
      typeFault (shortName op ++ " expected 2 arguments, got " ++ toString (ws.length + 1))
  | none, none =>
    match name with
    | "callable" =>
      let _ ← Given.single ⟨v :: g.positional, g.named⟩ "callable"
      return isCallable v
    | "filter" =>
      let t := (⟨"test_filter", ["env", "value"], [], false, false⟩ : Signature)
      let _ ← t.values g
      isNamed isFilter v
    | "test" =>
      let t := (⟨"test_test", ["env", "value"], [], false, false⟩ : Signature)
      let _ ← t.values g
      isNamed exists? v
    | name => fault .template ("No test named " ++ Text.quoted name ++ ".")

end Test

end TypeWeave.Template
