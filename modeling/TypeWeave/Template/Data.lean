import TypeWeave.Json.Value
import TypeWeave.Template.Printing

/-!
# Data as values

Data from outside becomes values of a rendering: lists and objects are put into the store.
-/

namespace TypeWeave.Template.Eval

mutual

/-- The value of a piece of data. -/
def ofData : Json.Value → Eval Value
  | .null => return .none
  | .bool b => return .bool b
  | .int i => return .int i
  | .float x => return .float x
  | .text s => return .ofString s
  | .list vs => do newList (← ofDataItems vs)
  | .object es => do newDict (← ofDataEntries es)

/-- The values of the items of a list. -/
def ofDataItems : List Json.Value → Eval (List Value)
  | [] => return []
  | v :: vs => do return (← ofData v) :: (← ofDataItems vs)

/-- The entries of an object with their values. -/
def ofDataEntries : List (String × Json.Value) → Eval (List (Value × Value))
  | [] => return []
  | (k, v) :: es => do return (.ofString k, ← ofData v) :: (← ofDataEntries es)

end

/-- The data that a value stands for; what is neither data nor a collection is told as text. -/
def toDataWith (fuel : Nat) (v : Value) : Eval Json.Value :=
  match fuel with
  | 0 => return .null
  | fuel + 1 => do
    match v with
    | .none => return .null
    | .bool b => return .bool b
    | .int i => return .int i
    | .float x => return .float x
    | .text s _ => return .text s
    | .tuple vs => return .list (← vs.mapM (toDataWith fuel))
    | .list r => do return .list (← (← listItems r).mapM (toDataWith fuel))
    | .dict r => do
      return .object (← (← dictEntries r).mapM fun (k, v) => do
        return (← display k, ← toDataWith fuel v))
    | v => return .text (← display v)

/-- The data that a value stands for. -/
def toData (v : Value) : Eval Json.Value := toDataWith inspectDepth v

end TypeWeave.Template.Eval
