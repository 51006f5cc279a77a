import TypeWeave.Json.Quoted
import TypeWeave.Number.Decimal

/-!
# JSON values

The values of JSON. Integers are exact and apart from floats, and an object keeps the order in which
its keys were first written. The printer writes ASCII only.
-/

namespace TypeWeave.Json

/-- JSON values. -/
inductive Value where
  | null
  | bool (b : Bool)
  | int (i : Int)
  | float (x : Float)
  | text (s : String)
  | list (items : List Value)
  | object (entries : List (String × Value))
  deriving Inhabited

namespace Value

/-- The text of a float; what is no number has a name. -/
def floatText (x : Float) : String :=
  if x.isNaN then "NaN"
  else if x.isInf then (if x < 0 then "-Infinity" else "Infinity")
  else Number.printed.text x

mutual

/-- A value as JSON text on one line. -/
def print : Value → String
  | .null => "null"
  | .bool b => if b then "true" else "false"
  | .int i => toString i
  | .float x => floatText x
  | .text s => quoteString s
  | .list items => "[" ++ ", ".intercalate (printAll items) ++ "]"
  | .object entries => "\x7b" ++ ", ".intercalate (printEntries entries) ++ "\x7d"

/-- Values as JSON texts. -/
def printAll : List Value → List String
  | [] => []
  | v :: vs => print v :: printAll vs

/-- Entries as JSON texts. -/
def printEntries : List (String × Value) → List String
  | [] => []
  | (k, v) :: es => (quoteString k ++ ": " ++ print v) :: printEntries es

end

/-- The value of a key of an object. -/
def get? (v : Value) (key : String) : Option Value :=
  match v with
  | .object entries => entries.lookup key
  | _ => none

/-- The items of a list; other values have none. -/
def items : Value → List Value
  | .list vs => vs
  | _ => []

/-- The entries of an object; other values have none. -/
def entries : Value → List (String × Value)
  | .object es => es
  | _ => []

/-- The text that a value is. -/
def text? : Value → Option String
  | .text s => some s
  | _ => none

/-- Texts as a list. -/
def texts (ss : List String) : Value := .list (ss.map .text)

/-- An optional text. -/
def optionalText : Option String → Value
  | some s => .text s
  | none => .null

end Value

end TypeWeave.Json
