import TypeWeave.Template.Order
import TypeWeave.Text.Quoted

/-!
# Arguments against a signature

A function that a template calls states its parameters; the arguments of a call are matched against
them, and a mismatch is told in the words that name the parameter at fault.
-/

namespace TypeWeave.Template

/-- A parameter and its value when no argument is given. -/
structure Parameter where
  name : String
  default : Option Value := none

/-- The arguments of a call. -/
structure Given where
  positional : List Value
  named : List (String × Value)

/-- What a function takes: its name in messages, the number of leading parameters that are given
implicitly, their names, the parameters of its own, and whether more arguments are accepted. -/
structure Signature where
  name : String
  implicit : List String
  parameters : List Parameter
  extra : Bool := false
  extraNamed : Bool := false

namespace Signature

open Eval

/-- A noun with its number. -/
def counted (n : Nat) (noun : String) : String :=
  toString n ++ " " ++ noun ++ (if n = 1 then "" else "s")

/-- Names in a sentence. -/
def enumerated : List String → String
  | [] => ""
  | [a] => Text.quoted a
  | [a, b] => Text.quoted a ++ " and " ++ Text.quoted b
  | names =>
    ", ".intercalate (names.dropLast.map Text.quoted) ++ ", and " ++
      Text.quoted (names.getLast?.getD "")

/-- The fault of too many positional arguments. -/
def tooMany (s : Signature) (given : Nat) : Eval α :=
  let all := s.implicit.length + s.parameters.length
  let needed := s.implicit.length + (s.parameters.filter (·.default.isNone)).length
  let takes :=
    if needed = all then counted all "positional argument"
    else "from " ++ toString needed ++ " to " ++ toString all ++ " positional arguments"
  let total := given + s.implicit.length
  typeFault (s.name ++ "() takes " ++ takes ++ " but " ++ toString total ++
    (if total = 1 then " was given" else " were given"))

/-- Fill parameters from the named arguments and the defaults: the values and the names of those
that are missing. -/
def fillNamed (named : List (String × Value)) : List Parameter → List Value × List String
  | [] => ([], [])
  | p :: ps =>
    let (vs, missing) := fillNamed named ps
    match named.lookup p.name, p.default with
    | some v, _ => (v :: vs, missing)
    | none, some v => (v :: vs, missing)
    | none, none => (.none :: vs, p.name :: missing)

/-- Match arguments against a signature: a value for each parameter, then the extra arguments. -/
def bind (s : Signature) (g : Given) : Eval (List Value × Given) := do
  let count := s.parameters.length
  let names := s.parameters.map (·.name)
  let taken := names.take g.positional.length
  for (k, _) in g.named do
    if taken.contains k || s.implicit.contains k then
      typeFault (s.name ++ "() got multiple values for argument " ++ Text.quoted k)
    if !names.contains k && !s.extraNamed then
      typeFault (s.name ++ "() got an unexpected keyword argument " ++ Text.quoted k)
  if g.positional.length > count && !s.extra then tooMany s g.positional.length
  let (rest, missing) := fillNamed g.named (s.parameters.drop g.positional.length)
  unless missing.isEmpty do
    typeFault (s.name ++ "() missing " ++ counted missing.length "required positional argument" ++
      ": " ++ enumerated missing)
  return (g.positional.take count ++ rest,
    ⟨g.positional.drop count, g.named.filter fun e => !names.contains e.1⟩)

/-- Match arguments against a signature without extra ones. -/
def values (s : Signature) (g : Given) : Eval (List Value) := do return (← s.bind g).1

end Signature

namespace Given

open Eval

/-- No arguments at all, for a built-in function. -/
def nothing (g : Given) (name : String) : Eval Unit := do
  unless g.named.isEmpty do typeFault (name ++ "() takes no keyword arguments")
  unless g.positional.isEmpty do
    typeFault (name ++ "() takes no arguments (" ++ toString g.positional.length ++ " given)")

/-- Exactly one argument, for a built-in function. -/
def single (g : Given) (name : String) : Eval Value := do
  unless g.named.isEmpty do typeFault (name ++ "() takes no keyword arguments")
  match g.positional with
  | [v] => return v
  | vs =>
    typeFault (name ++ "() takes exactly one argument (" ++ toString vs.length ++ " given)")

/-- Between `low` and `high` positional arguments, for a built-in function. -/
def between (g : Given) (typeName name : String) (low high : Nat) : Eval (List Value) := do
  unless g.named.isEmpty do typeFault (typeName ++ "." ++ name ++ "() takes no keyword arguments")
  let n := g.positional.length
  let counted (k : Nat) : String := toString k ++ (if k = 1 then " argument" else " arguments")
  if n < low then
    typeFault (name ++ " expected " ++ (if low = high then "" else "at least ") ++ counted low ++
      ", got " ++ toString n)
  if high < n then
    typeFault (name ++ " expected " ++ (if low = high then "" else "at most ") ++ counted high ++
      ", got " ++ toString n)
  return g.positional

/-- Optional arguments by position or name, for a built-in function. -/
def optional (g : Given) (name : String) (ps : List Parameter) : Eval (List Value) := do
  let total := g.positional.length + g.named.length
  if ps.length < total then
    typeFault (name ++ "() takes at most " ++
      Signature.counted ps.length (if g.positional.isEmpty then "keyword argument" else "argument") ++
      " (" ++ toString total ++ " given)")
  for (k, _) in g.named do
    match ps.findIdx? (·.name == k) with
    | none => typeFault (Text.quoted k ++ " is an invalid keyword argument for " ++ name ++ "()")
    | some i =>
      if i < g.positional.length then
        typeFault ("argument for " ++ name ++ "() given by name (" ++ Text.quoted k ++
          ") and position (" ++ toString (i + 1) ++ ")")
  return g.positional ++ (Signature.fillNamed g.named (ps.drop g.positional.length)).1

end Given

namespace Eval

/-- A value as an index. -/
def indexOf (v : Value) : Eval Int :=
  match v.int?, v with
  | some i, _ => return i
  | none, .undefined message false => fault .undefined message
  | none, v => typeFault ("\x27" ++ v.typeName ++ "\x27 object cannot be interpreted as an integer")

/-- A value as a number of items. -/
def countOf (v : Value) : Eval Int := do
  let n ← indexOf v
  if maxCount < n || n < -maxCount - 1 then
    fault .overflow "Python int too large to convert to C ssize_t"
  return n

/-- A value as a number of few items. -/
def smallCountOf (v : Value) : Eval Int := do
  let n ← indexOf v
  if maxSmallCount < n || n < -maxSmallCount - 1 then
    fault .overflow "Python int too large to convert to C int"
  return n

/-- A value as a number of characters that there is room for; a negative one is zero. -/
def roomOf (v : Value) : Eval Nat := do
  let n ← countOf v
  if maxRoom < n then fault .memory ""
  return n.toNat

/-- An optional index. -/
def sliceIndex (v : Value) : Eval (Option Int) :=
  match v, v.int? with
  | .none, _ => return none
  | _, some i => return some i
  | _, none =>
    typeFault "slice indices must be integers or None or have an __index__ method"

end Eval

/-- The positions that a slice of a sequence of `n` items takes, in order. -/
def slicePositions (n : Nat) (start stop step : Option Int) : Except Fault (List Nat) :=
  let step := step.getD 1
  if step = 0 then .error ⟨.value, "slice step cannot be zero"⟩
  else
    let n : Int := n
    let clamp (low high i : Int) : Int := max low (min high (if i < 0 then i + n else i))
    let (a, b) :=
      if 0 < step then
        ((start.map (clamp 0 n)).getD 0, (stop.map (clamp 0 n)).getD n)
      else
        ((start.map (clamp (-1) (n - 1))).getD (n - 1),
          (stop.map (clamp (-1) (n - 1))).getD (-1))
    .ok ((rangeItems a b step).map Int.toNat)

/-- The items at some positions. -/
def pick (xs : List α) (positions : List Nat) : List α :=
  let array := xs.toArray
  positions.filterMap fun i => array[i]?

end TypeWeave.Template
