import TypeWeave.Template.Markup
import TypeWeave.Template.Order
import TypeWeave.Template.Percent

/-!
# Arithmetic on values

Integers are exact and of any size. A quotient is a float; the whole quotient and the remainder
follow the floor, so the remainder has the sign of the divisor. Texts, lists and tuples can be
joined and repeated, and a text with a remainder sign behind it is a format.
-/

namespace TypeWeave.Template

/-- The symbol of an operator. -/
def Binary.symbol : Binary → String
  | .add => "+"
  | .sub => "-"
  | .mul => "*"
  | .div => "/"
  | .floorDiv => "//"
  | .mod => "%"
  | .pow => "** or pow()"
  | .both => "and"
  | .either => "or"

namespace Eval

/-- Operands that do not go together. -/
def unsupported (op : Binary) (a b : Value) : Eval α :=
  typeFault ("unsupported operand type(s) for " ++ op.symbol ++ ": \x27" ++ a.typeName ++
    "\x27 and \x27" ++ b.typeName ++ "\x27")

/-- Division by zero. -/
def divisionByZero (message : String) : Eval α := fault .zeroDivision message

/-- A number as a float. -/
def toFloat (n : Numeral) : Eval Float :=
  match n with
  | .float x => return x
  | .int i =>
    match Number.ofInt? i with
    | some x => return x
    | none => fault .overflow "int too large to convert to float"

/-- The quotient of two integers, rounded to the nearest float. -/
def intQuotient (a b : Int) : Eval Value :=
  if b = 0 then divisionByZero "division by zero"
  else
    match Number.nearest? ((a < 0) != (b < 0)) a.natAbs b.natAbs with
    | some x => return .float x
    | none => fault .overflow "integer division result too large for a float"

/-- Zero with the sign of a float. -/
def zeroLike (x : Float) : Float := if x.toBits >>> 63 == 1 then -0.0 else 0.0

/-- The whole quotient and the remainder of two floats, by the floor. -/
def floatDivMod (x y : Float) : Float × Float :=
  let r := Number.remainder x y
  let q := (x - r) / y
  let (r, q) :=
    if r != 0 then (if (y < 0) != (r < 0) then (r + y, q - 1) else (r, q)) else (zeroLike y, q)
  let whole :=
    if q != 0 then
      let f := q.floor
      if q - f > 0.5 then f + 1 else f
    else zeroLike (x / y)
  (whole, r)

/-- The power of two floats. -/
def floatPower (x y : Float) : Eval Value :=
  if x == 0 && y < 0 then divisionByZero "0.0 cannot be raised to a negative power"
  else
    let r := x.pow y
    if r.isInf && !x.isInf && !y.isInf then
      fault .overflow "(34, 'Numerical result out of range')"
    else return .float r

/-- An operator on two numbers. -/
def numeric (op : Binary) (a b : Numeral) : Eval Value := do
  match op, a, b with
  | .add, .int a, .int b => return .int (a + b)
  | .sub, .int a, .int b => return .int (a - b)
  | .mul, .int a, .int b => return .int (a * b)
  | .div, .int a, .int b => intQuotient a b
  | .floorDiv, .int a, .int b =>
    if b = 0 then divisionByZero "integer division or modulo by zero" else return .int (a.fdiv b)
  | .mod, .int a, .int b =>
    if b = 0 then divisionByZero "integer modulo by zero" else return .int (a.fmod b)
  | .pow, .int a, .int b =>
    if 0 ≤ b then return .int (Int.pow a b.toNat)
    else floatPower (← toFloat (.int a)) (← toFloat (.int b))
  | op, a, b =>
    let x ← toFloat a
    let y ← toFloat b
    match op with
    | .add => return .float (x + y)
    | .sub => return .float (x - y)
    | .mul => return .float (x * y)
    | .div => if y == 0 then divisionByZero "float division by zero" else return .float (x / y)
    | .floorDiv =>
      if y == 0 then divisionByZero "float floor division by zero"
      else return .float (floatDivMod x y).1
    | .mod => if y == 0 then divisionByZero "float modulo" else return .float (floatDivMod x y).2
    | _ => floatPower x y

/-- A list repeated; a negative count repeats it zero times. -/
def repeated (n : Int) (xs : List α) : List α := (List.replicate n.toNat xs).flatten

/-- Join a text with markup around it: plain text is escaped. -/
def escapeUnlessSafe (s : String) (safe : Bool) : String := if safe then s else Markup.escape s

/-- Refuse to repeat some items too often. -/
def checkRoom (items : Nat) (n : Int) : Eval Unit := do
  if maxCount < n || n < -maxCount - 1 then
    fault .overflow "cannot fit \x27int\x27 into an index-sized integer"
  if maxRoom < items * n then fault .memory ""

/-- A sequence repeated a number of times. -/
def repeatValue (v : Value) (n : Int) : Eval (Option Value) := do
  checkRoom (match v with
    | .text s _ => s.length
    | .bytes bs => bs.length
    | .tuple items => items.length
    | _ => 1) n
  match v with
  | .text s safe => return some (.text (String.ofList (repeated n s.toList)) safe)
  | .bytes bs => return some (.bytes (repeated n bs))
  | .tuple items => return some (.tuple (repeated n items))
  | .list r => return some (← newList (repeated n (← listItems r)))
  | _ => return none

/-- Whether a value can be repeated. -/
def isSequence : Value → Bool
  | .text .. | .bytes _ | .tuple _ | .list _ => true
  | _ => false

/-- An operator on two values; `lookup` finds the named arguments of a format. -/
def arithmetic (lookup : Value → Value → Eval Value) (op : Binary) (a b : Value) : Eval Value := do
  match op, a, b with
  | .mod, .text s safe, b =>
    return .text (← Percent.format lookup s b) safe
  | _, .undefined message _, _ => fault .undefined message
  | _, _, .undefined message _ => fault .undefined message
  | .add, .text s x, .text t y =>
    if x || y then return .text (escapeUnlessSafe s x ++ escapeUnlessSafe t y) true
    else return .ofString (s ++ t)
  | .add, .bytes x, .bytes y => return .bytes (x ++ y)
  | .add, .tuple xs, .tuple ys => return .tuple (xs ++ ys)
  | .add, .list r, .list q => do newList ((← listItems r) ++ (← listItems q))
  | .add, .text _ false, b =>
    typeFault ("can only concatenate str (not \"" ++ b.typeName ++ "\") to str")
  | .add, .tuple _, b =>
    typeFault ("can only concatenate tuple (not \"" ++ b.typeName ++ "\") to tuple")
  | .add, .list _, b =>
    typeFault ("can only concatenate list (not \"" ++ b.typeName ++ "\") to list")
  | .div, .path p, .path q => return .path (p.join q)
  | .div, .path p, .text s _ => return .path (p.join (File.Path.ofString s))
  | .div, .text s _, .path q => return .path ((File.Path.ofString s).join q)
  | op, a, b =>
    match a.numeral?, b.numeral? with
    | some x, some y => numeric op x y
    | _, _ =>
      if op = .mul then
        match isSequence a, b.int?, isSequence b, a.int? with
        | true, some n, _, _ => do
          match ← repeatValue a n with
          | some v => return v
          | none => unsupported op a b
        | _, _, true, some n => do
          match ← repeatValue b n with
          | some v => return v
          | none => unsupported op a b
        | true, none, _, _ =>
          typeFault ("can't multiply sequence by non-int of type \x27" ++ b.typeName ++ "\x27")
        | _, _, true, none =>
          typeFault ("can't multiply sequence by non-int of type \x27" ++ a.typeName ++ "\x27")
        | _, _, _, _ => unsupported op a b
      else unsupported op a b

/-- A signed value. -/
def signed (op : Unary) (v : Value) : Eval Value := do
  match op, v with
  | .negate, v => return .bool !(← truth v)
  | _, .undefined message _ => fault .undefined message
  | .negative, .float x => return .float (-x)
  | .positive, .float x => return .float x
  | op, v =>
    match v.int? with
    | some i => return .int (if op = .negative then -i else i)
    | none =>
      typeFault ("bad operand type for unary " ++ (if op = .negative then "-" else "+") ++ ": \x27" ++
        v.typeName ++ "\x27")

/-- Values joined as text. Where output is escaped, one piece of markup makes all of it markup. -/
def concat (escaping : Bool) (vs : List Value) : Eval Value := do
  let pieces ← vs.mapM fun v => match v with
    | .text s safe => return (s, safe)
    | v => do return (← display v, false)
  if escaping && pieces.any (·.2) then
    return .text (String.join (pieces.map fun (s, safe) => escapeUnlessSafe s safe)) true
  else return .ofString (String.join (pieces.map (·.1)))

end Eval

end TypeWeave.Template
