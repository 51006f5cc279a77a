import TypeWeave.Number.Layout
import TypeWeave.Number.Reading
import TypeWeave.Template.Filter.Basic

/-!
# Filters on numbers

Conversion to numbers, rounding, magnitudes and sizes of files.
-/

namespace TypeWeave.Template.Filter

open Eval

/-- The float that a value stands for, if it stands for one. -/
def floatOf? (v : Value) : Eval (Option Float) := do
  match v with
  | .text s _ => return Number.readFloat? s.toList
  | .undefined message _ => fault .undefined message
  | v =>
    match v.numeral? with
    | some n => return some (← toFloat n)
    | none => return none

/-- The float that a value stands for. -/
def floatOf (v : Value) : Eval Float := do
  match ← floatOf? v, v with
  | some x, _ => return x
  | none, .text s _ => fault .value ("could not convert string to float: " ++ Text.quoted s)
  | none, v =>
    typeFault ("float() argument must be a string or a real number, not \x27" ++ v.typeName ++ "\x27")

/-- The integer part of a float. -/
def integerOf (x : Float) : Eval Int :=
  match Number.truncate? x with
  | some i => return i
  | none =>
    if x.isNaN then fault .value "cannot convert float NaN to integer"
    else fault .overflow "cannot convert float infinity to integer"

/-- The integer that a value stands for directly. -/
def integerOf? (base : Int) (v : Value) : Eval (Option Int) := do
  match v with
  | .text s _ => return if base < 0 then none else Number.readInt? base.toNat s.toList
  | .undefined message _ => fault .undefined message
  | .float x => if x.isNaN then return none else return some (← integerOf x)
  | v => return v.int?

/-- A value as an integer, by way of a float if need be. -/
def toInteger (base : Int) (default v : Value) : Eval Value := do
  match ← integerOf? base v with
  | some i => return .int i
  | none =>
    match ← floatOf? v with
    | some x => return ((Number.truncate? x).map .int).getD default
    | none => return default

/-- An integer rounded to a power of ten, ties to even. -/
def roundInt (i : Int) (places : Int) : Int :=
  match places with
  | .ofNat _ => i
  | .negSucc p =>
    let unit := Nat.pow 10 (p + 1)
    let k : Int := Number.roundDiv .even i.natAbs unit * unit
    if i < 0 then -k else k

/-- A value rounded to a number of places, ties to even. -/
def roundValue (v : Value) (places : Int) : Eval Value := do
  match v with
  | .float x =>
    match Number.roundPlaces x places with
    | some y => return .float y
    | none => fault .overflow "rounded value too large to represent"
  | v =>
    match v.int? with
    | some i => return .int (roundInt i places)
    | none => typeFault ("type " ++ v.typeName ++ " doesn\x27t define __round__ method")

/-- A value rounded up or down: it is scaled, brought to an integer and scaled back. -/
def roundToward (toward : Float → Option Int) (v : Value) (places : Value) : Eval Value := do
  let unit ← arithmetic Access.item .pow (.int 10) places
  let scaled ← arithmetic Access.item .mul v unit
  let whole ← match scaled, scaled.int? with
    | _, some i => pure i
    | .float x, _ =>
      match toward x with
      | some i => pure i
      | none => integerOf x
    | v, _ => typeFault ("must be real number, not " ++ v.typeName)
  arithmetic Access.item .div (.int whole) unit

/-- The smallest integer not below a finite float. -/
def ceiling? (x : Float) : Option Int := (Number.floor? (-x)).map fun i => -i

/-- The size of a file in the largest fitting unit. -/
def sizeText (binary : Bool) (x : Float) : Eval String := do
  let base : Float := if binary then 1024 else 1000
  let units := if binary then ["KiB", "MiB", "GiB", "TiB", "PiB", "EiB", "ZiB", "YiB"]
    else ["kB", "MB", "GB", "TB", "PB", "EB", "ZB", "YB"]
  if x == 1 then return "1 Byte"
  if x < base then return toString (← integerOf x) ++ " Bytes"
  let shown (power : Nat) : String :=
    let (negative, digits) := Number.floatText .fixed false 1 (base * x / base.pow power.toFloat)
    String.ofList (if negative then '-' :: digits else digits)
  let rec fit (power : Nat) : List String → String
    | [] => shown (power - 1) ++ " " ++ units.getLast?.getD ""
    | u :: us => if x < base.pow power.toFloat then shown power ++ " " ++ u else fit (power + 1) us
  return fit 2 units

/-- The filters on numbers. -/
def numbers : List (String × Filter) :=
  [("abs", simple "abs" [] [] fun _ v _ => do
      match v, v.int? with
      | _, some i => return .int i.natAbs
      | .float x, _ => return .float x.abs
      | v, _ => typeFault ("bad operand type for abs(): \x27" ++ v.typeName ++ "\x27")),
    ("float", simple "do_float" ["value"] [optional "default" (.float 0)] fun _ v args => do
      match ← floatOf? v with
      | some x => return .float x
      | none => return args.headD .none),
    ("int", simple "do_int" ["value"] [optional "default" (.int 0), optional "base" (.int 10)]
      fun _ v args => do
        let base ← match v with
          | .text .. => indexOf (args.getD 1 .none)
          | _ => pure 10
        toInteger base (args.getD 0 .none) v),
    ("round", simple "do_round" ["value"] [optional "precision" (.int 0),
        optional "method" (.ofString "common")] fun _ v args => do
      match args.getD 1 .none with
      | .text "common" _ => do
        match v with
        | .undefined .. => typeFault ("type " ++ v.typeName ++ " doesn\x27t define __round__ method")
        | v => roundValue v (← indexOf (args.getD 0 .none))
      | .text "ceil" _ => roundToward ceiling? v (args.getD 0 .none)
      | .text "floor" _ => roundToward Number.floor? v (args.getD 0 .none)
      | _ => fault .template "method must be common, ceil or floor"),
    ("filesizeformat", simple "do_filesizeformat" ["value"] [optional "binary" (.bool false)]
      fun _ v args => do
        let x ← floatOf v
        return .ofString (← sizeText (← truth (args.headD .none)) x))]

end TypeWeave.Template.Filter
