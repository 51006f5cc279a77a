import TypeWeave.Number.Binary
import TypeWeave.Template.Value
import TypeWeave.Text.Quoted
import TypeWeave.Text.Search

/-!
# Truth, equality, order and membership of values

Numbers compare by their exact values across types, texts by code points, tuples and lists item by
item. An absent value can neither be tested nor compared, unless it is lenient.
-/

namespace TypeWeave.Template

/-- A number as it is compared. -/
inductive Numeral where
  | int (i : Int)
  | float (x : Float)

/-- The number that a value is. -/
def Value.numeral? : Value → Option Numeral
  | .int i => some (.int i)
  | .bool b => some (.int (if b then 1 else 0))
  | .float x => some (.float x)
  | _ => Option.none

/-- The order of two numbers; none if one of them is not a number. -/
def Numeral.compare? : Numeral → Numeral → Option Ordering
  | .int a, .int b => some (compare a b)
  | .float x, .int b => Number.compareInt? x b
  | .int a, .float y => (Number.compareInt? y a).map Ordering.swap
  | .float x, .float y =>
    if x == y then some .eq else if x < y then some .lt else if y < x then some .gt else none

/-- The number of items of a range. -/
def rangeLength (start stop step : Int) : Nat :=
  if 0 < step then (if start < stop then ((stop - start - 1) / step + 1).toNat else 0)
  else if step < 0 then (if stop < start then ((start - stop - 1) / (-step) + 1).toNat else 0)
  else 0

/-- The items of a range. -/
def rangeItems (start stop step : Int) : List Int :=
  (List.range (rangeLength start stop step)).map fun (i : Nat) => start + (i : Int) * step

/-- The order of two texts by code points. -/
def compareChars : List Char → List Char → Ordering
  | [], [] => .eq
  | [], _ :: _ => .lt
  | _ :: _, [] => .gt
  | a :: as, b :: bs => if a = b then compareChars as bs else compare a.toNat b.toNat

/-- The order of two byte strings. -/
def compareBytes : List UInt8 → List UInt8 → Ordering
  | [], [] => .eq
  | [], _ :: _ => .lt
  | _ :: _, [] => .gt
  | a :: as, b :: bs => if a = b then compareBytes as bs else compare a.toNat b.toNat

/-- The orders of which an ordering comparison holds. -/
def Comparison.accepts : Comparison → Ordering → Bool
  | .lt, o => o == .lt
  | .le, o => o != .gt
  | .gt, o => o == .gt
  | .ge, o => o != .lt
  | .eq, o => o == .eq
  | .ne, o => o != .eq
  | _, _ => false

/-- The symbol of a comparison. -/
def Comparison.symbol : Comparison → String
  | .eq => "=="
  | .ne => "!="
  | .lt => "<"
  | .le => "<="
  | .gt => ">"
  | .ge => ">="
  | .member => "in"
  | .absent => "not in"

namespace Eval

/-- The items of a value and the fault that follows them. Items that are read once are gone
afterwards. -/
def source (v : Value) : Eval (List Value × Option Fault) :=
  match v with
  | .text s _ => return (s.toList.map fun c => Value.ofString (String.singleton c), none)
  | .bytes bs => return (bs.map fun b => .int b.toNat, none)
  | .tuple items => return (items, none)
  | .group k r => return ([k, .list r], none)
  | .list r => do return (← listItems r, none)
  | .dict r => do return ((← dictEntries r).map (·.1), none)
  | .view _ items => return (items, none)
  | .range a b c => return ((rangeItems a b c).map .int, none)
  | .cursor r => do
    match ← fetch r with
    | .cursor items failure typeName =>
      assign r (.cursor [] none typeName)
      return (items, failure)
    | _ => return ([], none)
  | .undefined _ true => return ([], none)
  | .undefined message false => fault .undefined message
  | v => typeFault ("\x27" ++ v.typeName ++ "\x27 object is not iterable")

/-- All items of a value. -/
def items (v : Value) : Eval (List Value) := do
  let (vs, failure) ← source v
  match failure with
  | none => return vs
  | some f => throw f

/-- The number of items of a value. -/
def length (v : Value) : Eval Nat :=
  match v with
  | .text s _ => return s.length
  | .bytes bs => return bs.length
  | .tuple vs => return vs.length
  | .group _ _ => return 2
  | .list r => do return (← listItems r).length
  | .dict r => do return (← dictEntries r).length
  | .view _ vs => return vs.length
  | .range a b c => return rangeLength a b c
  | .undefined _ true => return 0
  | .undefined message false => fault .undefined message
  | .loop r => do
    match ← fetch r with
    | .loop l => return l.knownLength
    | _ => return 0
  | v => typeFault ("object of type \x27" ++ v.typeName ++ "\x27 has no len()")

/-- Whether a value counts as true. -/
def truth (v : Value) : Eval Bool :=
  match v with
  | .none => return false
  | .bool b => return b
  | .int i => return i != 0
  | .float x => return x != 0
  | .undefined _ true => return false
  | .undefined message false => fault .undefined message
  | .text .. | .bytes _ | .tuple _ | .list _ | .dict _ | .view .. | .range .. | .loop _
  | .group _ _ => do
    return (← length v) != 0
  | _ => return true

/-- Whether two values are equal, with `fuel` bounding how deep they are compared. -/
def equalWith (fuel : Nat) (a b : Value) : Eval Bool :=
  match fuel with
  | 0 => fault .recursion "maximum recursion depth exceeded in comparison"
  | fuel + 1 =>
    let rec all : List Value → List Value → Eval Bool
      | [], [] => return true
      | x :: xs, y :: ys => do
        if ← equalWith fuel x y then all xs ys else return false
      | _, _ => return false
    let rec find (k : Value) : List (Value × Value) → Eval (Option Value)
      | [] => return none
      | (k', v) :: rest => do
        if ← equalWith fuel k k' then return some v else find k rest
    let rec within (other : List (Value × Value)) : List (Value × Value) → Eval Bool
      | [] => return true
      | (k, v) :: rest => do
        match ← find k other with
        | some w => if ← equalWith fuel v w then within other rest else return false
        | none => return false
    match a, b with
    | .undefined message false, _ => fault .undefined message
    | _, .undefined message false => fault .undefined message
    | .undefined _ true, .undefined _ true => return true
    | .none, .none => return true
    | .text s _, .text t _ => return s == t
    | .bytes x, .bytes y => return x == y
    | .tuple xs, .tuple ys => all xs ys
    | .group a r, .group b q => all [a, .list r] [b, .list q]
    | .group a r, .tuple ys => all [a, .list r] ys
    | .tuple xs, .group b q => all xs [b, .list q]
    | .list r, .list q => do
      if r = q then return true
      all (← listItems r) (← listItems q)
    | .dict r, .dict q => do
      if r = q then return true
      let xs ← dictEntries r
      let ys ← dictEntries q
      if xs.length != ys.length then return false
      within ys xs
    | .view k xs, .view l ys => if k = l then all xs ys else return false
    | .range a b c, .range d e f => return rangeItems a b c == rangeItems d e f
    | .slice a b c, .slice d e f => all [a, b, c] [d, e, f]
    | .member m, .member n => return m == n
    | .declaration d, .declaration e => return d == e
    | .context, .context => return true
    | .path p, .path q => return p == q
    | .method x m, .method y n => do
      if m == n then equalWith fuel x y else return false
    | .routine r, .routine q => return r == q
    | .closure r, .closure q | .cursor r, .cursor q | .space r, .space q | .cycler r, .cycler q
    | .joiner r, .joiner q | .loop r, .loop q => return r == q
    | .blocks, .blocks => return true
    | .block m, .block n => return m == n
    | a, b =>
      match a.numeral?, b.numeral? with
      | some x, some y => return x.compare? y == some .eq
      | _, _ => return false

/-- The deepest nesting of compared values. -/
def compareDepth : Nat := 900

/-- Whether two values are equal. -/
def equal (a b : Value) : Eval Bool := equalWith compareDepth a b

/-- Whether two values are one and the same. Values that never change are the same when they are
equal and of one type. -/
def same (a b : Value) : Eval Bool :=
  match a, b with
  | .list r, .list q | .dict r, .dict q => return r == q
  | .undefined m l, .undefined n k => return m == n && l == k
  | .undefined .., _ | _, .undefined .. => return false
  | .text s x, .text t y => return s == t && x == y
  | a, b => if a.typeName == b.typeName then equal a b else return false

/-- Whether an ordering comparison holds, with `fuel` bounding how deep values are compared. -/
def orderWith (fuel : Nat) (op : Comparison) (a b : Value) : Eval Bool :=
  match fuel with
  | 0 => fault .recursion "maximum recursion depth exceeded in comparison"
  | fuel + 1 =>
    let rec lexicographic : List Value → List Value → Eval Bool
      | [], [] => return op.accepts .eq
      | [], _ :: _ => return op.accepts .lt
      | _ :: _, [] => return op.accepts .gt
      | x :: xs, y :: ys => do
        if ← equal x y then lexicographic xs ys else orderWith fuel op x y
    match a, b with
    | .undefined message _, _ => fault .undefined message
    | _, .undefined message _ => fault .undefined message
    | .text s _, .text t _ => return op.accepts (compareChars s.toList t.toList)
    | .bytes x, .bytes y => return op.accepts (compareBytes x y)
    | .tuple xs, .tuple ys => lexicographic xs ys
    | .group a r, .group b q => lexicographic [a, .list r] [b, .list q]
    | .list r, .list q => do lexicographic (← listItems r) (← listItems q)
    | .path p, .path q =>
      lexicographic (p.parts.map .ofString) (q.parts.map .ofString)
    | a, b =>
      match a.numeral?, b.numeral? with
      | some x, some y =>
        match x.compare? y with
        | some o => return op.accepts o
        | none => return false
      | _, _ =>
        typeFault ("\x27" ++ op.symbol ++ "\x27 not supported between instances of \x27" ++
          a.typeName ++ "\x27 and \x27" ++ b.typeName ++ "\x27")

/-- Whether an ordering comparison holds. -/
def order (op : Comparison) (a b : Value) : Eval Bool := orderWith compareDepth op a b

/-- Whether a value is among others. -/
def among (v : Value) : List Value → Eval Bool
  | [] => return false
  | w :: ws => do
    if ← same v w then return true
    if ← equal w v then return true
    among v ws

/-- Refuse a key that cannot be looked up. -/
def checkKey (fuel : Nat) (k : Value) : Eval Unit :=
  match fuel, k with
  | 0, _ => return ()
  | _, .list _ | _, .dict _ | _, .slice .. | _, .context =>
    typeFault ("unhashable type: \x27" ++ k.typeName ++ "\x27")
  | _, .undefined message false => fault .undefined message
  | fuel + 1, .tuple vs => vs.forM (checkKey fuel)
  | _, _ => return ()

/-- Whether a value contains another. -/
def contains (container v : Value) : Eval Bool := do
  match container, v with
  | .undefined message false, _ => fault .undefined message
  | .text s _, .text t _ => return Text.contains t.toList s.toList
  | .text .., .undefined message false => fault .undefined message
  | .text .., v =>
    typeFault ("\x27in <string>\x27 requires string as left operand, not " ++ v.typeName)
  | .dict _, v | .view .keys _, v =>
    checkKey 100 v
    among v (← items container)
  | .tuple _, _ | .group _ _, _ | .list _, _ | .view .., _ | .range .., _ | .cursor _, _
  | .bytes _, _ | .undefined _ true, _ => among v (← items container)
  | container, _ =>
    typeFault ("argument of type \x27" ++ container.typeName ++ "\x27 is not iterable")

/-- Whether a comparison holds. -/
def holds (op : Comparison) (a b : Value) : Eval Bool :=
  match op with
  | .eq => equal a b
  | .ne => do return !(← equal a b)
  | .member => contains b a
  | .absent => do return !(← contains b a)
  | op => order op a b

end Eval

end TypeWeave.Template
