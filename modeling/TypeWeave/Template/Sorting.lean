import TypeWeave.Template.Order

/-!
# Sorting values

A stable sort by keys. Two keys are compared only by `<`, and in a fixed order, so that keys that
cannot be compared give the fault of the first comparison: the run at the start is found first, then
the other items are inserted one by one by halving.
-/

namespace TypeWeave.Template.Sorting

open Eval

/-- An item with its key. -/
structure Keyed where
  key : Value
  item : Value

/-- Whether a key comes before another. -/
def before (a b : Keyed) : Eval Bool := order .lt a.key b.key

/-- Cut off the run at the start, whose items follow each other as `down` says. -/
def runFrom (down : Bool) (last : Keyed) : List Keyed → Eval (List Keyed × List Keyed)
  | [] => return ([], [])
  | x :: xs => do
    if (← before x last) = down then
      let (run, rest) ← runFrom down x xs
      return (x :: run, rest)
    else return ([], x :: xs)

/-- Where to insert an item among sorted ones: behind all that are not greater. -/
def insertionPoint (fuel : Nat) (sorted : Array Keyed) (x : Keyed) (low high : Nat) : Eval Nat :=
  match fuel with
  | 0 => return low
  | fuel + 1 => do
    if low < high then
      let middle := (low + high) / 2
      match sorted[middle]? with
      | some y =>
        if ← before x y then insertionPoint fuel sorted x low middle
        else insertionPoint fuel sorted x (middle + 1) high
      | none => return low
    else return low

/-- Insert items one by one. -/
def insertAll (sorted : Array Keyed) : List Keyed → Eval (Array Keyed)
  | [] => return sorted
  | x :: xs => do
    let i ← insertionPoint (sorted.size + 1) sorted x 0 sorted.size
    let list := sorted.toList
    insertAll (list.take i ++ x :: list.drop i).toArray xs

/-- Sort by keys. -/
def sortKeyed (xs : List Keyed) : Eval (List Keyed) := do
  match xs with
  | [] => return []
  | [x] => return [x]
  | x :: y :: rest =>
    let down ← before y x
    let (run, rest) ← runFrom down y rest
    let run := x :: y :: run
    return (← insertAll (if down then run.reverse else run).toArray rest).toList

/-- Sort by keys, backwards if asked to; equal items keep their order either way. -/
def sortBy (reverse : Bool) (xs : List Keyed) : Eval (List Value) := do
  let sorted ← if reverse then do pure (← sortKeyed xs.reverse).reverse else sortKeyed xs
  return sorted.map (·.item)

end TypeWeave.Template.Sorting
