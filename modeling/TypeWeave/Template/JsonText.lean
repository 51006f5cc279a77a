import TypeWeave.Json.Quoted
import TypeWeave.Template.Printing
import TypeWeave.Template.Sorting

/-!
# Values as JSON

The JSON text of a value, with the keys of dictionaries in order. It is written for a place inside
markup: the characters that markup minds are escaped.
-/

namespace TypeWeave.Template.JsonText

open Eval

/-- The text of a float. -/
def floatText (x : Float) : String :=
  if x != x then "NaN"
  else if x.isInf then (if x < 0 then "-Infinity" else "Infinity")
  else Number.printed.text x

/-- The text of a key. -/
def keyText (k : Value) : Eval String := do
  match k with
  | .text s _ => return s
  | .bool b => return if b then "true" else "false"
  | .none => return "null"
  | .int i =>
    match integerText i with
    | .ok s => return s
    | .error f => throw f
  | .float x => return floatText x
  | k => typeFault ("keys must be str, int, float, bool or None, not " ++ k.typeName)

/-- Pieces between brackets; with an indent each piece stands on a line of its own. -/
def enclose (opening closing : String) (indent : Option String) (level : Nat)
    (pieces : List String) : String :=
  if pieces.isEmpty then opening ++ closing
  else
    match indent with
    | none => opening ++ ", ".intercalate pieces ++ closing
    | some i =>
      let line (n : Nat) : String := "\n" ++ String.join (List.replicate n i)
      opening ++ line (level + 1) ++ ("," ++ line (level + 1)).intercalate pieces ++ line level ++
        closing

/-- The JSON text of a value, with `fuel` bounding how deep values nest. -/
def textWith (fuel : Nat) (indent : Option String) (level : Nat) (v : Value) : Eval String :=
  match fuel with
  | 0 => fault .value "Circular reference detected"
  | fuel + 1 => do
    let array (vs : List Value) : Eval String := do
      return enclose "[" "]" indent level (← vs.mapM (textWith fuel indent (level + 1)))
    match v with
    | .none => return "null"
    | .bool b => return if b then "true" else "false"
    | .int i =>
      match integerText i with
      | .ok s => return s
      | .error f => throw f
    | .float x => return floatText x
    | .text s _ => return Json.quoteString s
    | .tuple vs => array vs
    | .group k r => array [k, .list r]
    | .list r => array (← listItems r)
    | .dict r =>
      let entries ← dictEntries r
      let sorted ← Sorting.sortBy false
        (entries.map fun (k, v) => ⟨.tuple [k, v], .tuple [k, v]⟩)
      let pieces ← sorted.mapM fun e => do
        match e with
        | .tuple [k, v] =>
          return Json.quoteString (← keyText k) ++ ": " ++ (← textWith fuel indent (level + 1) v)
        | _ => return ""
      return enclose "\x7b" "\x7d" indent level pieces
    | v => typeFault ("Object of type " ++ v.typeName ++ " is not JSON serializable")

/-- Escape the characters that markup minds. -/
def guardChar (c : Char) : List Char :=
  if c == '<' || c == '>' || c == '&' || c == '\x27' then Json.unitEscape c.toNat else [c]

/-- The JSON text of a value for a place inside markup. -/
def guarded (indent : Option String) (v : Value) : Eval Value := do
  let s ← textWith 900 indent 0 v
  return .text (String.ofList (s.toList.flatMap guardChar)) true

end TypeWeave.Template.JsonText
