import TypeWeave.Template.Printing
import TypeWeave.Template.Sorting
import TypeWeave.Text.Lines

/-!
# Pretty printing

A printed value on one line if it fits into eighty columns, and otherwise with its parts on lines of
their own. Dictionaries are shown in the order of their keys.
-/

namespace TypeWeave.Template.Pretty

open Eval

/-- The width of a line. -/
def width : Int := 80

/-- Entries in the order of their keys, or as they are if the keys cannot be compared. -/
def sortedEntries (entries : List (Value × Value)) : Eval (List (Value × Value)) := fun s =>
  let sort : Eval (List (Value × Value)) := do
    let sorted ← Sorting.sortBy false (entries.map fun (k, v) => ⟨k, .tuple [k, v]⟩)
    return sorted.filterMap fun
      | .tuple [k, v] => some (k, v)
      | _ => none
  match sort.run s with
  | .ok r => .ok r
  | .error _ => .ok (entries, s)

/-- The text of a value on one line. -/
def flat (fuel : Nat) (v : Value) : Eval String :=
  match fuel with
  | 0 => inspect v
  | fuel + 1 => do
    match v with
    | .tuple vs => return tupleText (← vs.mapM (flat fuel))
    | .list r => return bracketed "[" (← (← listItems r).mapM (flat fuel)) "]"
    | .dict r =>
      let entries ← sortedEntries (← dictEntries r)
      let pieces ← entries.mapM fun (k, v) => do return (← flat fuel k) ++ ": " ++ (← flat fuel v)
      return bracketed "\x7b" pieces "\x7d"
    | v => inspect v

/-- A line end and an indentation. -/
def lineBreak (indent : Int) : String := "\n" ++ String.ofList (List.replicate indent.toNat ' ')

/-- Lay out parts one below the other; the last one leaves room for what closes them. -/
def column (format : Int → α → Eval String) (indent allowance : Int) (parts : List α) :
    Eval String := do
  let pieces ← parts.zipIdx.mapM fun (p, i) =>
    format (if i + 1 = parts.length then allowance else 1) p
  return ("," ++ lineBreak indent).intercalate pieces

/-- The words of a line, each with the white space behind it. -/
def chunks (fuel : Nat) (cs : List Char) : List (List Char) :=
  match fuel, cs with
  | 0, _ => []
  | _, [] => []
  | fuel + 1, cs =>
    let word := cs.takeWhile (!Text.isBlank ·)
    let rest := cs.drop word.length
    let gap := rest.takeWhile Text.isBlank
    (word ++ gap) :: chunks fuel (rest.drop gap.length)

/-- Join chunks into pieces whose quoted forms fit; the last piece must leave room. -/
def fitChunks (room lastRoom : Int) (current : List Char) : List (List Char) → List String
  | [] => if current.isEmpty then [] else [Text.quoted (String.ofList current)]
  | c :: cs =>
    let limit := if cs.isEmpty then lastRoom else room
    let joined := current ++ c
    if ((Text.quoted (String.ofList joined)).length : Int) > limit then
      (if current.isEmpty then [] else [Text.quoted (String.ofList current)]) ++
        fitChunks room lastRoom c cs
    else fitChunks room lastRoom joined cs

/-- The quoted pieces of a text that does not fit on one line. -/
def textPieces (room allowance : Int) (lines : List (List Char)) : List String :=
  lines.zipIdx.flatMap fun (line, i) =>
    let isLast := i + 1 == lines.length
    let whole := Text.quoted (String.ofList line)
    if (whole.length : Int) ≤ (if isLast then room - allowance else room) then [whole]
    else fitChunks room (if isLast then room - allowance else room) [] (chunks line.length line)

/-- The fields of a member or declaration. -/
def fields? (v : Value) : Option (List (String × Value)) :=
  match v with
  | .member m =>
    some [("name", .ofString m.name), ("type_name", .ofString m.typeName),
      ("tag", match m.tag with
        | some t => .ofString t
        | none => .none),
      ("line", .int m.line)]
  | .declaration d =>
    some [("name", .ofString d.name), ("package", .ofString d.package), ("kind", .ofString d.kind),
      ("members", .tuple (d.members.map .member)),
      ("embedded", .tuple (d.embedded.map .ofString)), ("source_file", .path d.file),
      ("line", .int d.line)]
  | _ => none

/-- Lay out a value that starts at a column and is followed by `allowance` characters. -/
def layout (fuel : Nat) (indent allowance : Int) (level : Nat) (v : Value) : Eval String :=
  match fuel with
  | 0 => inspect v
  | fuel + 1 => do
    let line ← flat 900 v
    if (line.length : Int) ≤ width - indent - allowance then return line
    let parts (vs : List Value) (closing : Int) : Eval String :=
      column (fun allowance v => layout fuel (indent + 1) allowance (level + 1) v) (indent + 1)
        (allowance + closing) vs
    match v with
    | .list r => return "[" ++ (← parts (← listItems r) 1) ++ "]"
    | .tuple [v] => return "(" ++ (← parts [v] 2) ++ ",)"
    | .tuple vs => return "(" ++ (← parts vs 1) ++ ")"
    | .dict r =>
      let entries ← sortedEntries (← dictEntries r)
      let shown ← column (fun allowance (e : Value × Value) => do
        let key ← flat 900 e.1
        let value ← layout fuel (indent + 1 + key.length + 2) allowance (level + 1) e.2
        return key ++ ": " ++ value) (indent + 1) (allowance + 1) entries
      return "\x7b" ++ shown ++ "\x7d"
    | .text s false =>
      let lines := (Text.linesWithEnds s.toList).map fun (l, e) => l ++ e
      let outer := level == 0
      let indent := if outer then indent + 1 else indent
      let allowance := if outer then allowance + 1 else allowance
      match textPieces (width - indent) allowance lines with
      | [piece] => return piece
      | pieces =>
        let body := (lineBreak indent).intercalate pieces
        return if outer then "(" ++ body ++ ")" else body
    | v =>
      match fields? v with
      | some fs =>
        let indent := indent + v.typeName.length + 1
        let shown ← column (fun allowance (f : String × Value) => do
          let value ← layout fuel (indent + f.1.length + 1) allowance (level + 1) f.2
          return f.1 ++ "=" ++ value) indent allowance fs
        return v.typeName ++ "(" ++ shown ++ ")"
      | none => return line

/-- A pretty printed value. -/
def print (v : Value) : Eval String := layout 900 0 0 0 v

end TypeWeave.Template.Pretty
