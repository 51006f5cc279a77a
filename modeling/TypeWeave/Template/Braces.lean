import TypeWeave.Template.Layout
import TypeWeave.Text.Search

/-!
# Brace formats

A text with replacement fields in braces. A field names an argument by position or by name, may
reach into it, may convert it to text, and may ask for a layout.
-/

namespace TypeWeave.Template.Braces

open Eval

/-- How a field reaches into its argument. -/
inductive Access where
  | attribute (name : String)
  | item (key : String)

/-- The accesses behind the name of an argument. -/
def accesses (fuel : Nat) (cs : List Char) : Except Fault (List Access) :=
  match fuel, cs with
  | 0, _ => .ok []
  | _, [] => .ok []
  | fuel + 1, '.' :: cs => do
    let name := cs.takeWhile fun c => c != '.' && c != '['
    if name.isEmpty then throw ⟨.value, "Empty attribute in format string"⟩
    return .attribute (String.ofList name) :: (← accesses fuel (cs.drop name.length))
  | fuel + 1, '[' :: cs => do
    let key := cs.takeWhile (· != ']')
    match cs.drop key.length with
    | [] => throw ⟨.value, "Missing ']' in format string"⟩
    | _ :: rest =>
      if key.isEmpty then throw ⟨.value, "Empty attribute in format string"⟩
      return .item (String.ofList key) :: (← accesses fuel rest)
  | _, _ => .error ⟨.value, "Only '.' or '[' may follow ']' in format field specifier"⟩

/-- What fields draw on: arguments by position and by name, and access to attributes and items. -/
structure Source where
  positional : List Value
  named : List (String × Value)
  getAttribute : Value → String → Eval Value
  getItem : Value → Value → Eval Value

/-- A number in a field. -/
def number? (cs : List Char) : Option Nat :=
  if cs.isEmpty || !cs.all Char.isDigit then none else some (Percent.digits cs).1

/-- The value that a field names; `auto` is the number for a field without a name, unless fields
are numbered by hand. -/
def fieldValue (source : Source) (auto : Option Nat) (cs : List Char) :
    Eval (Value × Option Nat) := do
  let name := cs.takeWhile fun c => c != '.' && c != '['
  let path ← match accesses (cs.length + 1) (cs.drop name.length) with
    | .ok a => pure a
    | .error f => throw f
  let at' (i : Nat) : Eval Value := match source.positional[i]? with
    | some v => return v
    | none =>
      fault .index ("Replacement index " ++ toString i ++ " out of range for positional args tuple")
  let (base, auto) ←
    if name.isEmpty then
      match auto with
      | some i => do pure (← at' i, some (i + 1))
      | none =>
        fault .value ("cannot switch from manual field specification to automatic field numbering")
    else
      match number? name with
      | some i =>
        if auto.getD 0 != 0 then
          fault .value ("cannot switch from automatic field numbering to manual field specification")
        else do pure (← at' i, none)
      | none =>
        match source.named.lookup (String.ofList name) with
        | some v => pure (v, auto)
        | none => fault .key (Text.quoted (String.ofList name))
  let step (v : Value) (a : Access) : Eval Value := match a with
    | .attribute n => source.getAttribute v n
    | .item k => source.getItem v (match number? k.toList with
      | some i => .int i
      | none => .ofString k)
  return (← path.foldlM step base, auto)

/-- Convert a value to text as a field asks. -/
def convert (conversion : Option Char) (v : Value) : Eval Value :=
  match conversion with
  | none => return v
  | some 's' => do return .ofString (← display v)
  | some 'r' => do return .ofString (← inspect v)
  | some 'a' => do return .ofString (Percent.asciiOnly (← inspect v))
  | some c =>
    fault .value ("Unknown conversion specifier '" ++ c.toString ++ "'")

/-- The inside of a field up to its closing brace; braces inside must balance. -/
def untilClose (depth : Nat) : List Char → Option (List Char × List Char)
  | [] => none
  | '\x7d' :: cs =>
    match depth with
    | 0 => some ([], cs)
    | d + 1 => (untilClose d cs).map fun (f, rest) => ('\x7d' :: f, rest)
  | '\x7b' :: cs => (untilClose (depth + 1) cs).map fun (f, rest) => ('\x7b' :: f, rest)
  | c :: cs => (untilClose depth cs).map fun (f, rest) => (c :: f, rest)

/-- Cut a field into its name, conversion and layout. -/
def cutField (cs : List Char) : List Char × Option Char × List Char :=
  let name := cs.takeWhile fun c => c != '!' && c != ':'
  match cs.drop name.length with
  | '!' :: c :: ':' :: spec => (name, some c, spec)
  | '!' :: c :: _ => (name, some c, [])
  | ':' :: spec => (name, none, spec)
  | _ => (name, none, [])

/-- Format the rest of a text. `nesting` bounds fields inside fields and `fuel` the characters. -/
def formatFrom (source : Source) (nesting fuel : Nat) (auto : Option Nat) (cs : List Char) :
    Eval (List Char × Option Nat) :=
  match nesting, fuel, cs with
  | 0, _, _ => fault .value "Max string recursion exceeded"
  | _, 0, _ => return ([], auto)
  | _, _, [] => return ([], auto)
  | nesting + 1, fuel + 1, '\x7b' :: '\x7b' :: cs => do
    let (out, auto) ← formatFrom source (nesting + 1) fuel auto cs
    return ('\x7b' :: out, auto)
  | nesting + 1, fuel + 1, '\x7d' :: '\x7d' :: cs => do
    let (out, auto) ← formatFrom source (nesting + 1) fuel auto cs
    return ('\x7d' :: out, auto)
  | _, _, '\x7d' :: _ => fault .value "Single '\x7d' encountered in format string"
  | _, _, ['\x7b'] => fault .value "Single '\x7b' encountered in format string"
  | nesting + 1, fuel + 1, '\x7b' :: cs => do
    match untilClose 0 cs with
    | none => fault .value "expected '\x7d' before end of string"
    | some (field, rest) =>
      let (name, conversion, spec) := cutField field
      let (v, auto) ← fieldValue source auto name
      let v ← convert conversion v
      let (spec, auto) ← formatFrom source nesting fuel auto spec
      let out ← Layout.ofValue spec v
      let (more, auto) ← formatFrom source (nesting + 1) fuel auto rest
      return (out ++ more, auto)
  | nesting + 1, fuel + 1, c :: cs => do
    let (out, auto) ← formatFrom source (nesting + 1) fuel auto cs
    return (c :: out, auto)

/-- Format a text. -/
def format (source : Source) (template : String) : Eval String := do
  let cs := template.toList
  let (out, _) ← formatFrom source 2 (cs.length + 1) (some 0) cs
  return String.ofList out

end TypeWeave.Template.Braces
