import TypeWeave.Template.Loop
import TypeWeave.Template.Printing
import TypeWeave.Template.TextMethods

/-!
# Attributes, items and slices

`v.a` prefers the attribute and falls back on the item, `v[k]` the other way round; when neither is
there the result is an absent value that says so. Slices are strict.
-/

namespace TypeWeave.Template.Access

open Eval

/-- The methods of lists. -/
def listMethods : List String :=
  ["append", "clear", "copy", "count", "extend", "index", "insert", "pop", "remove", "reverse", "sort"]

/-- The methods of dictionaries. -/
def dictMethods : List String :=
  ["clear", "copy", "fromkeys", "get", "items", "keys", "pop", "popitem", "setdefault", "update",
    "values"]

/-- The methods of paths. -/
def pathMethods : List String :=
  ["as_posix", "is_absolute", "joinpath", "with_name", "with_suffix", "with_stem", "relative_to",
    "match"]

/-- A tuple of texts. -/
def texts (ss : List String) : Value := .tuple (ss.map .ofString)

/-- The members of a declaration as values. -/
def membersOf (d : Go.Declaration) : Value := .tuple (d.members.map .member)

/-- The suffix of a file name, with its dot. -/
def suffixOf (name : String) : String :=
  match Text.breakOnLast? ['.'] name.toList with
  | some (before, after) =>
    if before.isEmpty || after.isEmpty then "" else String.ofList ('.' :: after)
  | none => ""

/-- All suffixes of a file name. -/
def suffixesOf (name : String) : List String :=
  if name.endsWith "." then []
  else
    ((Text.splitOn ['.'] (name.toList.dropWhile (· == '.'))).drop 1).map fun s =>
      String.ofList ('.' :: s)

/-- A file name without its suffix. -/
def stemOf (name : String) : String :=
  String.ofList (name.toList.take (name.length - (suffixOf name).length))

/-- The attributes of a member. -/
def memberAttribute? (m : Go.Member) (name : String) : Option Value :=
  match name with
  | "name" => some (.ofString m.name)
  | "type_name" => some (.ofString m.typeName)
  | "tag" => some (match m.tag with
    | some t => .ofString t
    | none => .none)
  | "line" => some (.int m.line)
  | "tag_lookup" => some (.method (.member m) name)
  | _ => none

/-- The attributes of a declaration. -/
def declarationAttribute? (d : Go.Declaration) (name : String) : Option Value :=
  match name with
  | "name" => some (.ofString d.name)
  | "package" => some (.ofString d.package)
  | "kind" => some (.ofString d.kind)
  | "members" => some (membersOf d)
  | "embedded" => some (texts d.embedded)
  | "source_file" => some (.path d.file)
  | "line" => some (.int d.line)
  | "directory" => some (.path d.directory)
  | "is_struct" => some (.bool d.isStruct)
  | "is_interface" => some (.bool d.isInterface)
  | _ => none

/-- The conventional receiver name of a type, empty for a type without a name. -/
def receiverOf (name : String) : String := String.ofList (Text.lower (name.toList.take 1))

/-- The attributes of the view of the current declaration. -/
def contextAttribute? (name : String) : Eval (Option Value) := do
  let s ← get
  let d := s.declaration
  match name with
  | "declaration" => return some (.declaration d)
  | "template_name" => return some (.ofString s.templateName)
  | "pending_imports" => return some (.list importsRef)
  | "imports" => return some (.tuple (← listItems importsRef))
  | "receiver" => return some (.ofString (receiverOf d.name))
  | "name" | "package" | "kind" | "members" | "embedded" => return declarationAttribute? d name
  | "add_import" | "AddImport" | "variables" => return some (.method .context name)
  | _ => return none

/-- The attributes of a path. -/
def pathAttribute? (p : File.Path) (name : String) : Option Value :=
  match name with
  | "name" => some (.ofString p.name)
  | "stem" => some (.ofString (stemOf p.name))
  | "suffix" => some (.ofString (suffixOf p.name))
  | "suffixes" => none
  | "parent" => some (.path p.parent)
  | "parts" =>
    some (texts ((if p.isAbsolute then [p.anchor.text] else []) ++ p.parts))
  | "anchor" | "root" => some (.ofString p.anchor.text)
  | "drive" => some (.ofString "")
  | name => if pathMethods.contains name then some (.method (.path p) name) else none

/-- The attributes of numbers. -/
def numberAttribute? (v : Value) (name : String) : Option Value :=
  match v, v.int?, name with
  | _, some i, "real" | _, some i, "numerator" => some (.int i)
  | _, some _, "imag" => some (.int 0)
  | _, some _, "denominator" => some (.int 1)
  | _, some _, "bit_length" | _, some _, "conjugate" | _, some _, "bit_count"
  | _, some _, "as_integer_ratio" => some (.method v name)
  | .float x, _, "real" => some (.float x)
  | .float _, _, "imag" => some (.float 0)
  | .float _, _, "is_integer" | .float _, _, "conjugate" | .float _, _, "as_integer_ratio" =>
    some (.method v name)
  | _, _, _ => none

/-- The method of a value, if it is among some. -/
def methodAmong (names : List String) (v : Value) (name : String) : Option Value :=
  if names.contains name then some (.method v name) else none

/-- The attribute of a value. -/
def attribute? (ev : Evaluator) (v : Value) (name : String) : Eval (Option Value) := do
  match v with
  | .undefined message _ =>
    if name.startsWith "__" && name.endsWith "__" then return none else fault .undefined message
  | .text _ safe =>
    return methodAmong (TextMethods.names ++ if safe then TextMethods.safeNames else []) v name
  | .bytes _ => return methodAmong ["decode", "hex"] v name
  | .tuple _ => return methodAmong ["count", "index"] v name
  | .group k r =>
    match name with
    | "grouper" => return some k
    | "list" => return some (.list r)
    | name => return methodAmong ["count", "index"] v name
  | .list _ => return methodAmong listMethods v name
  | .dict _ => return methodAmong dictMethods v name
  | .range a b c =>
    match name with
    | "start" => return some (.int a)
    | "stop" => return some (.int b)
    | "step" => return some (.int c)
    | name => return methodAmong ["count", "index"] v name
  | .slice a b c =>
    match name with
    | "start" => return some a
    | "stop" => return some b
    | "step" => return some c
    | _ => return none
  | .member m => return memberAttribute? m name
  | .declaration d => return declarationAttribute? d name
  | .context => contextAttribute? name
  | .path p =>
    if name == "suffixes" then
      return some (← newList ((suffixesOf p.name).map .ofString))
    else if name == "parents" then
      let up := (List.range p.parts.length).map fun i =>
        Value.path ⟨p.anchor, p.parts.take (p.parts.length - 1 - i)⟩
      return some (.tuple up)
    else return pathAttribute? p name
  | .closure r =>
    match ← fetch r with
    | .closure c =>
      match name with
      | "name" => return some (match c.name with
        | some n => .ofString n
        | none => .none)
      | "arguments" => return some (texts (c.parameters.map (·.1)))
      | "caller" => return some (.bool c.takesCaller)
      | "catch_kwargs" => return some (.bool c.takesNamed)
      | "catch_varargs" => return some (.bool c.takesExtra)
      | _ => return none
    | _ => return none
  | .space r =>
    match ← fetch r with
    | .space entries => return entries.lookup name
    | _ => return none
  | .cycler r =>
    match ← fetch r with
    | .cycler items i =>
      match name with
      | "current" => return some (items.getD i .none)
      | "items" => return some (.tuple items)
      | "pos" => return some (.int i)
      | name => return methodAmong ["next", "reset"] v name
    | _ => return none
  | .joiner r =>
    match ← fetch r with
    | .joiner separator used =>
      match name with
      | "sep" => return some separator
      | "used" => return some (.bool used)
      | _ => return none
    | _ => return none
  | .loop r => Loop.attribute? ev r name
  | .bool _ | .int _ | .float _ => return numberAttribute? v name
  | _ => return none

/-- The entry of a dictionary. -/
def entry? (entries : List (Value × Value)) (k : Value) : Eval (Option Value) := do
  checkKey 100 k
  match entries with
  | [] => return none
  | (k', v) :: rest => if ← equal k' k then return some v else entry? rest k

/-- The item at an index, counted from the end if it is negative. -/
def itemAt (what : String) (vs : List α) (k : Value) : Eval α :=
  match k.int? with
  | none => typeFault (what ++ " indices must be integers or slices, not " ++ k.typeName)
  | some i =>
    let i := if i < 0 then i + vs.length else i
    match (if i < 0 then none else vs[i.toNat]?) with
    | some a => return a
    | none => fault .index (what ++ " index out of range")

/-- The item of a value. -/
def item (v k : Value) : Eval Value := do
  match v with
  | .text s safe =>
    return .text (String.singleton (← itemAt "string" s.toList k)) safe
  | .bytes bs => return .int (← itemAt "byte" bs k).toNat
  | .tuple vs => itemAt "tuple" vs k
  | .group a r => itemAt "tuple" [a, .list r] k
  | .list r => itemAt "list" (← listItems r) k
  | .range a b c => return .int (← itemAt "range object" (rangeItems a b c) k)
  | .dict r =>
    match ← entry? (← dictEntries r) k with
    | some v => return v
    | none => noKey k
  | .blocks =>
    match k with
    | .text s _ => return .block s
    | _ => noKey k
  | .undefined message _ => fault .undefined message
  | v => typeFault ("\x27" ++ v.typeName ++ "\x27 object is not subscriptable")

/-- The absence of an item or attribute. -/
def missing (v k : Value) : Eval Value := do
  match k with
  | .text s _ =>
    return .undefined (Text.quoted v.objectName ++ " has no attribute " ++ Text.quoted s) false
  | k => return .undefined (v.objectName ++ " has no element " ++ (← inspect k)) false

/-- An item if there is one. -/
def item? (env : Env) (v k : Value) : Eval (Option Value) := do
  match v, k with
  | .blocks, .text s _ =>
    return if (env.blocks.lookup s).isSome then some (.block s) else none
  | v, k => fun s =>
    match (item v k).run s with
    | .ok (a, s) => .ok (some a, s)
    | .error f => if f.isMiss then .ok (none, s) else .error f

/-- `v[k]`. -/
def getItem (ev : Evaluator) (env : Env) (v k : Value) : Eval Value := do
  match ← item? env v k with
  | some a => return a
  | none =>
    match k with
    | .text s _ =>
      match ← attribute? ev v s with
      | some a => return a
      | none => missing v k
    | _ => missing v k

/-- `v.name`. -/
def getAttribute (ev : Evaluator) (env : Env) (v : Value) (name : String) : Eval Value := do
  match ← attribute? ev v name with
  | some a => return a
  | none =>
    match ← item? env v (.ofString name) with
    | some a => return a
    | none => missing v (.ofString name)

/-- The attribute of a value, which must be there. -/
def strictAttribute (ev : Evaluator) (v : Value) (name : String) : Eval Value := do
  match ← attribute? ev v name with
  | some a => return a
  | none =>
    fault .attribute ("\x27" ++ v.typeName ++ "\x27 object has no attribute " ++ Text.quoted name)

/-- `v[start:stop:step]`. -/
def slice (v start stop step : Value) : Eval Value := do
  let positions (n : Nat) : Eval (List Nat) := do
    match slicePositions n (← sliceIndex start) (← sliceIndex stop) (← sliceIndex step) with
    | .ok ps => return ps
    | .error f => throw f
  match v with
  | .text s safe =>
    let cs := s.toList
    return .text (String.ofList (pick cs (← positions cs.length))) safe
  | .bytes bs => return .bytes (pick bs (← positions bs.length))
  | .tuple vs => return .tuple (pick vs (← positions vs.length))
  | .list r =>
    let vs ← listItems r
    newList (pick vs (← positions vs.length))
  | .range a b c =>
    let n := rangeLength a b c
    let st := (← sliceIndex step).getD 1
    match ← positions n with
    | [] => return .range a a (c * st)
    | i :: is =>
      let last := (is.getLast?).getD i
      let first := a + i * c
      let final := a + last * c + (if 0 < c * st then 1 else -1)
      return .range first final (c * st)
  | .dict _ => typeFault "unhashable type: \x27slice\x27"
  | .undefined message _ => fault .undefined message
  | v => typeFault ("\x27" ++ v.typeName ++ "\x27 object is not subscriptable")

end TypeWeave.Template.Access
