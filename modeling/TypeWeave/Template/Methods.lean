import TypeWeave.Template.Access
import TypeWeave.Template.Sorting

/-!
# Methods and functions

The methods of lists, dictionaries and the other values besides texts, the methods by which a
template looks up tags and asks for imports, and the functions that every template can call.
-/

namespace TypeWeave.Template.Methods

open Eval

/-- Remove the first equal item. -/
def removeFirst (v : Value) : List Value → Eval (Option (List Value))
  | [] => return none
  | w :: ws => do
    if ← equal w v then return some ws
    else return (← removeFirst v ws).map (w :: ·)

/-- The position of the first equal item. -/
def positionOf (v : Value) (i : Nat) : List Value → Eval (Option Nat)
  | [] => return none
  | w :: ws => do if ← equal w v then return some i else positionOf v (i + 1) ws

/-- The number of equal items. -/
def countOf (v : Value) (ws : List Value) : Eval Nat := do
  return (← ws.filterM fun w => equal w v).length

/-- Call a method of a list. -/
def list (r : Ref) (name : String) (g : Given) : Eval Value := do
  let vs ← listItems r
  let set (vs : List Value) : Eval Value := do
    assign r (.list vs)
    return .none
  let n : Int := vs.length
  match name with
  | "append" => set (vs ++ [← g.single "list.append"])
  | "clear" =>
    g.nothing "list.clear"
    set []
  | "copy" =>
    g.nothing "list.copy"
    newList vs
  | "count" => return .int (← countOf (← g.single "list.count") vs)
  | "extend" => set (vs ++ (← items (← g.single "list.extend")))
  | "reverse" =>
    g.nothing "list.reverse"
    set vs.reverse
  | "index" =>
    let v := (← g.between "list" name 1 3).headD .none
    match ← positionOf v 0 vs with
    | some i => return .int i
    | none => fault .value ((← inspect v) ++ " is not in list")
  | "insert" =>
    let args ← g.between "list" name 2 2
    let i ← indexOf (args.getD 0 .none)
    let i := (max 0 (min n (if i < 0 then i + n else i))).toNat
    set (vs.take i ++ args.getD 1 .none :: vs.drop i)
  | "pop" =>
    let args ← g.between "list" name 0 1
    let i ← match args with
      | [] => pure (-1)
      | v :: _ => indexOf v
    if vs.isEmpty then fault .index "pop from empty list"
    let i := if i < 0 then i + n else i
    match (if i < 0 then none else vs[i.toNat]?) with
    | some v =>
      assign r (.list (vs.take i.toNat ++ vs.drop (i.toNat + 1)))
      return v
    | none => fault .index "pop index out of range"
  | "remove" =>
    match ← removeFirst (← g.single "list.remove") vs with
    | some vs => set vs
    | none => fault .value "list.remove(x): x not in list"
  | "sort" =>
    let reverse ← match g.named.lookup "reverse" with
      | some v => truth v
      | none => pure false
    set (← Sorting.sortBy reverse (vs.map fun v => ⟨v, v⟩))
  | _ => fault .attribute ("'list' object has no attribute " ++ Text.quoted name)

/-- Replace or add an entry of a dictionary. -/
def putEntry (entries : List (Value × Value)) (k v : Value) : Eval (List (Value × Value)) := do
  checkKey 100 k
  match entries with
  | [] => return [(k, v)]
  | (k', v') :: rest =>
    if ← equal k' k then return (k', v) :: rest else return (k', v') :: (← putEntry rest k v)

/-- Add entries one by one. -/
def putAll (entries more : List (Value × Value)) : Eval (List (Value × Value)) :=
  more.foldlM (fun acc e => putEntry acc e.1 e.2) entries

/-- Named arguments as entries. -/
def namedEntries (named : List (String × Value)) : List (Value × Value) :=
  named.map fun (k, v) => (.ofString k, v)

/-- The entries that a value holds: those of a dictionary, or pairs. -/
def entriesOf (v : Value) : Eval (List (Value × Value)) := do
  match v with
  | .dict r => dictEntries r
  | v =>
    (← items v).zipIdx.mapM fun (pair, i) => do
      match pair with
      | .text .. | .tuple _ | .group _ _ | .list _ | .view .. | .range .. | .dict _ | .cursor _ =>
        match ← items pair with
        | [k, v] => return (k, v)
        | vs =>
          fault .value ("dictionary update sequence element #" ++ toString i ++ " has length " ++
            toString vs.length ++ "; 2 is required")
      | _ =>
        typeFault ("cannot convert dictionary update sequence element #" ++ toString i ++
          " to a sequence")

/-- Remove an entry. -/
def dropEntry (entries : List (Value × Value)) (k : Value) : Eval (List (Value × Value)) :=
  entries.filterM fun e => do return !(← equal e.1 k)

/-- Call a method of a dictionary. -/
def dict (r : Ref) (name : String) (g : Given) : Eval Value := do
  let entries ← dictEntries r
  let pairs := entries.map fun (k, v) => Value.tuple [k, v]
  match name with
  | "clear" =>
    g.nothing "dict.clear"
    assign r (.dict [])
    return .none
  | "copy" =>
    g.nothing "dict.copy"
    newDict entries
  | "items" =>
    g.nothing "dict.items"
    return .view .items pairs
  | "keys" =>
    g.nothing "dict.keys"
    return .view .keys (entries.map (·.1))
  | "values" =>
    g.nothing "dict.values"
    return .view .values (entries.map (·.2))
  | "get" =>
    let args ← g.between "dict" name 1 2
    return (← Access.entry? entries (args.headD .none)).getD (args.getD 1 .none)
  | "setdefault" =>
    let args ← g.between "dict" name 1 2
    let k := args.headD .none
    match ← Access.entry? entries k with
    | some v => return v
    | none =>
      assign r (.dict (entries ++ [(k, args.getD 1 .none)]))
      return args.getD 1 .none
  | "pop" =>
    let args ← g.between "dict" name 1 2
    let k := args.headD .none
    match ← Access.entry? entries k, args with
    | some v, _ =>
      assign r (.dict (← dropEntry entries k))
      return v
    | none, [_, d] => return d
    | none, _ => noKey k
  | "popitem" =>
    g.nothing "dict.popitem"
    match entries.getLast? with
    | some (k, v) =>
      assign r (.dict entries.dropLast)
      return .tuple [k, v]
    | none => fault .key (Text.quoted "popitem(): dictionary is empty")
  | "update" =>
    let more ← match g.positional with
      | [] => pure []
      | [v] => entriesOf v
      | vs => typeFault ("update expected at most 1 argument, got " ++ toString vs.length)
    assign r (.dict (← putAll entries (more ++ namedEntries g.named)))
    return .none
  | "fromkeys" =>
    let args ← g.between "dict" name 1 2
    let ks ← items (args.headD .none)
    newDict (← putAll [] (ks.map fun k => (k, args.getD 1 .none)))
  | _ => fault .attribute ("'dict' object has no attribute " ++ Text.quoted name)

/-- Call a method of a sequence that does not change. -/
def sequence (v : Value) (name : String) (g : Given) : Eval Value := do
  let vs ← items v
  match name with
  | "count" => return .int (← countOf (← g.single (v.typeName ++ ".count")) vs)
  | _ =>
    let x := (← g.between v.typeName name 1 3).headD .none
    match ← positionOf x 0 vs with
    | some i => return .int i
    | none =>
      match v with
      | .range .. => fault .value ((← inspect x) ++ " is not in range")
      | _ => fault .value (v.typeName ++ ".index(x): x not in tuple")

/-- A path made of texts and paths. -/
def pathOf (v : Value) : Eval File.Path :=
  match v with
  | .path p => return p
  | .text s _ => return File.Path.ofString s
  | v =>
    typeFault ("argument should be a str object or an os.PathLike object returning str, not <class '"
      ++ v.typeName ++ "'>")

/-- Call a method of a path. -/
def path (p : File.Path) (name : String) (g : Given) : Eval Value := do
  let sibling (n : String) : Value := .path ⟨p.anchor, p.parts.dropLast ++ [n]⟩
  let one : Eval Value := do
    let s : Signature := ⟨"PurePath." ++ name, ["self"], [⟨"arg", none⟩], false, false⟩
    return (← s.values g).headD .none
  match name with
  | "as_posix" => return .ofString p.text
  | "is_absolute" => return .bool p.isAbsolute
  | "joinpath" => return .path ((← g.positional.mapM pathOf).foldl File.Path.join p)
  | "with_name" => return sibling (← pathOf (← one)).name
  | "with_suffix" => return sibling (Access.stemOf p.name ++ (← display (← one)))
  | "with_stem" => return sibling ((← display (← one)) ++ Access.suffixOf p.name)
  | "relative_to" =>
    let base ← pathOf (← one)
    if base.anchor == p.anchor && base.parts.isPrefixOf p.parts then
      return .path ⟨.relative, p.parts.drop base.parts.length⟩
    else
      fault .value (Text.quoted p.text ++ " is not in the subpath of " ++ Text.quoted base.text ++
        " OR one path is relative and the other is absolute.")
  | _ => fault .attribute ("'PosixPath' object has no attribute " ++ Text.quoted name)

/-- Call a method of a number. -/
def number (v : Value) (name : String) (g : Given) : Eval Value := do
  g.nothing (v.typeName ++ "." ++ name)
  match name, v, v.int? with
  | "bit_length", _, some i => return .int (if i = 0 then 0 else i.natAbs.log2 + 1)
  | "bit_count", _, some i => return .int ((Nat.toDigits 2 i.natAbs).count '1')
  | "as_integer_ratio", _, some i => return .tuple [.int i, .int 1]
  | "is_integer", .float x, _ => return .bool (Number.isIntegral x)
  | _, _, some i => return .int i
  | _, v, none => return v

/-- The names that a template is given. -/
def contextNames : Eval (List (String × Value)) := do
  let s ← get
  let d := s.declaration
  return [("ctx", .context), ("name", .ofString d.name), ("package", .ofString d.package),
    ("kind", .ofString d.kind), ("members", Access.membersOf d),
    ("embedded", Access.texts d.embedded), ("declaration", .declaration d),
    ("template_name", .ofString s.templateName), ("receiver", .ofString (Access.receiverOf d.name)),
    ("add_import", .method .context "add_import"), ("AddImport", .method .context "add_import")]

/-- Call a method of the view of the current declaration. -/
def context (name : String) (g : Given) : Eval Value := do
  match name with
  | "variables" =>
    let s : Signature := ⟨"TemplateContext.variables", ["self"], [], false, false⟩
    let _ ← s.values g
    newDict (namedEntries (← contextNames))
  | _ =>
    let s : Signature := ⟨"TemplateContext.add_import", ["self"], [⟨"path", none⟩], false, false⟩
    let vs ← s.values g
    assign importsRef (.list ((← listItems importsRef) ++ vs))
    return .ofString ""

/-- Call a method of a value. -/
def call (access : Value → String → Eval Value) (item : Value → Value → Eval Value) (v : Value)
    (name : String) (g : Given) : Eval Value := do
  match v with
  | .text s safe => TextMethods.call access item s safe name g
  | .list r => list r name g
  | .dict r => dict r name g
  | .tuple _ | .range .. | .group _ _ => sequence v name g
  | .path p => path p name g
  | .int _ | .bool _ | .float _ => number v name g
  | .context => context name g
  | .member m =>
    let s : Signature := ⟨"Member.tag_lookup", ["self"], [⟨"key", none⟩], false, false⟩
    match ← s.values g with
    | [.text key _] =>
      return (match m.tagLookup key with
        | some t => .ofString t
        | none => .none)
    | _ => return .none
  | .cycler r =>
    match ← fetch r with
    | .cycler vs i =>
      if name == "next" then
        assign r (.cycler vs ((i + 1) % vs.length))
        return vs.getD i .none
      else
        assign r (.cycler vs 0)
        return .none
    | _ => return .none
  | .loop r =>
    if name == "cycle" then Loop.cycle r g.positional else Loop.changed r g.positional
  | .bytes bs =>
    if name == "hex" then
      return .ofString (String.ofList (bs.flatMap fun b => Text.hexDigits 2 b.toNat))
    else
      match Text.Utf8.decode bs with
      | .ok cs => return .ofString (String.ofList cs)
      | .error _ => fault .value "invalid UTF-8"
  | v => fault .attribute ("\x27" ++ v.typeName ++ "\x27 object has no attribute " ++
      Text.quoted name)

/-- Call one of the functions that every template can call. -/
def routine (r : Routine) (g : Given) : Eval Value := do
  match r with
  | .range =>
    unless g.named.isEmpty do typeFault "range() takes no keyword arguments"
    match ← g.positional.mapM indexOf with
    | [] => typeFault "range expected at least 1 argument, got 0"
    | [b] => return .range 0 b 1
    | [a, b] => return .range a b 1
    | [a, b, c] =>
      if c = 0 then fault .value "range() arg 3 must not be zero" else return .range a b c
    | vs => typeFault ("range expected at most 3 arguments, got " ++ toString vs.length)
  | .dict | .namespace' =>
    let base ← match g.positional with
      | [] => pure []
      | [v] => entriesOf v
      | vs => typeFault ("dict expected at most 1 argument, got " ++ toString vs.length)
    let entries ← putAll [] (base ++ namedEntries g.named)
    match r with
    | .dict => newDict entries
    | _ =>
      let named := entries.filterMap fun (k, v) => match k with
        | .text s _ => some (s, v)
        | _ => none
      return .space (← alloc (.space named))
  | .cycler =>
    if g.positional.isEmpty then fault .runtime "at least one item has to be provided"
    return .cycler (← alloc (.cycler g.positional 0))
  | .joiner =>
    let s : Signature := ⟨"Joiner.__init__", ["self"], [⟨"sep", some (.ofString ", ")⟩], false, false⟩
    let vs ← s.values g
    return .joiner (← alloc (.joiner (vs.headD .none) false))
  | .lipsum =>
    let s : Signature := ⟨"generate_lorem_ipsum", [], [⟨"n", some (.int 5)⟩,
      ⟨"html", some (.bool true)⟩, ⟨"min", some (.int 20)⟩, ⟨"max", some (.int 100)⟩], false, false⟩
    let _ ← s.values g
    return .text "<p>Lorem ipsum dolor sit amet.</p>" true

/-- Call a joiner: nothing the first time, its separator afterwards. -/
def join (r : Ref) : Eval Value := do
  match ← fetch r with
  | .joiner separator true => return separator
  | .joiner separator false =>
    assign r (.joiner separator true)
    return .ofString ""
  | _ => return .none

end TypeWeave.Template.Methods
