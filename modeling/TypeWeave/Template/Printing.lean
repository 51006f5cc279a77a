import TypeWeave.Number.Decimal
import TypeWeave.Template.Value
import TypeWeave.Text.Quoted

/-!
# Printed values

The two texts of a value: the one that output shows, and the one that shows a value inside another,
where texts are quoted. They differ for texts, paths and absent values only.
-/

namespace TypeWeave.Template

/-- The most digits of a printed integer. -/
def maxDigits : Nat := 4300

/-- The text of an integer. -/
def integerText (i : Int) : Except Fault String :=
  if Nat.pow 10 maxDigits ≤ i.natAbs then
    .error ⟨.value, "Exceeds the limit (" ++ toString maxDigits ++ " digits) for integer string " ++
      "conversion; use sys.set_int_max_str_digits() to increase the limit"⟩
  else .ok (toString i)

/-- Bytes in quotes. -/
def quotedBytes (bs : List UInt8) : String :=
  let cs := bs.map fun b => Char.ofNat b.toNat
  let q := Text.quoteFor cs
  let show1 (c : Char) : List Char :=
    if c == q || c == '\\' then ['\\', c]
    else if c == '\n' then ['\\', 'n']
    else if c == '\r' then ['\\', 'r']
    else if c == '\t' then ['\\', 't']
    else if 0x20 ≤ c.toNat && c.toNat < 0x7F then [c]
    else '\\' :: 'x' :: Text.hexDigits 2 c.toNat
  String.ofList ('b' :: q :: cs.flatMap show1 ++ [q])

/-- Pieces between brackets, separated by commas. -/
def bracketed (opening : String) (pieces : List String) (closing : String) : String :=
  opening ++ ", ".intercalate pieces ++ closing

/-- The printed items of a tuple; a single one is followed by a comma. -/
def tupleText : List String → String
  | [s] => "(" ++ s ++ ",)"
  | ss => bracketed "(" ss ")"

/-- A printed path. -/
def pathText (p : File.Path) : String := "PosixPath(" ++ Text.quoted p.text ++ ")"

/-- A printed optional text. -/
def optionText : Option String → String
  | some s => Text.quoted s
  | none => "None"

/-- A printed member. -/
def memberText (m : Go.Member) : String :=
  bracketed "Member(" ["name=" ++ Text.quoted m.name, "type_name=" ++ Text.quoted m.typeName,
    "tag=" ++ optionText m.tag, "line=" ++ toString m.line] ")"

/-- A printed declaration. -/
def declarationText (d : Go.Declaration) : String :=
  bracketed "Declaration(" ["name=" ++ Text.quoted d.name, "package=" ++ Text.quoted d.package,
    "kind=" ++ Text.quoted d.kind, "members=" ++ tupleText (d.members.map memberText),
    "embedded=" ++ tupleText (d.embedded.map Text.quoted), "source_file=" ++ pathText d.file,
    "line=" ++ toString d.line] ")"

/-- A printed function. -/
def routineText : Routine → String
  | .range => "<class 'range'>"
  | .dict => "<class 'dict'>"
  | .lipsum => "<function generate_lorem_ipsum at 0x7f0000000000>"
  | .cycler => "<class 'jinja2.utils.Cycler'>"
  | .joiner => "<class 'jinja2.utils.Joiner'>"
  | .namespace' => "<class 'jinja2.utils.Namespace'>"

/-- The text of a value as it is shown inside another value. `seen` holds the lists and
dictionaries that it stands in; one that stands in itself is abridged. -/
def inspectWith (fuel : Nat) (store : Store) (seen : List Ref) (v : Value) : Except Fault String :=
  match fuel with
  | 0 => .error ⟨.recursion, "maximum recursion depth exceeded while getting the repr of an object"⟩
  | fuel + 1 =>
    let entryText (seen : List Ref) (e : Value × Value) : Except Fault String := do
      return (← inspectWith fuel store seen e.1) ++ ": " ++ (← inspectWith fuel store seen e.2)
    let listText (seen : List Ref) (items : List Value) : Except Fault String := do
      return bracketed "[" (← items.mapM (inspectWith fuel store seen)) "]"
    match v with
    | .none => .ok "None"
    | .bool b => .ok (if b then "True" else "False")
    | .int i => integerText i
    | .float x => .ok (Number.printed.text x)
    | .text s false => .ok (Text.quoted s)
    | .text s true => .ok ("Markup(" ++ Text.quoted s ++ ")")
    | .bytes bs => .ok (quotedBytes bs)
    | .tuple items => do return tupleText (← items.mapM (inspectWith fuel store seen))
    | .group k r => do
      return tupleText (← [k, .list r].mapM (inspectWith fuel store seen))
    | .list r =>
      if seen.contains r then .ok "[...]"
      else
        match store.cells[r]? with
        | some (.list items) => listText (r :: seen) items
        | _ => .ok "[]"
    | .dict r =>
      if seen.contains r then .ok "\x7b...\x7d"
      else
        match store.cells[r]? with
        | some (.dict entries) => do
          return bracketed "\x7b" (← entries.mapM (entryText (r :: seen))) "\x7d"
        | _ => .ok "\x7b\x7d"
    | .view _ items => do return v.typeName ++ "(" ++ (← listText seen items) ++ ")"
    | .range a b c =>
      .ok (bracketed "range(" ([toString a, toString b] ++ if c = 1 then [] else [toString c]) ")")
    | .slice a b c => do
      return bracketed "slice(" (← [a, b, c].mapM (inspectWith fuel store seen)) ")"
    | .undefined _ _ => .ok "Undefined"
    | .member m => .ok (memberText m)
    | .declaration d => .ok (declarationText d)
    | .context => do
      return bracketed "TemplateContext(" ["declaration=" ++ declarationText store.declaration,
        "template_name=" ++ Text.quoted store.templateName,
        "pending_imports=" ++ (← inspectWith fuel store seen (.list importsRef))] ")"
    | .path p => .ok (pathText p)
    | .method receiver name => do
      match v.typeName with
      | "method" =>
        let name := if name == "AddImport" then "add_import" else name
        return "<bound method " ++ receiver.typeName ++ "." ++ name ++ " of " ++
          (← inspectWith fuel store seen receiver) ++ ">"
      | _ =>
        return "<built-in method " ++ name ++ " of " ++ receiver.typeName ++
          " object at 0x7f0000000000>"
    | .routine r => .ok (routineText r)
    | .closure r =>
      match store.cells[r]? with
      | some (.closure ⟨some name, _, _, _, _, _, _⟩) => .ok ("<Macro " ++ Text.quoted name ++ ">")
      | _ => .ok "<Macro anonymous>"
    | .cursor r =>
      match store.cells[r]? with
      | some (.cursor _ _ typeName) => .ok ("<" ++ typeName ++ " object at 0x7f0000000000>")
      | _ => .ok "<generator object at 0x7f0000000000>"
    | .space r =>
      match store.cells[r]? with
      | some (.space entries) => do
        let pairs := entries.map fun (k, e) => (Value.ofString k, e)
        return "<Namespace " ++ bracketed "\x7b" (← pairs.mapM (entryText seen)) "\x7d" ++ ">"
      | _ => .ok "<Namespace \x7b\x7d>"
    | .cycler _ => .ok "<jinja2.utils.Cycler object at 0x7f0000000000>"
    | .joiner _ => .ok "<jinja2.utils.Joiner object at 0x7f0000000000>"
    | .loop r =>
      match store.cells[r]? with
      | some (.loop l) =>
        .ok ("<LoopContext " ++ toString (l.index + 1) ++ "/" ++ toString l.knownLength ++ ">")
      | _ => .ok "<LoopContext>"
    | .blocks => .ok "<TemplateReference None>"
    | .block _ => .ok "<jinja2.runtime.BlockReference object at 0x7f0000000000>"

/-- The deepest nesting of a printed value. -/
def inspectDepth : Nat := 900

namespace Eval

/-- The text of a value as it is shown inside another value. -/
def inspect (v : Value) : Eval String := fun s => (inspectWith inspectDepth s [] v).map (·, s)

/-- The absence of a key, which is printed when that is told. -/
def noKey {α : Type} (k : Value) : Eval α := fun s =>
  match inspectWith inspectDepth s [] k with
  | .ok text => .error ⟨.key, text⟩
  | .error f => .error ⟨.unprintable f.kind, f.message⟩

/-- The text of a value as output shows it. An absent value has none, unless it is lenient. -/
def display (v : Value) : Eval String :=
  match v with
  | .text s _ => return s
  | .path p => return p.text
  | .undefined _ true => return ""
  | .undefined message false => fault .undefined message
  | v => inspect v

end Eval

end TypeWeave.Template
