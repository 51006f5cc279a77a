import TypeWeave.Failure
import TypeWeave.Go.Declaration
import TypeWeave.Go.SyntaxTree

/-!
# Declarations of a syntax tree

The package name of a source file and the structs and interfaces that it declares at its top level,
with their members and the names of the types that they embed.
-/

namespace TypeWeave.Go.Extraction

/-- The last part of a dotted name. -/
def lastPart (name : String) : String := String.ofList (Text.afterLast '.' name.toList)

mutual

/-- The name under which a type is embedded: that of the type itself, without package, pointer and
type arguments. Other types have none. -/
def embeddedName : Node → Option String
  | ⟨kind, text, _, _, _, _, _, _, _, children⟩ =>
    if kind == "type_identifier" || kind == "interface_type_name" then some (lastPart text)
    else if kind == "qualified_type" then
      match children.find? (·.field == some "name") with
      | some name => some name.text
      | none => some (lastPart text)
    else if kind == "pointer_type" || kind == "generic_type" then
      if children.any (·.field == some "type") then embeddedBase children
      else embeddedFirst children
    else none

/-- The embedded name of the first node that has the role of the base type. -/
def embeddedBase : List Node → Option String
  | [] => none
  | n :: ns => if n.field == some "type" then embeddedName n else embeddedBase ns

/-- The embedded name of the first node that is more than punctuation. -/
def embeddedFirst : List Node → Option String
  | [] => none
  | n :: ns => if n.isNamed then embeddedName n else embeddedFirst ns

end

mutual

/-- How many types stand one inside the other from a type down to the one that it is embedded by. -/
def nesting : Node → Nat
  | ⟨kind, _, _, _, _, _, _, _, _, children⟩ =>
    if kind == "pointer_type" || kind == "generic_type" then
      (if children.any (·.field == some "type") then nestingBase children
        else nestingFirst children) + 1
    else 1

/-- The nesting of the first node that has the role of the base type. -/
def nestingBase : List Node → Nat
  | [] => 1
  | n :: ns => if n.field == some "type" then nesting n else nestingBase ns

/-- The nesting of the first node that is more than punctuation. -/
def nestingFirst : List Node → Nat
  | [] => 1
  | n :: ns => if n.isNamed then nesting n else nestingFirst ns

end

/-- The deepest nesting that is followed. Each type is looked at in a call from within the call for
the one around it. Of the thousand calls that may be open at once, those around the reading of a file
take some thirty. -/
def maxNesting : Nat := 970

/-- How the reading of a file fails that has types nested deeper. -/
def tooDeep : Failure := .escaped ⟨.recursion, "maximum recursion depth exceeded"⟩

/-- The signature of a method. -/
def signature (method : Node) : String :=
  let parameters := ((method.role? "parameters").map (·.text)).getD "()"
  let result := ((method.role? "result").map fun r => " " ++ r.text).getD ""
  "func" ++ parameters ++ result

/-- What a declaration consists of. -/
structure Parts where
  members : List Member := []
  embedded : List String := []

/-- Two parts of a declaration. -/
def Parts.append (a b : Parts) : Parts := ⟨a.members ++ b.members, a.embedded ++ b.embedded⟩

/-- Parts of a declaration in order. -/
def Parts.concat (ps : List Parts) : Parts := ps.foldl Parts.append {}

/-- An embedded type, if it has a name. -/
def embedding (n : Node) : Parts := { embedded := (embeddedName n).toList }

/-- The members or the embedded type of a field of a struct. -/
def fieldParts (n : Node) : Parts :=
  match n.role? "type" with
  | none => {}
  | some type =>
    match n.inRole "name" with
    | [] => embedding type
    | names =>
      let tag := (n.role? "tag").map fun t => Tag.unquote t.text
      { members := names.map fun name => ⟨name.text, type.text, tag, n.position.1⟩ }

/-- The fields of a struct. -/
def structFields (n : Node) : List Node :=
  ((n.named.filter (·.kind == "field_declaration_list")).flatMap (·.named)).filter
    (·.kind == "field_declaration")

/-- The parts of a struct. -/
def structParts (n : Node) : Parts := Parts.concat ((structFields n).map fieldParts)

/-- The method or the embedded type that an element of an interface stands for. An element that is
a union embeds nothing. -/
def elementParts (n : Node) : Parts :=
  if n.kind == "method_elem" || n.kind == "method_spec" then
    match n.role? "name" with
    | some name => { members := [⟨name.text, signature n, none, n.position.1⟩] }
    | none => {}
  else if ["type_elem", "constraint_elem", "interface_type_name"].contains n.kind then
    match n.named.filter (·.kind != "comment") with
    | [] => embedding n
    | [type] => embedding type
    | _ => {}
  else {}

/-- The parts of an interface. -/
def interfaceParts (n : Node) : Parts := Parts.concat (n.named.map elementParts)

/-- The declaration of a type, if it is a struct or an interface. -/
def declaration? (package : String) (file : File.Path) (spec : Node) : Option Declaration := do
  let name ← spec.role? "name"
  let type ← spec.role? "type"
  let (kind, parts) ←
    if type.kind == "struct_type" then some (Declaration.structKind, structParts type)
    else if type.kind == "interface_type" then some (Declaration.interfaceKind, interfaceParts type)
    else none
  some ⟨name.text, package, kind, parts.members, parts.embedded, file, spec.position.1⟩

/-- The type that a field of a struct embeds. -/
def fieldTypes (n : Node) : List Node :=
  match n.inRole "name" with
  | [] => (n.role? "type").toList
  | _ => []

/-- The types that a struct embeds. -/
def structTypes (n : Node) : List Node := (structFields n).flatMap fieldTypes

/-- The type that an element of an interface embeds. -/
def elementTypes (n : Node) : List Node :=
  if n.kind == "method_elem" || n.kind == "method_spec" then []
  else if ["type_elem", "constraint_elem", "interface_type_name"].contains n.kind then
    match n.named.filter (·.kind != "comment") with
    | [] => [n]
    | [type] => [type]
    | _ => []
  else []

/-- The types that an interface embeds. -/
def interfaceTypes (n : Node) : List Node := n.named.flatMap elementTypes

/-- The types that a definition of a type embeds. -/
def specTypes (spec : Node) : List Node :=
  match spec.role? "name", spec.role? "type" with
  | some _, some type =>
    if type.kind == "struct_type" then structTypes type
    else if type.kind == "interface_type" then interfaceTypes type
    else []
  | _, _ => []

/-- The definitions of types at the top level of a file. -/
def typeSpecs (root : Node) : List Node :=
  (root.named.filter (·.kind == "type_declaration")).flatMap fun d =>
    d.named.filter (·.kind == "type_spec")

/-- The types that a file embeds, whether or not they have a name to be embedded by. -/
def embeddedTypes (root : Node) : List Node := (typeSpecs root).flatMap specTypes

/-- Whether a file embeds a type that is nested deeper than is followed. -/
def nestsTooDeep (root : Node) : Bool := (embeddedTypes root).any (maxNesting < nesting ·)

/-- The package clauses at the top level of a file. -/
def packageClauses (root : Node) : List Node := root.named.filter (·.kind == "package_clause")

/-- The package name of a file. -/
def packageName? (root : Node) : Option String :=
  (((packageClauses root).flatMap (·.named)).find? (·.kind == "package_identifier")).map (·.text)

/-- Line and column of the first package clause. -/
def packagePosition (root : Node) : Int × Int :=
  ((packageClauses root).head?.map (·.position)).getD (1, 1)

/-- What a source file declares. -/
structure Contents where
  package : String
  declarations : List Declaration
  deriving DecidableEq, Repr

/-- The package name and the declarations of a file. -/
def contents (root : Node) (file : File.Path) : Except Failure Contents :=
  if root.hasError then
    let (line, column) := root.flawPosition
    .error (.source file line column Failure.syntaxDetail)
  else
    match packageName? root with
    | none => .error (.source file 1 1 "missing package clause")
    | some package =>
      if nestsTooDeep root then .error tooDeep
      else .ok ⟨package, (typeSpecs root).filterMap (declaration? package file)⟩

/-- A file whose tree is sound, that has a package and that nests no type too deep is read. -/
theorem contents_eq_ok {root : Node} {file : File.Path} {c : Contents} :
    contents root file = .ok c ↔ root.hasError = false ∧ nestsTooDeep root = false ∧
      packageName? root = some c.package ∧
      c.declarations = (typeSpecs root).filterMap (declaration? c.package file) := by
  obtain ⟨package, declarations⟩ := c
  unfold contents
  cases root.hasError with
  | true => simp
  | false =>
    cases hname : packageName? root with
    | none => simp
    | some name =>
      cases nestsTooDeep root with
      | true => simp
      | false =>
        simp only [Bool.false_eq_true, if_false, true_and, Except.ok.injEq, Contents.mk.injEq,
          Option.some.injEq]
        constructor
        · rintro ⟨rfl, rfl⟩
          exact ⟨rfl, rfl⟩
        · rintro ⟨rfl, rfl⟩
          exact ⟨rfl, rfl⟩

end TypeWeave.Go.Extraction
