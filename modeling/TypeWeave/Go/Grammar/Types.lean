import TypeWeave.Go.Grammar.Basic

/-!
# Types

The rules for types: names with packages and type arguments, pointers, arrays, maps, channels,
functions, structs, interfaces, and unions in interfaces. A line end after a field, an element or a
whole type ends it.
-/

namespace TypeWeave.Go.Grammar

/-- A union of types, as interfaces and constraints hold them. -/
def union (r : Rules) (m : Mode) : Read Node := r.node "type_elem" do
  let t ← r.type m
  return t :: (← many (goOn m *> symbol "|" *> r.type m))

/-- Type arguments. -/
def typeArguments (r : Rules) : Read Node := r.node "type_arguments" do
  symbol "["
  let first ← union r .inner
  let more ← many (symbol "," *> union r .inner)
  let _ ← maybe (symbol ",")
  symbol "]"
  return first :: more

/-- A type that has a name: of this package or another one, with type arguments or without. -/
def namedType (r : Rules) (m : Mode) : Read Node := do
  let start ← peek
  let base ← (r.node "qualified_type" do
      let package ← name
      goOn m
      symbol "."
      let t ← name
      return [(leaf "package_identifier" package).as "package", (leaf "type_identifier" t).as "name"])
    <|> (do return leaf "type_identifier" (← name))
  match ← maybeOn m (typeArguments r) with
  | none => return base
  | some arguments =>
    let stop := (← get).last
    return { kind := "generic_type", text := r.slice start.start.offset stop.offset,
             row := base.row, column := base.column,
             children := [base.as "type", arguments.as "type_arguments"] }

/-- A parameter: a type with or without a name, or one for any number of arguments. -/
def parameter (r : Rules) : Read Unit :=
  (do
    let _ ← maybe name
    symbol "..."
    let _ ← r.type .inner)
  <|> (do
    let _ ← name
    let _ ← r.type .inner)
  <|> do let _ ← r.type .inner

/-- Parameters between parentheses. -/
def parameters (r : Rules) : Read Node := r.node "parameter_list" do
  symbol "("
  let _ ← listUntil ")" (parameter r)
  return []

/-- The result of a function. -/
def result (r : Rules) (m : Mode) : Read Node := do
  goOn m
  if (← peek).isSymbol "(" then parameters r else r.type m

/-- The declaration of type parameters with one constraint. -/
def typeParameter (r : Rules) : Read Unit := do
  let _ ← commas .inner name
  let _ ← union r .inner

/-- Type parameters between brackets. -/
def typeParameters (r : Rules) : Read Node := r.node "type_parameter_list" do
  symbol "["
  let _ ← commas .inner (typeParameter r)
  let _ ← maybe (symbol ",")
  symbol "]"
  return []

/-- A tag. -/
def tag : Read Node := do
  goOn .line
  let t ← takeIf (·.kind == .string)
  return (leaf "string_literal" t).as "tag"

/-- An embedded field of a struct: a type with a name, behind which the field ends or its tag stands. -/
def embeddedField (r : Rules) : Read (List Node) := do
  let star ← maybe (takeIf (·.isSymbol "*"))
  let t ← namedType r .line
  let next ← peek
  if !(next.afterLine || next.kind == .string || next.kind == .symbol &&
      [";", "\x7d", "\x00"].contains next.text) then failure
  return (star.map mark).toList ++ [t.as "type"]

/-- Named fields of a struct. -/
def namedFields (r : Rules) : Read (List Node) := do
  let names ← commas .line (do return (leaf "field_identifier" (← name)).as "name")
  return names ++ [(← r.type .line).as "type"]

/-- A field of a struct. What can be an embedded type is one: a name with brackets at the end of a line
is no array whose element type stands on the next line. -/
def field (r : Rules) : Read Node := r.node "field_declaration" do
  let children ← embeddedField r <|> namedFields r
  return children ++ (← maybe tag).toList

/-- A struct. -/
def structType (r : Rules) : Read Node := r.node "struct_type" do
  keyword "struct"
  let fields ← r.node "field_declaration_list" do
    symbol "\x7b"
    terminatedUntil "\x7d" (field r)
  return [fields]

/-- A method of an interface. -/
def method (r : Rules) : Read Node := r.node "method_elem" do
  let n ← name
  goOn .line
  let ps ← parameters r
  let res ← maybe (result r .line)
  return [(leaf "field_identifier" n).as "name", ps.as "parameters"] ++
    (res.map (·.as "result")).toList

/-- An interface. -/
def interfaceType (r : Rules) : Read Node := r.node "interface_type" do
  keyword "interface"
  symbol "\x7b"
  terminatedUntil "\x7d" (method r <|> union r .line)

/-- An array or a slice. -/
def arrayType (r : Rules) (m : Mode) : Read Node :=
  (r.node "slice_type" do
    symbol "["
    symbol "]"
    let _ ← r.type m
    return [])
  <|> r.node "array_type" do
    symbol "["
    r.expression .inner
    symbol "]"
    let _ ← r.type m
    return []

/-- A map. -/
def mapType (r : Rules) (m : Mode) : Read Node := r.node "map_type" do
  keyword "map"
  symbol "["
  let _ ← r.type .inner
  symbol "]"
  let _ ← r.type m
  return []

/-- A channel. -/
def channelType (r : Rules) (m : Mode) : Read Node := r.node "channel_type" do
  (do
    symbol "<-"
    keyword "chan")
  <|> (do
    keyword "chan"
    let _ ← maybe (symbol "<-"))
  let _ ← r.type m
  return []

/-- A function type. -/
def functionType (r : Rules) (m : Mode) : Read Node := r.node "function_type" do
  keyword "func"
  let _ ← parameters r
  let _ ← maybe (result r m)
  return []

/-- A pointer. -/
def pointerType (r : Rules) (m : Mode) : Read Node := r.node "pointer_type" do
  let star ← takeIf (·.isSymbol "*")
  let next ← peek
  let t ← r.type m
  return mark star :: comments next ++ [t]

/-- A type between parentheses. -/
def parenthesizedType (r : Rules) : Read Node := r.node "parenthesized_type" do
  symbol "("
  let t ← r.type .inner
  symbol ")"
  return [t]

/-- A type and all types that it is the base of. -/
def negatedType (r : Rules) (m : Mode) : Read Node := r.node "negated_type" do
  symbol "~"
  return [← r.type m]

/-- A type. -/
def typeStep (r : Rules) (m : Mode) : Read Node := do
  let t ← peek
  match t.kind, t.text with
  | .word, _ => namedType r m
  | .symbol, "(" => parenthesizedType r
  | .symbol, "*" => pointerType r m
  | .symbol, "[" => arrayType r m
  | .symbol, "<-" => channelType r m
  | .symbol, "~" => negatedType r m
  | .keyword, "map" => mapType r m
  | .keyword, "chan" => channelType r m
  | .keyword, "func" => functionType r m
  | .keyword, "struct" => structType r
  | .keyword, "interface" => interfaceType r
  | _, _ => failure

end TypeWeave.Go.Grammar
