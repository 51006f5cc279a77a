import TypeWeave.Go.Grammar.Types

/-!
# Expressions

The rules for expressions. They only tell what follows the grammar; no tree is made of them.
-/

namespace TypeWeave.Go.Grammar

/-- What an operand may turn out to be: a type, the name of a package or type, or a function that
takes a type. -/
structure Operand where
  mayBeType : Bool := false
  isName : Bool := false
  takesType : Bool := false

/-- The operators with two operands. -/
def binaryOperators : List String :=
  ["||", "&&", "==", "!=", "<", "<=", ">", ">=", "+", "-", "|", "^", "*", "/", "%", "<<", ">>", "&",
    "&^"]

/-- The operators with one operand. -/
def unaryOperators : List String := ["+", "-", "!", "^", "*", "&", "<-"]

/-- Whether a token is among some symbols. -/
def isAmong (symbols : List String) (t : Lexeme) : Bool :=
  t.kind == .symbol && symbols.contains t.text

/-- Expressions with commas between them. -/
def expressions (r : Rules) (m : Mode) : Read Nat := do return (← commas m (r.expression m)).length

/-- An element of a literal, whose braces may stand for themselves. -/
def element (r : Rules) (braces : Read Unit) : Read Unit := braces <|> r.expression .inner

/-- The braces of a literal, with `fuel` bounding how deep they are nested. -/
def bracesWith (fuel : Nat) (r : Rules) : Read Unit :=
  match fuel with
  | 0 => failure
  | fuel + 1 => do
    symbol "\x7b"
    let _ ← listUntil "\x7d" do
      element r (bracesWith fuel r)
      let _ ← maybe (symbol ":" *> element r (bracesWith fuel r))

/-- The braces of a literal. -/
def braces (r : Rules) : Read Unit := do bracesWith (← remaining) r

/-- An argument of a call. -/
def argument (r : Rules) : Read Unit := do
  r.expression .inner
  let _ ← maybe (symbol "...")

/-- The arguments of a call; the first one may be a type if the function takes one. -/
def callArguments (r : Rules) (takesType : Bool) : Read Unit := do
  symbol "("
  let first : Read Unit :=
    if takesType then
      (do
        let _ ← r.type .inner
        let t ← peek
        if !(t.isSymbol "," || t.isSymbol ")") then failure)
      <|> argument r
    else argument r
  let _ ← maybe (first *> many (symbol "," *> argument r))
  let _ ← maybe (symbol ",")
  symbol ")"

/-- An index or a type argument. -/
def index (r : Rules) : Read Unit :=
  (do
    r.expression .inner
    let t ← peek
    if !isAmong ["]", ",", ":"] t then failure)
  <|> do let _ ← union r .inner

/-- What stands between the brackets behind an operand. -/
def brackets (r : Rules) : Read Unit := do
  symbol "["
  let bound : Read Unit := do let _ ← maybe (r.expression .inner)
  (do
    bound
    symbol ":"
    bound
    let _ ← maybe (symbol ":" *> r.expression .inner)
    symbol "]")
  <|> do
    index r
    let _ ← many (symbol "," *> index r)
    let _ ← maybe (symbol ",")
    symbol "]"

/-- What may follow a point: a name, or a type in parentheses. -/
def selection (r : Rules) (m : Mode) : Read Bool := do
  symbol "."
  (do
    let _ ← name
    return true)
  <|> do
    symbol "("
    (do
      let _ ← r.type .inner)
    <|> (if m.guards then keyword "type" else failure)
    symbol ")"
    return false

/-- One thing behind an operand. -/
def suffix (r : Rules) (m : Mode) (o : Operand) : Read Operand := do
  goOn m
  let t ← peek
  match t.text with
  | "." =>
    let named ← selection r m
    return { mayBeType := named && o.isName }
  | "[" => brackets r *> pure { mayBeType := o.mayBeType }
  | "(" => callArguments r o.takesType *> pure {}
  | "\x7b" => if m.literals && o.mayBeType then braces r *> pure {} else failure
  | _ => failure

/-- All that stands behind an operand. -/
def suffixes (fuel : Nat) (r : Rules) (m : Mode) (o : Operand) : Read Unit :=
  match fuel with
  | 0 => return ()
  | fuel + 1 => do
    match ← maybe (suffix r m o) with
    | some o => suffixes fuel r m o
    | none => return ()

/-- An array type whose length its literal tells. -/
def countedArray (r : Rules) : Read Unit := do
  symbol "["
  symbol "..."
  symbol "]"
  let _ ← r.type .inner

/-- A type with the braces of its literal or a value to convert. -/
def typedValue (r : Rules) : Read Unit := do
  (countedArray r *> braces r)
  <|> do
    let t ← r.type .inner
    let literal := ["map_type", "slice_type", "array_type", "struct_type"].contains t.kind
    if (← peek).isSymbol "\x7b" then (if literal then braces r else failure)
    else do
      symbol "("
      r.expression .inner
      let _ ← maybe (symbol ",")
      symbol ")"

/-- A function with its body. -/
def functionValue (r : Rules) : Read Unit := do
  keyword "func"
  let _ ← parameters r
  let _ ← maybe (result r .inner)
  r.block

/-- An operand without what stands behind it. -/
def bareOperand (r : Rules) : Read Operand := do
  let t ← peek
  match t.kind, t.text with
  | .number, _ | .character, _ | .string, _ => take *> pure {}
  | .word, w =>
    take *> pure { mayBeType := true, isName := true, takesType := w == "make" || w == "new" }
  | .symbol, "(" =>
    (do
      symbol "("
      r.expression .inner
      symbol ")"
      return {})
    <|> do
      let _ ← parenthesizedType r
      if !(← peek).isSymbol "(" then failure
      return {}
  | .keyword, "func" => (functionValue r <|> typedValue r) *> pure {}
  | _, _ => typedValue r *> pure {}

/-- An operand: any signs before it, itself, and what stands behind it. -/
def operandWith (fuel : Nat) (r : Rules) (m : Mode) : Read Unit :=
  match fuel with
  | 0 => failure
  | fuel + 1 =>
    (do
      let _ ← takeIf (isAmong unaryOperators)
      operandWith fuel r m)
    <|> do
      let o ← bareOperand r
      suffixes (← remaining) r m o

/-- An operand. -/
def operand (r : Rules) (m : Mode) : Read Unit := do operandWith (← remaining) r m

/-- An expression. -/
def expressionStep (r : Rules) (m : Mode) : Read Unit := do
  operand r m
  let _ ← many do
    goOn m
    let _ ← takeIf (isAmong binaryOperators)
    operand r m

end TypeWeave.Go.Grammar
