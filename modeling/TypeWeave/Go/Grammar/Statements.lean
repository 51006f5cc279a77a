import TypeWeave.Go.Grammar.Expressions

/-!
# Statements and declarations

The rules for statements, and for declarations of constants, variables and types. Only declarations
of types have a tree.
-/

namespace TypeWeave.Go.Grammar

/-- The symbols that assign. -/
def assignments : List String :=
  ["=", "+=", "-=", "*=", "/=", "%=", "&=", "|=", "^=", "<<=", ">>=", "&^="]

/-- A declaration of some sort: one item, or several between parentheses. -/
def declarationOf (word : String) (item : Read α) : Read (List α) := do
  keyword word
  if (← peek).isSymbol "(" then
    symbol "("
    terminatedUntil ")" item
  else return [← item]

/-- The values of a declaration. -/
def values (r : Rules) : Read Unit := do
  symbol "="
  let _ ← expressions r .line

/-- Constants. -/
def constants (r : Rules) : Read Unit := do
  let _ ← commas .line name
  let _ ← maybeOn .line ((do
    let _ ← r.type .line
    goOn .line
    values r) <|> values r)

/-- Variables. -/
def variableSpecs (r : Rules) : Read Unit := do
  let _ ← commas .inner name
  (do
    let _ ← r.type .line
    let _ ← maybeOn .line (values r))
  <|> values r

/-- The name of a declared type. -/
def declaredName : Read Node := do return (leaf "type_identifier" (← name)).as "name"

/-- A type and its name. -/
def typeSpec (r : Rules) : Read Node := r.node "type_spec" do
  let n ← declaredName
  (do
    let ps ← typeParameters r
    let t ← r.type .line
    return [n, ps.as "type_parameters", t.as "type"])
  <|> (do return [n, (← r.type .line).as "type"])

/-- Another name for a type. -/
def typeAlias (r : Rules) : Read Node := r.node "type_alias" do
  let n ← declaredName
  let _ ← maybe (typeParameters r)
  symbol "="
  return [n, (← r.type .line).as "type"]

/-- A declaration of types. -/
def typeDeclaration (r : Rules) : Read Node :=
  r.node "type_declaration" (declarationOf "type" (typeAlias r <|> typeSpec r))

/-- A simple statement. -/
def simple (r : Rules) (m : Mode) : Read Unit := do
  let n ← expressions r m
  let more ← maybeOn m ((do
      let _ ← takeIf (isAmong (":=" :: assignments))
      let _ ← expressions r m)
    <|> (do
      let _ ← takeIf (isAmong ["++", "--"])
      if n ≠ 1 then failure)
    <|> do
      symbol "<-"
      if n ≠ 1 then failure
      r.expression m)
  if more.isNone && n ≠ 1 then failure

/-- The surroundings in the head of a statement, where braces open its body. -/
def headModes : List Mode :=
  [{ literals := false, guards := true }, { literals := true, guards := true }]

/-- The head of a statement, before the brace that opens its body. -/
def beforeBody (head : Mode → Read Unit) : Read Unit :=
  headModes.foldr (fun m other =>
    (do
      head m
      if !(← peek).isSymbol "\x7b" then failure)
    <|> other) failure

/-- The head of `if`. -/
def conditionHead (r : Rules) (m : Mode) : Read Unit :=
  (do
    simple r m
    symbol ";"
    r.expression m)
  <|> r.expression m

/-- A condition with its branches. -/
def conditionWith (fuel : Nat) (r : Rules) : Read Unit :=
  match fuel with
  | 0 => failure
  | fuel + 1 => do
    keyword "if"
    beforeBody (conditionHead r)
    r.block
    if (← peek).isKeyword "else" && !(← peek).afterLine then
      keyword "else"
      if (← peek).isKeyword "if" then conditionWith fuel r else r.block

/-- The head of `for`. -/
def loopHead (r : Rules) (m : Mode) : Read Unit :=
  (do
    let _ ← maybe do
      let _ ← expressions r m
      let _ ← takeIf (isAmong ["=", ":="])
    keyword "range"
    r.expression m)
  <|> (do
    let _ ← maybe (simple r m)
    symbol ";"
    let _ ← maybe (r.expression m)
    symbol ";"
    let _ ← maybe (simple r m))
  <|> (do let _ ← maybe (r.expression m))

/-- The head of `switch`. -/
def switchHead (r : Rules) (m : Mode) : Read Unit :=
  (do
    simple r m
    symbol ";"
    let _ ← maybe (simple r m))
  <|> (do let _ ← maybe (simple r m))

/-- Whether a token ends a list of statements. -/
def endsStatements (t : Lexeme) : Bool :=
  t.isSymbol "\x7d" || t.isKeyword "case" || t.isKeyword "default"

/-- Statements up to the token that ends them. -/
def statements (r : Rules) : Read Unit := do
  let _ ← terminatedWith (← remaining) endsStatements r.statement

/-- Statements between braces. -/
def blockStep (r : Rules) : Read Unit := do
  symbol "\x7b"
  statements r
  symbol "\x7d"

/-- The cases between the braces of a statement. -/
def cases (r : Rules) (label : Read Unit) : Read Unit := do
  symbol "\x7b"
  let _ ← many do
    (keyword "case" *> label) <|> keyword "default"
    symbol ":"
    statements r
  symbol "\x7d"

/-- A value or type that a case is about. -/
def caseItem (r : Rules) : Read Unit :=
  (do
    r.expression .inner
    if !isAmong [",", ":"] (← peek) then failure)
  <|> do let _ ← r.type .inner

/-- A communication that a case is about. -/
def communication (r : Rules) : Read Unit :=
  (do
    let _ ← expressions r .inner
    let _ ← takeIf (isAmong ["=", ":="])
    r.expression .inner)
  <|> (do
    r.expression .inner
    let _ ← maybe (symbol "<-" *> r.expression .inner))

/-- A label and the statement behind it, which may be missing at the end of a block. -/
def labeled (r : Rules) : Read Unit := do
  let _ ← name
  symbol ":"
  if !(← peek).isSymbol "\x7d" then r.statement

/-- A statement. -/
def statementStep (r : Rules) : Read Unit := do
  let t ← peek
  match t.kind, t.text with
  | .keyword, "const" => let _ ← declarationOf "const" (constants r)
  | .keyword, "var" => let _ ← declarationOf "var" (variableSpecs r)
  | .keyword, "type" => let _ ← typeDeclaration r
  | .keyword, "return" =>
    keyword "return"
    let _ ← maybeOn .line (expressions r .line)
  | .keyword, "go" | .keyword, "defer" =>
    let _ ← take
    r.expression .line
  | .keyword, "if" => conditionWith (← remaining) r
  | .keyword, "for" =>
    keyword "for"
    beforeBody (loopHead r)
    r.block
  | .keyword, "switch" =>
    keyword "switch"
    beforeBody (switchHead r)
    cases r (do let _ ← commas .inner (caseItem r))
  | .keyword, "select" =>
    keyword "select"
    cases r (communication r)
  | .keyword, "fallthrough" => keyword "fallthrough"
  | .keyword, "break" | .keyword, "continue" =>
    let _ ← take
    let _ ← maybeOn .line name
  | .keyword, "goto" =>
    keyword "goto"
    let _ ← name
  | .symbol, "\x7b" => r.block
  | .symbol, ";" => symbol ";"
  | .word, _ => if (← peekSecond).isSymbol ":" then labeled r else simple r .line
  | _, _ => simple r .line

end TypeWeave.Go.Grammar
