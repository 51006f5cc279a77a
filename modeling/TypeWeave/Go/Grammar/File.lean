import TypeWeave.Go.Grammar.Statements

/-!
# Source files

The top level of a source file: the package clause, imports, functions and any statements. What
stands where a rule should fit and none does is marked as an error at its first token.
-/

namespace TypeWeave.Go.Grammar

/-- The package clause. -/
def packageClause (r : Rules) : Read Node := r.node "package_clause" do
  keyword "package"
  return [leaf "package_identifier" (← name)]

/-- One import. -/
def importSpec : Read Unit := do
  let _ ← maybe (symbol "." <|> do let _ ← name)
  let _ ← takeIf (·.kind == .string)

/-- A function or a method. -/
def function (r : Rules) : Read Unit := do
  keyword "func"
  (do
    let _ ← name
    let _ ← maybe (typeParameters r))
  <|> (do
    let _ ← parameters r
    let _ ← name)
  let _ ← parameters r
  let _ ← maybe (result r .line)
  let _ ← maybeOn .line r.block

/-- Something that may end at the end of the file without a line end. -/
def definition (r : Rules) : Read Node :=
  packageClause r
  <|> r.node "import_declaration" (do
    let _ ← declarationOf "import" importSpec
    return [])
  <|> r.node "function_declaration" (do
    function r
    return [])

/-- A statement at the top level. -/
def topStatement (r : Rules) : Read Node :=
  typeDeclaration r <|> r.node "statement" (r.statement *> pure [])

/-- The nodes of the top level and whether the whole source follows the grammar. -/
def topLevel (fuel : Nat) (r : Rules) : Read (List Node × Bool) :=
  match fuel with
  | 0 => return ([], false)
  | fuel + 1 => do
    if (← peek).isEnding then return ([], true)
    let item : Read Node :=
      (do
        let n ← definition r
        if !(← peek).isEnding then terminator
        return n)
      <|> do
        let n ← topStatement r
        terminator
        return n
    match ← maybe item with
    | some n =>
      let (ns, fine) ← topLevel fuel r
      return (n :: ns, fine)
    | none =>
      return ([{ leaf "ERROR" (← peek) with isError := true, hasError := true }], false)

/-- The rules, unfolded to a depth. -/
def rules (source : Array Char) : Nat → Rules
  | 0 => ⟨source, fun _ => failure, fun _ => failure, failure, failure⟩
  | n + 1 => {
    source := source
    type := fun m => typeStep (rules source n) m
    expression := fun m => expressionStep (rules source n) m
    statement := do statementStep (rules source n)
    block := do blockStep (rules source n) }

/-- The syntax tree of a source file. -/
def parse (source : List Char) : Node :=
  let tokens := Lexeme.tokens source
  let array := source.toArray
  let work : Read (List Node × Bool) := topLevel (tokens.length + 1) (rules array (5 * tokens.length + 10))
  let (children, fine) := ((work.run ⟨tokens, {}⟩).map (·.1)).getD ([], false)
  { kind := "source_file", text := String.ofList source, hasError := !fine, children := children }

end TypeWeave.Go.Grammar
