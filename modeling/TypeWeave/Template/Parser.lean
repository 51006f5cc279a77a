import TypeWeave.Template.Parser.Expression

/-!
# Parsing a template

The tokens become statements. The rules for expressions and statements call each other through a
`Grammar`, which is tied by a count that no template exhausts: every rule that recurs takes at least
one token.
-/

namespace TypeWeave.Template

namespace Parse

/-- What stands where a target is wanted. -/
inductive Candidate where
  | expression (e : Expr)
  | field (object name : String)

mutual

/-- An expression as a target: a name or a tuple of targets. -/
def toTarget? : Expr → Option Target
  | .name n => some (.name n)
  | .tuple items => (toTargets? items).map .tuple
  | _ => none

/-- Expressions as targets. -/
def toTargets? : List Expr → Option (List Target)
  | [] => some []
  | e :: es =>
    match toTarget? e, toTargets? es with
    | some t, some ts => some (t :: ts)
    | _, _ => none

end

/-- A candidate as a target. -/
def Candidate.toTarget? : Candidate → Option Target
  | .expression e => Parse.toTarget? e
  | .field o n => some (.field o n)

/-- Something that may be a target. Fields are read only where `fields` is set. -/
def candidate (g : Grammar) (fields : Bool) : Parse Candidate := do
  let e ← primary g
  match e with
  | .name object =>
    if fields && (← current).isOperator "." then
      let _ ← next
      return .field object (← expectName)
    else return .expression e
  | _ => return .expression e

/-- The target of an assignment or a loop. -/
def target (g : Grammar) (fields : Bool) (isEnd : Token → Bool) : Parse Target := do
  let line := (← current).line
  let (items, several) ←
    tupleItems (← remaining) (fun t => endsTuple t || isEnd t) (candidate g fields) true
  if several then
    match items.mapM Candidate.toTarget? with
    | some ts => return .tuple ts
    | none => failAt line "can't assign to 'tuple'"
  match items with
  | c :: _ =>
    match c.toTarget?, c with
    | some t, _ => return t
    | none, .expression e => failAt line ("can't assign to " ++ Text.quoted e.form)
    | none, .field _ _ => failAt line "can't assign to 'nsref'"
  | [] => fail ("Expected an expression, got " ++ Text.quoted (← current).describe)

/-- A single name as a target. -/
def nameTarget : Parse String := do
  let line := (← current).line
  let n ← expectName
  if ["true", "false", "none", "True", "False", "None"].contains n then
    failAt line "can't assign to 'name'"
  return n

/-- The message for a tag that cannot stand here, or for the end of the template. -/
def misplaced (name : Option String) (openTags : List String) (closing : List (List String)) :
    String :=
  let opening := match name with
    | none => "Unexpected end of template."
    | some n => "Encountered unknown tag " ++ Text.quoted n ++ "."
  let looking := match closing with
    | [] => ""
    | ends :: _ =>
      let wanted := " or ".intercalate (ends.map Text.quoted)
      let known := match name with
        | some n => closing.any (·.contains n)
        | none => false
      if wanted.isEmpty then ""
      else if known then
        " You probably made a nesting mistake. Jinja is expecting this tag, but currently looking for " ++
          wanted ++ "."
      else " Jinja was looking for the following tags: " ++ wanted ++ "."
  let innermost := match openTags with
    | [] => ""
    | t :: _ => " The innermost block that needs to be closed is " ++ Text.quoted t ++ "."
  opening ++ looking ++ innermost

/-- The statements of a block up to one of its closing tags, which stays at hand. -/
def blockUntil (g : Grammar) (closing : List String) : Parse (List Stmt) := do
  let _ ← skipOperator ":"
  expectStatementEnd
  let body ← g.statements (some closing)
  if (← current).isEof then
    let s ← get
    fail (misplaced none s.openTags (closing :: s.closing))
  return body

/-- The statements of a block up to its closing tag, which is taken. -/
def blockThrough (g : Grammar) (closing : String) : Parse (List Stmt) := do
  let body ← blockUntil g [closing]
  let _ ← next
  return body

/-- The parameters of a macro. -/
def parameters (g : Grammar) : Parse Parameters := do
  expectOperator "("
  let step (acc : Parameters) : Parse (Option Parameters) := do
    if (← current).isOperator ")" then return none
    unless acc.isEmpty do expectOperator ","
    let n ← nameTarget
    if ← skipOperator "=" then return some (acc ++ [(n, some (← g.expression true))])
    if acc.any (·.2.isSome) then fail "non-default argument follows default argument"
    return some (acc ++ [(n, none)])
  let ps ← extendWith (← remaining) step []
  expectOperator ")"
  return ps

/-- `for … in …`. -/
def loopStatement (g : Grammar) : Parse Stmt := do
  let line := (← next).line
  let target ← target g false (·.isWord "in")
  let _ ← expectWord "in"
  let source ← tupleWith g false (·.isWord "recursive") false
  let test ← if ← skipWord "if" then do
      let e ← g.expression true
      pure (some e)
    else pure none
  let recursive ← skipWord "recursive"
  let body ← blockUntil g ["endfor", "else"]
  let closer ← next
  let otherwise ← if closer.isWord "endfor" then pure [] else blockThrough g "endfor"
  return .loop ⟨target, source, test, recursive, line⟩ body otherwise

/-- `if …` with its alternatives. -/
def chooseFrom (g : Grammar) (fuel : Nat) : Parse Stmt :=
  match fuel with
  | 0 => fail "Unexpected end of template."
  | fuel + 1 => do
    let test ← tupleWith g false (fun _ => false) false
    let body ← blockUntil g ["elif", "else", "endif"]
    let closer ← next
    let otherwise ←
      if closer.isWord "elif" then do pure [← chooseFrom g fuel]
      else if closer.isWord "else" then blockThrough g "endif"
      else pure []
    return .choose test body otherwise

/-- `set …`, with a value or with a block of text. -/
def setStatement (g : Grammar) : Parse Stmt := do
  let line := (← next).line
  let target ← target g true (fun _ => false)
  if ← skipOperator "=" then return .assign target (← tupleWith g true (fun _ => false) false) line
  let filter ← filtersOn g none
  return .capture target filter line (← blockThrough g "endset")

/-- `with …`. -/
def withStatement (g : Grammar) : Parse Stmt := do
  let _ ← next
  let step (acc : List (Target × Expr)) : Parse (Option (List (Target × Expr))) := do
    if (← current).isStatementEnd then return none
    unless acc.isEmpty do expectOperator ","
    let t ← target g false (fun _ => false)
    expectOperator "="
    return some (acc ++ [(t, ← g.expression true)])
  let bindings ← extendWith (← remaining) step []
  return .withBlock bindings (← blockThrough g "endwith")

/-- A statement that holds nothing but white space. -/
def isBlankOutput : Stmt → Bool
  | .output parts => parts.all fun
    | .data s => !s.isEmpty && Text.blank s
    | _ => false
  | _ => false

/-- `block …`. -/
def blockStatement (g : Grammar) : Parse Stmt := do
  let line := (← next).line
  let name ← expectName
  let sharing ← skipWord "scoped"
  let required ← skipWord "required"
  if (← current).isOperator "-" then
    fail ("Block names in Jinja have to be valid Python identifiers and may not contain hyphens, " ++
      "use an underscore instead.")
  let body ← blockThrough g "endblock"
  if required && !body.all isBlankOutput then
    fail "Required blocks can only contain comments or whitespace"
  let _ ← skipWord name
  return .block name sharing required line body

/-- `with context` or `without context` behind an import. -/
def importContext : Parse Bool := do
  let t ← current
  if t.isWord "with" || t.isWord "without" then
    if (← look).isWord "context" then
      let _ ← next
      let _ ← next
      return true
  return false

/-- `include …`. -/
def includeStatement (g : Grammar) : Parse Stmt := do
  let _ ← next
  let e ← g.expression true
  let ignoring ← if (← current).isWord "ignore" then do pure ((← look).isWord "missing")
    else pure false
  if ignoring then
    let _ ← next
    let _ ← next
  let _ ← importContext
  return .embed e ignoring

/-- `import … as …`. -/
def importStatement (g : Grammar) : Parse Stmt := do
  let _ ← next
  let e ← g.expression true
  let _ ← expectWord "as"
  let n ← nameTarget
  let _ ← importContext
  return .importAs e n

/-- The names behind `from … import`. -/
def importedNames (fuel : Nat) (first : Bool) : Parse (List String) :=
  match fuel with
  | 0 => return []
  | fuel + 1 => do
    unless first do expectOperator ","
    let t ← current
    if t.word?.isNone then
      let _ ← expectName
      return []
    if ← importContext then return []
    let n ← nameTarget
    if n.startsWith "_" then failAt t.line "names starting with an underline can not be imported"
    let alias' ← if ← skipWord "as" then nameTarget else pure n
    if ← importContext then return [alias']
    if (← current).isOperator "," then return alias' :: (← importedNames fuel false)
    return [alias']

/-- `from … import …`. -/
def fromStatement (g : Grammar) : Parse Stmt := do
  let _ ← next
  let e ← g.expression true
  let _ ← expectWord "import"
  return .importFrom e (← importedNames (← remaining) true)

/-- `call …`. -/
def callStatement (g : Grammar) : Parse Stmt := do
  let line := (← next).line
  let ps ← if (← current).isOperator "(" then parameters g else pure []
  let e ← g.expression true
  match e with
  | .call _ _ => return .callBlock ps e line (← blockThrough g "endcall")
  | _ => failAt line "expected call"

/-- `filter …`. -/
def filterStatement (g : Grammar) : Parse Stmt := do
  let _ ← next
  let first ← filterOn g none
  let filter ← filtersOn g (some first)
  return .filterBlock (filter.getD first) (← blockThrough g "endfilter")

/-- `macro …`. -/
def macroStatement (g : Grammar) : Parse Stmt := do
  let line := (← next).line
  let name ← nameTarget
  let ps ← parameters g
  return .define name ps line (← blockThrough g "endmacro")

/-- `print …`. -/
def printStatement (g : Grammar) : Parse Stmt := do
  let _ ← next
  let step (acc : List Expr) : Parse (Option (List Expr)) := do
    if (← current).isStatementEnd then return none
    unless acc.isEmpty do expectOperator ","
    return some (acc ++ [← g.expression true])
  return .output (← extendWith (← remaining) step [])

/-- The rule of a statement tag. -/
def rule? (g : Grammar) (word : String) : Option (Parse Stmt) :=
  match word with
  | "for" => some (loopStatement g)
  | "if" => some do
    let _ ← next
    chooseFrom g (← remaining)
  | "block" => some (blockStatement g)
  | "extends" => some do
    let line := (← next).line
    return .extend (← g.expression true) line
  | "print" => some (printStatement g)
  | "macro" => some (macroStatement g)
  | "include" => some (includeStatement g)
  | "from" => some (fromStatement g)
  | "import" => some (importStatement g)
  | "set" => some (setStatement g)
  | "with" => some (withStatement g)
  | "autoescape" => some do
    let _ ← next
    let e ← g.expression true
    return .autoescape e (← blockThrough g "endautoescape")
  | "call" => some (callStatement g)
  | "filter" => some (filterStatement g)
  | _ => none

/-- A statement behind the opening of its tag. -/
def statement (g : Grammar) : Parse Stmt := do
  let t ← current
  match t.word? with
  | none => failAt t.line "tag name expected"
  | some word =>
    match rule? g word with
    | some rule =>
      modify fun s => { s with openTags := word :: s.openTags }
      let st ← rule
      modify fun s => { s with openTags := s.openTags.tail }
      return st
    | none =>
      let s ← get
      failAt t.line (misplaced (some word) s.openTags s.closing)

/-- Output collected so far, as a statement. -/
def flush (parts : List Expr) : List Stmt := if parts.isEmpty then [] else [.output parts]

/-- Statements up to a closing tag, which stays at hand, or to the end of the template. -/
def statementsFrom (g : Grammar) (closing : Option (List String)) (fuel : Nat) (parts : List Expr) :
    Parse (List Stmt) :=
  match fuel with
  | 0 => return flush parts
  | fuel + 1 => do
    let t ← current
    match t.kind with
    | .eof => return flush parts
    | .data s =>
      let _ ← next
      statementsFrom g closing fuel (parts ++ [.data s])
    | .printBegin =>
      let _ ← next
      let e ← tupleWith g true (fun _ => false) false
      let _ ← expect Token.isPrintEnd Token.Kind.printEnd.describe
      statementsFrom g closing fuel (parts ++ [e])
    | .statementBegin =>
      let _ ← next
      let word := (← current).word?
      let closes := match closing, word with
        | some ends, some w => ends.contains w
        | _, _ => false
      if closes then return flush parts
      let st ← statement g
      expectStatementEnd
      return flush parts ++ st :: (← statementsFrom g closing fuel [])
    | _ => fail "internal parsing error"

/-- Statements inside a block, which knows its closing tags. -/
def statementsWith (g : Grammar) (closing : Option (List String)) : Parse (List Stmt) := do
  match closing with
  | some ends => modify fun s => { s with closing := ends :: s.closing }
  | none => pure ()
  let body ← statementsFrom g closing (← remaining) []
  match closing with
  | some _ => modify fun s => { s with closing := s.closing.tail }
  | none => pure ()
  return body

/-- The rules, unfolded to a depth. -/
def grammar : Nat → Grammar
  | 0 =>
    let stop {α : Type} : Parse α := fail "maximum recursion depth exceeded"
    ⟨fun _ => stop, stop, stop, fun _ => stop⟩
  | n + 1 => {
    expression := fun c => if c then conditional (grammar n) else disjunction (grammar n)
    negation := negated (grammar n)
    operand := signed (grammar n)
    statements := fun closing => statementsWith (grammar n) closing }

end Parse

/-- The statements of a template, given its tokens. -/
def parseTokens (tokens : List Token) : Except SyntaxFault (List Stmt) :=
  let parse : Parse (List Stmt) := do
    Parse.settle
    (Parse.grammar (tokens.length + 2)).statements none
  (parse.run { tokens := tokens }).map (·.1)

end TypeWeave.Template
