import TypeWeave.Template.Expression
import TypeWeave.Template.Token
import TypeWeave.Text.Blank
import TypeWeave.Text.Quoted
import TypeWeave.Text.Search

/-!
# Parsing expressions

Steps that take tokens one by one, and the rules for expressions put together from them. What rules
call from inside one another they take from a `Grammar`.
-/

namespace TypeWeave.Template

/-- Why a template is not well formed, and the line to blame. -/
structure SyntaxFault where
  message : String
  line : Nat
  deriving DecidableEq, Repr

/-- How a syntax fault is told. -/
def SyntaxFault.describe (f : SyntaxFault) : String :=
  if f.line = 0 then f.message else "line " ++ toString f.line ++ ": " ++ f.message

/-- The state of parsing: the tokens to come, the line of the last one, the tags that are open and
the tags that may close them, innermost first. -/
structure ParseState where
  tokens : List Token
  line : Nat := 1
  openTags : List String := []
  closing : List (List String) := []

/-- Parsing steps. -/
abbrev Parse := StateT ParseState (Except SyntaxFault)

namespace Parse

/-- Give up at a line. -/
def failAt (line : Nat) (message : String) : Parse α := throw ⟨message, line⟩

/-- Stop at source that cannot be read. -/
def settle : Parse Unit := do
  match (← get).tokens with
  | ⟨.broken reason, line⟩ :: _ => failAt line reason
  | _ => return ()

/-- The token at hand. -/
def current : Parse Token := do
  let s ← get
  return s.tokens.headD ⟨.eof, s.line⟩

/-- The token after the one at hand. -/
def look : Parse Token := do
  let s ← get
  match s.tokens with
  | [] => return ⟨.eof, s.line⟩
  | [t] => return ⟨.eof, t.line⟩
  | _ :: ⟨.broken reason, line⟩ :: _ => failAt line reason
  | _ :: t :: _ => return t

/-- Take the token at hand. -/
def next : Parse Token := do
  let t ← current
  modify fun s => { s with tokens := s.tokens.tail, line := t.line }
  settle
  return t

/-- Give up at the token at hand. -/
def fail (message : String) : Parse α := do failAt (← current).line message

/-- Take a token that must be of a kind. -/
def expect (isRight : Token → Bool) (wanted : String) : Parse Token := do
  let t ← current
  if isRight t then next
  else if t.isEof then
    failAt t.line ("unexpected end of template, expected " ++ Text.quoted wanted ++ ".")
  else
    failAt t.line
      ("expected token " ++ Text.quoted wanted ++ ", got " ++ Text.quoted t.describe)

/-- Take an operator. -/
def expectOperator (symbol : String) : Parse Unit := do
  let _ ← expect (·.isOperator symbol) symbol

/-- Take a given word. -/
def expectWord (word : String) : Parse Token := expect (·.isWord word) word

/-- Take any word. -/
def expectName : Parse String := do
  let t ← expect (·.word?.isSome) "name"
  return t.word?.getD ""

/-- Take the end of a statement tag. -/
def expectStatementEnd : Parse Unit := do
  let _ ← expect Token.isStatementEnd Token.Kind.statementEnd.describe

/-- Take a token if it is of a kind. -/
def skipIf (isRight : Token → Bool) : Parse Bool := do
  if isRight (← current) then
    let _ ← next
    return true
  else return false

/-- Take a word if it is the given one. -/
def skipWord (word : String) : Parse Bool := skipIf (·.isWord word)

/-- Take an operator if it is the given one. -/
def skipOperator (symbol : String) : Parse Bool := skipIf (·.isOperator symbol)

/-- The number of tokens to come, which bounds every repetition. -/
def remaining : Parse Nat := do return (← get).tokens.length + 1

/-- Extend a result as long as a step succeeds. -/
def extendWith (fuel : Nat) (step : α → Parse (Option α)) (a : α) : Parse α :=
  match fuel with
  | 0 => return a
  | fuel + 1 => do
    match ← step a with
    | some b => extendWith fuel step b
    | none => return a

/-- Collect results as long as a step succeeds. -/
def collect (fuel : Nat) (step : Parse (Option α)) : Parse (List α) :=
  match fuel with
  | 0 => return []
  | fuel + 1 => do
    match ← step with
    | some a => return a :: (← collect fuel step)
    | none => return []

/-- The items up to a closing operator, which is taken. A comma may follow the last item. -/
def itemsUntil (close : String) (item : Parse α) : Parse (List α) := do
  let rec go (fuel : Nat) (first : Bool) : Parse (List α) :=
    match fuel with
    | 0 => return []
    | fuel + 1 => do
      if (← current).isOperator close then return []
      unless first do expectOperator ","
      if (← current).isOperator close then return []
      let a ← item
      return a :: (← go fuel false)
  let items ← go (← remaining) true
  expectOperator close
  return items

/-- Items separated by commas, and whether a comma was seen. The items end at a token that cannot
start one. -/
def tupleItems (fuel : Nat) (isEnd : Token → Bool) (item : Parse α) (first : Bool) :
    Parse (List α × Bool) :=
  match fuel with
  | 0 => return ([], false)
  | fuel + 1 => do
    unless first do expectOperator ","
    if isEnd (← current) then return ([], false)
    let a ← item
    if (← current).isOperator "," then
      let (rest, _) ← tupleItems fuel isEnd item false
      return (a :: rest, true)
    else return ([a], false)

/-- The rules that other rules call. -/
structure Grammar where
  /-- An expression, with or without conditional expressions. -/
  expression (conditional : Bool) : Parse Expr
  /-- An expression under `not`. -/
  negation : Parse Expr
  /-- An operand under a sign. -/
  operand : Parse Expr
  /-- Statements up to one of the closing tags, or to the end of the template. -/
  statements (closing : Option (List String)) : Parse (List Stmt)

/-- A token after which no item of a tuple follows. -/
def endsTuple (t : Token) : Bool := t.isPrintEnd || t.isStatementEnd || t.isOperator ")"

/-- One expression or several separated by commas. -/
def tupleWith (g : Grammar) (conditional : Bool) (isEnd : Token → Bool) (bracketed : Bool) :
    Parse Expr := do
  let (items, several) ←
    tupleItems (← remaining) (fun t => endsTuple t || isEnd t) (g.expression conditional) true
  if several then return .tuple items
  match items with
  | e :: _ => return e
  | [] =>
    if bracketed then return .tuple []
    fail ("Expected an expression, got " ++ Text.quoted (← current).describe)

/-- The entry of a dictionary. -/
def entry (g : Grammar) : Parse (Expr × Expr) := do
  let k ← g.expression true
  expectOperator ":"
  let v ← g.expression true
  return (k, v)

/-- A literal, a name or a bracketed expression. -/
def primary (g : Grammar) : Parse Expr := do
  let t ← current
  match t.kind with
  | .name word =>
    let _ ← next
    if word == "true" || word == "True" then return .bool true
    if word == "false" || word == "False" then return .bool false
    if word == "none" || word == "None" then return .nothing
    return .name word
  | .text s =>
    let _ ← next
    let more ← collect (← remaining) do
      match (← current).kind with
      | .text s =>
        let _ ← next
        return some s
      | _ => return none
    return .text (more.foldl (· ++ ·) s)
  | .integer n =>
    let _ ← next
    return .integer n
  | .float x =>
    let _ ← next
    return .float x
  | .operator "(" =>
    let _ ← next
    let e ← tupleWith g true (fun _ => false) true
    expectOperator ")"
    return e
  | .operator "[" =>
    let _ ← next
    return .list (← itemsUntil "]" (g.expression true))
  | .operator "\x7b" =>
    let _ ← next
    return .dict (← itemsUntil "\x7d" (entry g))
  | _ => failAt t.line ("unexpected " ++ Text.quoted t.describe)

/-- One argument of a call. -/
inductive Argument where
  | positional (value : Expr)
  | named (key : String) (value : Expr)
  | spread (value : Expr)
  | spreadNamed (value : Expr)

/-- Add an argument. A positional argument stands before all others, a spread value is given once,
and only the last argument spreads names. -/
def addArgument (line : Nat) (args : Arguments Expr) (a : Argument) : Parse (Arguments Expr) :=
  let allowed := match a with
    | .positional _ => args.spread.isNone && args.spreadNamed.isNone && args.named.isEmpty
    | .named _ _ => args.spreadNamed.isNone
    | .spread _ => args.spread.isNone && args.spreadNamed.isNone
    | .spreadNamed _ => args.spreadNamed.isNone
  if allowed then
    match a with
    | .positional e => return { args with positional := args.positional ++ [e] }
    | .named k e => return { args with named := args.named ++ [(k, e)] }
    | .spread e => return { args with spread := some e }
    | .spreadNamed e => return { args with spreadNamed := some e }
  else failAt line "invalid syntax for function call expression"

/-- Refuse an argument in a place where it may not stand, before it is read. -/
def checkArgument (line : Nat) (args : Arguments Expr) (a : Argument) : Parse Unit := do
  let _ ← addArgument line args a

/-- The arguments of a call with their brackets. -/
def arguments (g : Grammar) : Parse (Arguments Expr) := do
  let line := (← current).line
  expectOperator "("
  let step (state : Arguments Expr × Bool) : Parse (Option (Arguments Expr × Bool)) := do
    let (args, first) := state
    if (← current).isOperator ")" then return none
    unless first do expectOperator ","
    if (← current).isOperator ")" then return none
    let t ← current
    if t.isOperator "*" then
      checkArgument line args (.spread .nothing)
      let _ ← next
      return some (← addArgument line args (.spread (← g.expression true)), false)
    else if t.isOperator "**" then
      checkArgument line args (.spreadNamed .nothing)
      let _ ← next
      return some (← addArgument line args (.spreadNamed (← g.expression true)), false)
    else
      let isNamed ← if t.word?.isSome then do pure ((← look).isOperator "=") else pure false
      if isNamed then
        checkArgument line args (.named "" .nothing)
        let _ ← next
        let _ ← next
        let e ← g.expression true
        return some (← addArgument line args (.named (t.word?.getD "") e), false)
      else
        checkArgument line args (.positional .nothing)
        return some (← addArgument line args (.positional (← g.expression true)), false)
  let (args, _) ← extendWith (← remaining) step ({}, true)
  expectOperator ")"
  return args

/-- An optional part of a slice. -/
def slicePart (g : Grammar) : Parse (Option Expr) := do
  let t ← current
  if t.isOperator "]" || t.isOperator "," || t.isOperator ":" then return none
  return some (← g.expression true)

/-- The inside of a subscript: an expression or a slice. -/
def subscript (g : Grammar) : Parse Expr := do
  let start ← if (← current).isOperator ":" then pure none else do
    let e ← g.expression true
    pure (some e)
  match start with
  | some e => if !(← current).isOperator ":" then return e
  | none => pure ()
  let _ ← next
  let stop ← slicePart g
  let step ← if ← skipOperator ":" then do
      let t ← current
      if t.isOperator "]" || t.isOperator "," then pure none else do
        let e ← g.expression true
        pure (some e)
    else pure none
  return .slice start stop step

/-- The parts of a subscript up to its bracket. -/
def subscripts (g : Grammar) : Parse (List Expr) := do
  let step (acc : List Expr) : Parse (Option (List Expr)) := do
    if (← current).isOperator "]" then return none
    unless acc.isEmpty do expectOperator ","
    return some (acc ++ [← subscript g])
  let parts ← extendWith (← remaining) step []
  expectOperator "]"
  return parts

/-- One attribute, subscript or call behind an expression. -/
def postfixStep (g : Grammar) (e : Expr) : Parse (Option Expr) := do
  let t ← current
  if t.isOperator "." then
    let _ ← next
    let field ← current
    let _ ← next
    match field.kind with
    | .name word => return some (.attribute e word)
    | .integer n => return some (.item e (.integer n))
    | _ => failAt field.line "expected name or number"
  else if t.isOperator "[" then
    let _ ← next
    match ← subscripts g with
    | [k] => return some (.item e k)
    | ks => return some (.item e (.tuple ks))
  else if t.isOperator "(" then return some (.call e (← arguments g))
  else return none

/-- Attributes, subscripts and calls behind an expression. -/
def postfixes (g : Grammar) (e : Expr) : Parse Expr := do
  extendWith (← remaining) (postfixStep g) e

/-- A name with dots in it. -/
def dottedName : Parse String := do
  let first ← expectName
  let more ← collect (← remaining) do
    if ← skipOperator "." then return some (← expectName) else return none
  return more.foldl (fun acc n => acc ++ "." ++ n) first

/-- Arguments, if a bracket opens. -/
def optionalArguments (g : Grammar) : Parse (Arguments Expr) := do
  if (← current).isOperator "(" then arguments g else return {}

/-- A filter behind the bar. -/
def filterOn (g : Grammar) (input : Option Expr) : Parse Expr := do
  let line := (← current).line
  let name ← dottedName
  return .filter input name (← optionalArguments g) line

/-- The filters that are chained by bars. -/
def filtersOn (g : Grammar) (input : Option Expr) : Parse (Option Expr) := do
  extendWith (← remaining) (fun e => do
    if ← skipOperator "|" then return some (some (← filterOn g e)) else return none) input

/-- A token that starts the argument of a test without brackets. -/
def startsTestArgument (t : Token) : Bool :=
  match t.kind with
  | .name word => word != "else" && word != "or" && word != "and"
  | .text _ | .integer _ | .float _ => true
  | .operator symbol => symbol == "[" || symbol == "\x7b"
  | _ => false

/-- A test behind `is`. -/
def testOn (g : Grammar) (input : Expr) : Parse Expr := do
  let line := (← next).line
  let negated ← skipWord "not"
  let name ← dottedName
  let t ← current
  let args : Arguments Expr ←
    if t.isOperator "(" then arguments g
    else if startsTestArgument t then do
      if t.isWord "is" then fail "You cannot chain multiple tests with is"
      let e ← postfixes g (← primary g)
      pure { positional := [e] }
    else pure {}
  let e := Expr.test input name args line
  return if negated then .unary .negate e else e

/-- One filter, test or call behind an operand. -/
def filterStep (g : Grammar) (e : Expr) : Parse (Option Expr) := do
  let t ← current
  if t.isOperator "|" then
    let _ ← next
    return some (← filterOn g (some e))
  else if t.isWord "is" then return some (← testOn g e)
  else if t.isOperator "(" then return some (.call e (← arguments g))
  else return none

/-- An operand with its sign, without filters. -/
def signed (g : Grammar) : Parse Expr := do
  let t ← current
  let e ←
    if t.isOperator "-" then do
      let _ ← next
      pure (.unary .negative (← g.operand))
    else if t.isOperator "+" then do
      let _ ← next
      pure (.unary .positive (← g.operand))
    else primary g
  postfixes g e

/-- An operand with its filters. -/
def filtered (g : Grammar) : Parse Expr := do
  let e ← signed g
  extendWith (← remaining) (filterStep g) e

/-- Operands joined by operators that group to the left. -/
def chain (operand : Parse Expr) (operator? : Token → Option Binary) : Parse Expr := do
  let first ← operand
  extendWith (← remaining) (fun left => do
    match operator? (← current) with
    | some op =>
      let _ ← next
      return some (.binary op left (← operand))
    | none => return none) first

/-- The operator of a token among some. -/
def operatorAmong (table : List (String × Binary)) (t : Token) : Option Binary :=
  match t.kind with
  | .operator symbol => table.lookup symbol
  | _ => none

/-- The word operator of a token. -/
def wordOperator (word : String) (op : Binary) (t : Token) : Option Binary :=
  if t.isWord word then some op else none

/-- Powers. -/
def powers (g : Grammar) : Parse Expr := chain (filtered g) (operatorAmong [("**", .pow)])

/-- Products. -/
def products (g : Grammar) : Parse Expr :=
  chain (powers g) (operatorAmong [("*", .mul), ("/", .div), ("//", .floorDiv), ("%", .mod)])

/-- Texts joined by `~`. -/
def concatenations (g : Grammar) : Parse Expr := do
  let first ← products g
  let more ← collect (← remaining) do
    if ← skipOperator "~" then return some (← products g) else return none
  return if more.isEmpty then first else .concat (first :: more)

/-- Sums. -/
def sums (g : Grammar) : Parse Expr :=
  chain (concatenations g) (operatorAmong [("+", .add), ("-", .sub)])

/-- The comparison operators. -/
def comparisons : List (String × Comparison) :=
  [("==", .eq), ("!=", .ne), ("<", .lt), ("<=", .le), (">", .gt), (">=", .ge)]

/-- One comparison behind an operand. -/
def comparisonStep (g : Grammar) : Parse (Option (Comparison × Expr)) := do
  let t ← current
  match t.kind with
  | .operator symbol =>
    match comparisons.lookup symbol with
    | some op =>
      let _ ← next
      return some (op, ← sums g)
    | none => return none
  | .name "in" =>
    let _ ← next
    return some (.member, ← sums g)
  | .name "not" =>
    if (← look).isWord "in" then
      let _ ← next
      let _ ← next
      return some (.absent, ← sums g)
    else return none
  | _ => return none

/-- Comparisons. -/
def compared (g : Grammar) : Parse Expr := do
  let first ← sums g
  let rest ← collect (← remaining) (comparisonStep g)
  return if rest.isEmpty then first else .compare first rest

/-- Negations. -/
def negated (g : Grammar) : Parse Expr := do
  if ← skipWord "not" then return .unary .negate (← g.negation) else compared g

/-- Conjunctions and disjunctions. -/
def disjunction (g : Grammar) : Parse Expr :=
  chain (chain (negated g) (wordOperator "and" .both)) (wordOperator "or" .either)

/-- Expressions with conditions behind them. -/
def conditional (g : Grammar) : Parse Expr := do
  let line := (← current).line
  let first ← disjunction g
  let step (state : Expr × Nat) : Parse (Option (Expr × Nat)) := do
    if ← skipWord "if" then
      let test ← disjunction g
      let otherwise ← if ← skipWord "else" then do
          let e ← g.expression true
          pure (some e)
        else pure none
      return some (.conditional test state.1 otherwise state.2, (← current).line)
    else return none
  let (e, _) ← extendWith (← remaining) step (first, line)
  return e

end Parse

end TypeWeave.Template
