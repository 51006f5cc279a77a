/-!
# Template expressions and statements

The tree of a parsed template. An expression carries the line that its messages mention. The
traversals list the expressions inside an expression, parents first, and the names that statements
read and bind in source order, which is what the name analysis and the checks are built on.
-/

namespace TypeWeave.Template

/-- Operators with one operand. -/
inductive Unary where
  | negative
  | positive
  | negate
  deriving DecidableEq, Repr

/-- Operators with two operands. -/
inductive Binary where
  | add
  | sub
  | mul
  | div
  | floorDiv
  | mod
  | pow
  | both
  | either
  deriving DecidableEq, Repr

/-- Comparisons. -/
inductive Comparison where
  | eq
  | ne
  | lt
  | le
  | gt
  | ge
  | member
  | absent
  deriving DecidableEq, Repr

/-- Arguments at a call: positional, named, and the two forms that spread a value. -/
structure Arguments (ε : Type) where
  positional : List ε := []
  named : List (String × ε) := []
  spread : Option ε := none
  spreadNamed : Option ε := none

/-- Expressions. -/
inductive Expr where
  | nothing
  | bool (value : Bool)
  | integer (value : Nat)
  | float (value : Float)
  | text (value : String)
  /-- Text outside tags. -/
  | data (text : String)
  | name (name : String)
  | tuple (items : List Expr)
  | list (items : List Expr)
  | dict (entries : List (Expr × Expr))
  | unary (op : Unary) (operand : Expr)
  | binary (op : Binary) (left right : Expr)
  | concat (parts : List Expr)
  | compare (first : Expr) (rest : List (Comparison × Expr))
  | conditional (test value : Expr) (otherwise : Option Expr) (line : Nat)
  | attribute (object : Expr) (name : String)
  | item (object key : Expr)
  | slice (start stop step : Option Expr)
  | call (callee : Expr) (arguments : Arguments Expr)
  /-- A filter; without an input it stands at the head of a block whose text it filters. -/
  | filter (input : Option Expr) (name : String) (arguments : Arguments Expr) (line : Nat)
  | test (input : Expr) (name : String) (arguments : Arguments Expr) (line : Nat)

namespace Expr

mutual

/-- The expressions inside an expression, itself first. The branches of a conditional expression
are left out unless `all` is set. -/
def subterms (all : Bool) : Expr → List Expr
  | .tuple items => .tuple items :: subtermsOf all items
  | .list items => .list items :: subtermsOf all items
  | .dict entries => .dict entries :: subtermsOfEntries all entries
  | .unary op e => .unary op e :: subterms all e
  | .binary op l r => .binary op l r :: (subterms all l ++ subterms all r)
  | .concat parts => .concat parts :: subtermsOf all parts
  | .compare first rest => .compare first rest :: (subterms all first ++ subtermsOfCompared all rest)
  | .conditional t v o line =>
    .conditional t v o line ::
      (if all then subterms all t ++ subterms all v ++ subtermsOfOption all o else [])
  | .attribute e n => .attribute e n :: subterms all e
  | .item e k => .item e k :: (subterms all e ++ subterms all k)
  | .slice a b c =>
    .slice a b c :: (subtermsOfOption all a ++ subtermsOfOption all b ++ subtermsOfOption all c)
  | .call f args => .call f args :: (subterms all f ++ subtermsOfArguments all args)
  | .filter input n args line =>
    .filter input n args line :: (subtermsOfOption all input ++ subtermsOfArguments all args)
  | .test input n args line =>
    .test input n args line :: (subterms all input ++ subtermsOfArguments all args)
  | e => [e]

/-- The expressions inside a list of expressions. -/
def subtermsOf (all : Bool) : List Expr → List Expr
  | [] => []
  | e :: es => subterms all e ++ subtermsOf all es

/-- The expressions inside an optional expression. -/
def subtermsOfOption (all : Bool) : Option Expr → List Expr
  | none => []
  | some e => subterms all e

/-- The expressions inside the entries of a dictionary. -/
def subtermsOfEntries (all : Bool) : List (Expr × Expr) → List Expr
  | [] => []
  | (k, v) :: es => subterms all k ++ subterms all v ++ subtermsOfEntries all es

/-- The expressions inside the operands of a comparison. -/
def subtermsOfCompared (all : Bool) : List (Comparison × Expr) → List Expr
  | [] => []
  | (_, e) :: es => subterms all e ++ subtermsOfCompared all es

/-- The expressions inside named arguments. -/
def subtermsOfNamed (all : Bool) : List (String × Expr) → List Expr
  | [] => []
  | (_, e) :: es => subterms all e ++ subtermsOfNamed all es

/-- The expressions inside arguments. -/
def subtermsOfArguments (all : Bool) : Arguments Expr → List Expr
  | ⟨positional, named, spread, spreadNamed⟩ =>
    subtermsOf all positional ++ subtermsOfNamed all named ++ subtermsOfOption all spread ++
      subtermsOfOption all spreadNamed

end

/-- The names that an expression reads. -/
def names (e : Expr) : List String :=
  (e.subterms true).filterMap fun
    | .name n => some n
    | _ => none

/-- The word by which a message names the form of an expression. -/
def form : Expr → String
  | .nothing | .bool _ | .integer _ | .float _ | .text _ => "const"
  | .data _ => "templatedata"
  | .name _ => "name"
  | .tuple _ => "tuple"
  | .list _ => "list"
  | .dict _ => "dict"
  | .unary .negative _ => "neg"
  | .unary .positive _ => "pos"
  | .unary .negate _ => "not"
  | .binary .add _ _ => "add"
  | .binary .sub _ _ => "sub"
  | .binary .mul _ _ => "mul"
  | .binary .div _ _ => "div"
  | .binary .floorDiv _ _ => "floordiv"
  | .binary .mod _ _ => "mod"
  | .binary .pow _ _ => "pow"
  | .binary .both _ _ => "and"
  | .binary .either _ _ => "or"
  | .concat _ => "concat"
  | .compare _ _ => "compare"
  | .conditional .. => "condexpr"
  | .attribute _ _ => "getattr"
  | .item _ _ => "getitem"
  | .slice .. => "slice"
  | .call _ _ => "call"
  | .filter .. => "filter"
  | .test .. => "test"

end Expr

/-- What an assignment binds: a name, a field of a namespace, or several targets at once. -/
inductive Target where
  | name (name : String)
  | field (object name : String)
  | tuple (items : List Target)

/-- The leaves of a target from left to right. -/
def Target.leaves : Target → List Target
  | .tuple items => items.attach.flatMap fun ⟨t, _⟩ => t.leaves
  | t => [t]

/-- How deep targets are nested in a target. -/
def Target.depth : Target → Nat
  | .tuple items => 1 + (items.attach.map fun ⟨t, _⟩ => t.depth).foldl max 0
  | _ => 1

/-- The names that a target binds. -/
def Target.names (t : Target) : List String :=
  t.leaves.filterMap fun
    | .name n => some n
    | _ => none

/-- The namespaces that a target writes to. -/
def Target.objects (t : Target) : List String :=
  t.leaves.filterMap fun
    | .field o _ => some o
    | _ => none

/-- The parameters of a macro with their defaults. -/
abbrev Parameters := List (String × Option Expr)

/-- The head of a loop. -/
structure LoopHead where
  target : Target
  source : Expr
  test : Option Expr
  recursive : Bool
  line : Nat

/-- Statements. -/
inductive Stmt where
  | output (parts : List Expr)
  | loop (head : LoopHead) (body otherwise : List Stmt)
  | choose (test : Expr) (body otherwise : List Stmt)
  | define (name : String) (parameters : Parameters) (line : Nat) (body : List Stmt)
  | callBlock (parameters : Parameters) (call : Expr) (line : Nat) (body : List Stmt)
  | filterBlock (filter : Expr) (body : List Stmt)
  | assign (target : Target) (value : Expr) (line : Nat)
  | capture (target : Target) (filter : Option Expr) (line : Nat) (body : List Stmt)
  | withBlock (bindings : List (Target × Expr)) (body : List Stmt)
  | autoescape (value : Expr) (body : List Stmt)
  | block (name : String) (sharing required : Bool) (line : Nat) (body : List Stmt)
  | extend (template : Expr) (line : Nat)
  | embed (template : Expr) (ignoreMissing : Bool)
  | importAs (template : Expr) (name : String)
  | importFrom (template : Expr) (names : List String)

/-- One mention of a name. -/
inductive NameUse where
  | reads (name : String)
  | binds (name : String)
  /-- A binding by a loop or an assignment. -/
  | assigns (name : String) (line : Nat)

namespace Stmt

/-- The names that an expression reads, as uses. -/
def readsOf (e : Expr) : List NameUse := e.names.map .reads

/-- The uses in the parameters of a macro. -/
def usesOfParameters (ps : Parameters) : List NameUse :=
  ps.map (.binds ·.1) ++ ps.flatMap fun p => (p.2.map readsOf).getD []

mutual

/-- The mentions of names in a statement in source order, without those inside named blocks
unless `blocks` is set. -/
def uses (blocks : Bool) : Stmt → List NameUse
  | .output parts => parts.flatMap readsOf
  | .loop h body otherwise =>
    h.target.names.map (.assigns · h.line) ++ readsOf h.source ++ usesOf blocks body ++
      usesOf blocks otherwise ++ (h.test.map readsOf).getD []
  | .choose test body otherwise => readsOf test ++ usesOf blocks body ++ usesOf blocks otherwise
  | .define _ ps _ body => usesOfParameters ps ++ usesOf blocks body
  | .callBlock ps call _ body => readsOf call ++ usesOfParameters ps ++ usesOf blocks body
  | .filterBlock filter body => usesOf blocks body ++ readsOf filter
  | .assign target value line => target.names.map (.assigns · line) ++ readsOf value
  | .capture target filter line body =>
    target.names.map (.assigns · line) ++ (filter.map readsOf).getD [] ++ usesOf blocks body
  | .withBlock bindings body =>
    bindings.flatMap (·.1.names.map .binds) ++ bindings.flatMap (readsOf ·.2) ++ usesOf blocks body
  | .autoescape value body => readsOf value ++ usesOf blocks body
  | .block _ _ _ _ body => if blocks then usesOf blocks body else []
  | .extend e _ => readsOf e
  | .embed e _ => readsOf e
  | .importAs e _ => readsOf e
  | .importFrom e _ => readsOf e

/-- The mentions of names in a list of statements. -/
def usesOf (blocks : Bool) : List Stmt → List NameUse
  | [] => []
  | s :: ss => uses blocks s ++ usesOf blocks ss

end

mutual

/-- The statements inside a statement, itself first. -/
def substatements : Stmt → List Stmt
  | .loop h body otherwise =>
    .loop h body otherwise :: (substatementsOf body ++ substatementsOf otherwise)
  | .choose t body otherwise =>
    .choose t body otherwise :: (substatementsOf body ++ substatementsOf otherwise)
  | .define n ps l body => .define n ps l body :: substatementsOf body
  | .callBlock ps c l body => .callBlock ps c l body :: substatementsOf body
  | .filterBlock f body => .filterBlock f body :: substatementsOf body
  | .capture t f l body => .capture t f l body :: substatementsOf body
  | .withBlock bs body => .withBlock bs body :: substatementsOf body
  | .autoescape v body => .autoescape v body :: substatementsOf body
  | .block n s r l body => .block n s r l body :: substatementsOf body
  | s => [s]

/-- The statements inside a list of statements. -/
def substatementsOf : List Stmt → List Stmt
  | [] => []
  | s :: ss => substatements s ++ substatementsOf ss

end

/-- The names read before any mention binds them. -/
def undeclared (names : List String) : List NameUse → List String
  | [] => []
  | .reads n :: rest =>
    if names.contains n then n :: undeclared (names.filter (· != n)) rest else undeclared names rest
  | .binds n :: rest | .assigns n _ :: rest => undeclared (names.filter (· != n)) rest

/-- Whether a list of statements reads a name that nothing before binds, named blocks aside. -/
def readsFree (body : List Stmt) (name : String) : Bool :=
  (undeclared [name] (usesOf false body)).contains name

end Stmt

end TypeWeave.Template
