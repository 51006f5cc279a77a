import TypeWeave.Go.Lexeme
import TypeWeave.Go.SyntaxTree

/-!
# Reading by rules

The rules of the grammar read tokens and give nodes. A rule that does not fit fails and gives back
what it took, so that another one can be tried. The rules call each other through a record, which is
tied by a count that no source exhausts.

A line end ends a construct only where the construct may end: `Mode` says whether that is so for the
construct at hand.
-/

namespace TypeWeave.Go.Grammar

/-- The tokens to come and the end of the last one that was read. -/
structure Progress where
  rest : List Lexeme
  last : Place

/-- Reading by rules. -/
abbrev Read := StateT Progress Option

/-- What surrounds a type or an expression. -/
structure Mode where
  /-- Whether a line end may end it. -/
  lineEnds : Bool := false
  /-- Whether a name may be followed by the braces of a literal. -/
  literals : Bool := true
  /-- Whether the type of a value may be asked for, as the head of a type switch does. -/
  guards : Bool := false

/-- The surroundings between brackets. -/
def Mode.inner : Mode := {}

/-- The surroundings in a statement or a declaration. -/
def Mode.line : Mode := { lineEnds := true }

/-- The rules that others call, and the source that the texts of nodes are cut from. -/
structure Rules where
  source : Array Char
  type : Mode → Read Node
  expression : Mode → Read Unit
  statement : Read Unit
  block : Read Unit

/-- The end of a source that has no tokens at all. -/
def noToken : Lexeme := ⟨.ending, "", {}, {}, false, false, fun h => Lexeme.Kind.noConfusion h⟩

/-- The token to come. -/
def peek : Read Lexeme := do return (← get).rest.headD noToken

/-- The token after the one to come. -/
def peekSecond : Read Lexeme := do return (← get).rest.tail.headD noToken

/-- Read any token but the end. -/
def take : Read Lexeme := do
  match (← get).rest with
  | t :: rest =>
    if t.isEnding then failure
    set (Progress.mk rest t.stop)
    return t
  | [] => failure

/-- Read a token of some sort. -/
def takeIf (p : Lexeme → Bool) : Read Lexeme := do if p (← peek) then take else failure

/-- Read a symbol. -/
def symbol (s : String) : Read Unit := do let _ ← takeIf (·.isSymbol s)

/-- Read a keyword. -/
def keyword (s : String) : Read Unit := do let _ ← takeIf (·.isKeyword s)

/-- Read a name. -/
def name : Read Lexeme := takeIf (·.kind == .word)

/-- Go on with a construct, which is not possible behind a line end that ends it. -/
def goOn (m : Mode) : Read Unit := do if m.lineEnds && (← peek).afterLine then failure

/-- Read something if it is there. -/
def maybe (p : Read α) : Read (Option α) := fun s =>
  match p.run s with
  | some (a, s) => some (some a, s)
  | none => some (none, s)

/-- Read something if it is there and the construct goes on. -/
def maybeOn (m : Mode) (p : Read α) : Read (Option α) := maybe (goOn m *> p)

/-- A bound on the tokens to come. -/
def remaining : Read Nat := do return (← get).rest.length + 1

/-- Read something as often as it is there. -/
def manyWith (fuel : Nat) (p : Read α) : Read (List α) :=
  match fuel with
  | 0 => return []
  | fuel + 1 => do
    match ← maybe p with
    | some a => return a :: (← manyWith fuel p)
    | none => return []

/-- Read something as often as it is there. -/
def many (p : Read α) : Read (List α) := do manyWith (← remaining) p

/-- Read one or more things with commas between them. -/
def commas (m : Mode) (p : Read α) : Read (List α) := do
  let a ← p
  return a :: (← many (goOn m *> symbol "," *> p))

/-- Read things with commas between them up to a closing symbol; a comma may stand before it. -/
def listUntil (close : String) (p : Read α) : Read (List α) := do
  let as ← (commas .inner p) <|> pure []
  let _ ← maybe (symbol ",")
  symbol close
  return as

/-- The end of a statement or declaration: a line end, a semicolon or a NUL. -/
def terminator : Read Unit := do
  let t ← peek
  if t.afterLine then return ()
  let _ ← takeIf fun t => t.isSymbol ";" || t.isSymbol "\x00"

/-- Read things that are terminated up to a closing token, which is left; the last one need not be
terminated. -/
def terminatedWith (fuel : Nat) (isClose : Lexeme → Bool) (p : Read α) : Read (List α) :=
  match fuel with
  | 0 => failure
  | fuel + 1 => do
    if isClose (← peek) then return []
    let a ← p
    if isClose (← peek) then return [a]
    terminator
    return a :: (← terminatedWith fuel isClose p)

/-- Read things that are terminated up to a closing symbol. -/
def terminatedUntil (close : String) (p : Read α) : Read (List α) := do
  let as ← terminatedWith (← remaining) (·.isSymbol close) p
  symbol close
  return as

/-- The text between two offsets. -/
def Rules.slice (r : Rules) (start stop : Nat) : String :=
  String.ofList (r.source.extract start stop).toList

/-- Read the children of a node and make the node that spans them. -/
def Rules.node (r : Rules) (kind : String) (body : Read (List Node)) : Read Node := do
  let first ← peek
  let children ← body
  let stop := (← get).last
  return {
    kind := kind
    text := r.slice first.start.offset stop.offset
    row := first.start.row
    column := first.start.column
    children := children }

/-- A node of a single token. -/
def leaf (kind : String) (t : Lexeme) : Node :=
  { kind := kind, text := t.text, row := t.start.row, column := t.start.column }

/-- A node for the comments before a token. -/
def comments (t : Lexeme) : List Node := if t.afterComment then [{ kind := "comment" }] else []

/-- A node for punctuation. -/
def mark (t : Lexeme) : Node := { leaf t.text t with isNamed := false }

end TypeWeave.Go.Grammar
