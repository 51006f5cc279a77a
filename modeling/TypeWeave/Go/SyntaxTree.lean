/-!
# Syntax trees

The tree of a parsed source file. A node has a kind, the text that it spans, the place where it
starts, and its children, some of which have a role in it. Nodes for text that does not follow the
grammar, and for tokens that had to be supplied, are marked, and so are the nodes around them.
-/

namespace TypeWeave.Go

/-- A node of a syntax tree. Rows and columns count from zero. -/
structure Node where
  kind : String
  text : String := ""
  row : Int := 0
  column : Int := 0
  isError : Bool := false
  isMissing : Bool := false
  hasError : Bool := false
  isNamed : Bool := true
  field : Option String := none
  children : List Node := []
  deriving Inhabited

namespace Node

/-- The children that are more than punctuation. -/
def named (n : Node) : List Node := n.children.filter (·.isNamed)

/-- The children in a role. -/
def inRole (n : Node) (role : String) : List Node := n.children.filter (·.field == some role)

/-- The first child in a role. -/
def role? (n : Node) (role : String) : Option Node := (n.inRole role).head?

/-- The node in a role. -/
def as (n : Node) (role : String) : Node := { n with field := some role }

/-- Line and column of a node, counted from one. -/
def position (n : Node) : Int × Int := (n.row + 1, n.column + 1)

/-- Whether a node is or holds something that does not follow the grammar. -/
def isFlawed (n : Node) : Bool := n.isError || n.isMissing || n.hasError

mutual

/-- The innermost flaw in a flawed node: the way goes down along the first flawed child. -/
def flawIn : Node → Node
  | ⟨kind, text, row, column, isError, isMissing, hasError, isNamed, field, children⟩ =>
    let n : Node :=
      ⟨kind, text, row, column, isError, isMissing, hasError, isNamed, field, children⟩
    if isError || isMissing then n else (flawAmong children).getD n

/-- The innermost flaw in the first flawed node of a list. -/
def flawAmong : List Node → Option Node
  | [] => none
  | n :: ns => if n.isFlawed then some (flawIn n) else flawAmong ns

end

/-- The first flaw below a root. A root that is only said to hold one has none. -/
def firstFlaw (root : Node) : Option Node :=
  if root.isError || root.isMissing then some root else flawAmong root.children

/-- Line and column of the first flaw, or of the start of the file. -/
def flawPosition (root : Node) : Int × Int := ((firstFlaw root).map position).getD (1, 1)

end Node

end TypeWeave.Go
