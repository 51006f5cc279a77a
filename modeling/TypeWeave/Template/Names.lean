import TypeWeave.Template.Expression

/-!
# Local names

Which names a frame of a template keeps for itself, and what each of them holds when the frame is
entered. A frame keeps the names that it binds, and those that it reads and that no frame around it
keeps. A name bound in one branch of a choice may come from outside when the other branch is taken.
-/

namespace TypeWeave.Template

/-- What a name holds when its frame is entered. -/
inductive Origin where
  /-- A value that the frame is entered with. -/
  | given
  /-- The value in the frame around. -/
  | outer
  /-- The global of that name. -/
  | global
  /-- No value yet. -/
  | unset
  deriving DecidableEq, Repr

/-- The names that a frame keeps and those among them that it binds. -/
structure NameTable where
  entries : List (String × Origin) := []
  bound : List String := []

namespace NameTable

/-- Whether a frame keeps a name. -/
def keeps (t : NameTable) (n : String) : Bool := (t.entries.lookup n).isSome

/-- Keep a name. -/
def put (t : NameTable) (n : String) (o : Origin) : NameTable :=
  { t with entries :=
      if t.keeps n then t.entries.map fun e => if e.1 == n then (n, o) else e
      else t.entries ++ [(n, o)] }

/-- A name is read. -/
def read (outer : String → Bool) (t : NameTable) (n : String) : NameTable :=
  if t.keeps n || outer n then t else t.put n .global

/-- A name is bound. -/
def bind (outer : String → Bool) (t : NameTable) (n : String) : NameTable :=
  let t := { t with bound := n :: t.bound }
  if t.keeps n then t else t.put n (if outer n then .outer else .unset)

/-- A name is given a value on entry. -/
def give (t : NameTable) (n : String) : NameTable :=
  { t with bound := n :: t.bound }.put n .given

/-- The names of an expression are read. -/
def readAll (outer : String → Bool) (t : NameTable) (e : Expr) : NameTable :=
  e.names.foldl (read outer) t

/-- A target is bound; the namespaces that it writes to are read. -/
def bindTarget (outer : String → Bool) (t : NameTable) (target : Target) : NameTable :=
  target.leaves.foldl (fun t leaf =>
    match leaf with
    | .name n => t.bind outer n
    | .field o _ => t.read outer o
    | .tuple _ => t) t

/-- The names after a choice between two branches that start from the same names. -/
def join (outer : String → Bool) (start a b : NameTable) : NameTable :=
  let merged := b.entries.foldl (fun (t : NameTable) e => t.put e.1 e.2) a
  let fresh := (a.bound ++ b.bound).filter fun n => !start.bound.contains n
  fresh.foldl (fun t n => t.put n (if outer n then .outer else .global))
    { merged with bound := a.bound ++ b.bound }

mutual

/-- The names after a statement. Inner frames are not entered. -/
def visit (outer : String → Bool) (t : NameTable) : Stmt → NameTable
  | .output parts => parts.foldl (readAll outer) t
  | .loop h _ _ => t.readAll outer h.source
  | .choose test body otherwise =>
    let start := t.readAll outer test
    join outer start (visitAll outer start body) (visitAll outer start otherwise)
  | .define name _ _ _ => t.bind outer name
  | .callBlock _ call _ _ => t.readAll outer call
  | .filterBlock filter _ => t.readAll outer filter
  | .assign target value _ => (t.readAll outer value).bindTarget outer target
  | .capture target _ _ _ => t.bindTarget outer target
  | .withBlock bindings _ => bindings.foldl (fun t b => t.readAll outer b.2) t
  | .autoescape _ _ => t
  | .block _ _ _ _ _ => t
  | .extend e _ => t.readAll outer e
  | .embed e _ => t.readAll outer e
  | .importAs e name => (t.readAll outer e).bind outer name
  | .importFrom e names => names.foldl (bind outer) (t.readAll outer e)

/-- The names after statements. -/
def visitAll (outer : String → Bool) (t : NameTable) : List Stmt → NameTable
  | [] => t
  | s :: ss => visitAll outer (visit outer t s) ss

end

/-- The names of a frame that is given some values, reads some expressions and runs statements. -/
def ofFrame (outer : String → Bool) (given : List String) (reads : List Expr) (body : List Stmt) :
    NameTable :=
  let t := given.foldl give {}
  visitAll outer (reads.foldl (readAll outer) t) body

/-- The names of a macro, whose body may mention its special parameters. -/
def ofMacro (outer : String → Bool) (parameters : Parameters) (special : List String)
    (body : List Stmt) : NameTable :=
  let t := ofFrame outer (parameters.map (·.1)) (parameters.filterMap (·.2)) body
  special.foldl give t

end NameTable

end TypeWeave.Template
