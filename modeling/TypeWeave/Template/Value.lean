import TypeWeave.Go.Declaration
import TypeWeave.Template.Expression
import TypeWeave.Template.Fault

/-!
# Values of a rendering

What expressions evaluate to. Lists, dictionaries and the other things that change while a template
renders live in a store and values refer to them, so that two names can share one list. The
declaration that a template renders for is part of the store.
-/

namespace TypeWeave.Template

/-- The largest number of items. -/
def maxCount : Int := 9223372036854775807

/-- The largest number of a few items, such as the columns of a tab. -/
def maxSmallCount : Int := 2147483647

/-- The most items that there is room for. -/
def maxRoom : Int := 68719476736

/-- A place in the store. -/
abbrev Ref := Nat

/-- What a view of a dictionary shows. -/
inductive ViewKind where
  | keys
  | values
  | items
  deriving DecidableEq, Repr

/-- The functions that every template can call. -/
inductive Routine where
  | range
  | dict
  | lipsum
  | cycler
  | joiner
  | namespace'
  deriving DecidableEq, Repr

/-- Values. -/
inductive Value where
  | none
  | bool (b : Bool)
  | int (i : Int)
  | float (x : Float)
  /-- A text; a safe one is markup that needs no escaping. -/
  | text (s : String) (safe : Bool)
  | bytes (bs : List UInt8)
  | tuple (items : List Value)
  /-- A key with the list of the items that share it. -/
  | group (key : Value) (ref : Ref)
  | list (ref : Ref)
  | dict (ref : Ref)
  | view (kind : ViewKind) (items : List Value)
  | range (start stop step : Int)
  | slice (start stop step : Value)
  /-- The absence of a value, with the message of any use of it. A lenient one may be printed,
  looped over and tested. -/
  | undefined (message : String) (lenient : Bool)
  | member (m : Go.Member)
  | declaration (d : Go.Declaration)
  /-- The view of the declaration that a template renders for. -/
  | context
  | path (p : File.Path)
  | method (receiver : Value) (name : String)
  | routine (r : Routine)
  | closure (ref : Ref)
  | cursor (ref : Ref)
  | space (ref : Ref)
  | cycler (ref : Ref)
  | joiner (ref : Ref)
  | loop (ref : Ref)
  /-- The named blocks of the template. -/
  | blocks
  | block (name : String)

/-- A plain text. -/
def Value.ofString (s : String) : Value := .text s false

/-- The surroundings of an evaluation: its frame of local names, the scope of global ones, whether
assignments are global, whether output is escaped, the named blocks and the depth of calls. -/
structure Env where
  frame : Ref
  scope : Ref
  topLevel : Bool
  autoescape : Bool
  blocks : List (String × List Stmt)
  depth : Nat

/-- Local names; a name may be declared and still have no value. -/
structure Frame where
  vars : List (String × Option Value)
  parent : Option Ref

/-- Global names: those that the template sets and those that it is given. -/
structure Scope where
  vars : List (String × Value)
  given : List (String × Value)

/-- A macro together with the surroundings of its definition. -/
structure Closure where
  name : Option String
  parameters : Parameters
  body : List Stmt
  env : Env
  takesCaller : Bool
  takesNamed : Bool
  takesExtra : Bool

/-- The condition under which a loop takes an item. -/
structure Screen where
  target : Target
  test : Expr
  env : Env

/-- What a recursive loop needs to start again on other items. -/
structure Recursion where
  head : LoopHead
  body : List Stmt
  otherwise : List Stmt
  env : Env

/-- A loop on its way: the items to come, and the fault that follows them, the condition on items,
the position, the neighbours of the current item, the arguments last compared, the number of items
if it is known, and the depth of recursion. -/
structure LoopState where
  pending : List Value
  failure : Option Fault
  screen : Option Screen
  index : Int := -1
  before : Option Value := none
  current : Option Value := none
  ahead : Option Value := none
  changed : Option (List Value) := none
  length : Option Nat := none
  depth : Nat := 0
  recursion : Option Recursion := none

/-- The number of items of a loop as far as it is known. -/
def LoopState.knownLength (l : LoopState) : Nat :=
  l.length.getD ((l.index + 1).toNat + l.pending.length + (if l.ahead.isSome then 1 else 0))

/-- What the store holds. -/
inductive Cell where
  | list (items : List Value)
  | dict (entries : List (Value × Value))
  | space (entries : List (String × Value))
  /-- Items that are read once, and the fault that follows them. -/
  | cursor (items : List Value) (failure : Option Fault) (typeName : String)
  | cycler (items : List Value) (position : Nat)
  | joiner (separator : Value) (used : Bool)
  | frame (f : Frame)
  | scope (s : Scope)
  | closure (c : Closure)
  | loop (l : LoopState)

/-- The store of a rendering, with the declaration and the name of the template it is for. -/
structure Store where
  cells : Array Cell
  declaration : Go.Declaration
  templateName : String

/-- Evaluation: it reads and writes the store and may end in a fault. -/
abbrev Eval := StateT Store (Except Fault)

namespace Eval

/-- End in a fault. -/
def fault (kind : Fault.Kind) (message : String) : Eval α := throw ⟨kind, message⟩

/-- A value of the wrong type. -/
def typeFault (message : String) : Eval α := fault .type message

/-- A new place in the store. -/
def alloc (c : Cell) : Eval Ref := do
  let s ← get
  set { s with cells := s.cells.push c }
  return s.cells.size

/-- The content of a place. -/
def fetch (r : Ref) : Eval Cell := do
  match (← get).cells[r]? with
  | some c => return c
  | none => fault .assertion "dangling reference"

/-- Replace the content of a place. -/
def assign (r : Ref) (c : Cell) : Eval Unit :=
  modify fun s => { s with cells := s.cells.setIfInBounds r c }

/-- A new list. -/
def newList (items : List Value) : Eval Value := return .list (← alloc (.list items))

/-- A new dictionary. -/
def newDict (entries : List (Value × Value)) : Eval Value := return .dict (← alloc (.dict entries))

/-- New items that are read once. -/
def newCursor (items : List Value) (failure : Option Fault := none)
    (typeName : String := "generator") : Eval Value :=
  return .cursor (← alloc (.cursor items failure typeName))

/-- The items of a list in the store. -/
def listItems (r : Ref) : Eval (List Value) := do
  match ← fetch r with
  | .list items => return items
  | _ => return []

/-- The entries of a dictionary in the store. -/
def dictEntries (r : Ref) : Eval (List (Value × Value)) := do
  match ← fetch r with
  | .dict entries => return entries
  | _ => return []

/-- Run steps up to a fault: the results before it and the fault. -/
def collectUntil (step : α → Eval β) : List α → Eval (List β × Option Fault)
  | [] => return ([], none)
  | a :: as => do
    let s ← get
    match (step a).run s with
    | .error f => return ([], some f)
    | .ok (b, s) =>
      set s
      let (bs, f) ← collectUntil step as
      return (b :: bs, f)

end Eval

/-- The list in which a rendering collects the imports that its template asks for. -/
def importsRef : Ref := 0

namespace Value

/-- The name of a value's type. -/
def typeName : Value → String
  | .none => "NoneType"
  | .bool _ => "bool"
  | .int _ => "int"
  | .float _ => "float"
  | .text _ false => "str"
  | .text _ true => "Markup"
  | .bytes _ => "bytes"
  | .tuple _ => "tuple"
  | .group _ _ => "_GroupTuple"
  | .list _ => "list"
  | .dict _ => "dict"
  | .view .keys _ => "dict_keys"
  | .view .values _ => "dict_values"
  | .view .items _ => "dict_items"
  | .range .. => "range"
  | .slice .. => "slice"
  | .undefined _ false => "StrictUndefined"
  | .undefined _ true => "Undefined"
  | .member _ => "Member"
  | .declaration _ => "Declaration"
  | .context => "TemplateContext"
  | .path _ => "PosixPath"
  | .method (.member _) _ | .method .context _ | .method (.loop _) _ | .method (.path _) _
  | .method (.cycler _) _ | .method (.text _ true) _ => "method"
  | .method .. => "builtin_function_or_method"
  | .routine .lipsum => "function"
  | .routine _ => "type"
  | .closure _ => "Macro"
  | .cursor _ => "generator"
  | .space _ => "Namespace"
  | .cycler _ => "Cycler"
  | .joiner _ => "Joiner"
  | .loop _ => "LoopContext"
  | .blocks => "TemplateReference"
  | .block _ => "BlockReference"

/-- How a message about a missing attribute names the object that lacks it. -/
def objectName (v : Value) : String :=
  match v with
  | .none => "None"
  | .text _ true => "markupsafe.Markup object"
  | .member _ | .declaration _ => "embedgen.data." ++ v.typeName ++ " object"
  | .context => "embedgen.templates.context.TemplateContext object"
  | .path _ => "pathlib.PosixPath object"
  | .undefined .. | .closure _ | .loop _ | .blocks | .block _ =>
    "jinja2.runtime." ++ v.typeName ++ " object"
  | .group _ _ => "jinja2.filters._GroupTuple object"
  | .space _ | .cycler _ | .joiner _ => "jinja2.utils." ++ v.typeName ++ " object"
  | _ => v.typeName ++ " object"

/-- Whether a value is a text. -/
def isText : Value → Bool
  | .text .. => true
  | _ => false

/-- The integer that a value is, a truth value being 0 or 1. -/
def int? : Value → Option Int
  | .int i => some i
  | .bool b => some (if b then 1 else 0)
  | _ => Option.none

end Value

end TypeWeave.Template
