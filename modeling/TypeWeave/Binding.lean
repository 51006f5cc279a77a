import TypeWeave.Imports
import TypeWeave.Template.Catalog

/-!
# Bindings

A declaration that embeds a type whose name is that of a template beside it is bound to the
template. Rendering a binding gives a fragment of the generated file and adds the imports that the
template asked for; a binding that fails adds none.
-/

namespace TypeWeave

open Template (Catalog)

/-- A declaration with a template that is rendered for it. -/
structure Binding where
  declaration : Go.Declaration
  template : Template.Loaded

namespace Binding

/-- The bindings of a declaration, one for each of its embedded names. -/
def ofDeclaration (ws : File.Workspace) (d : Go.Declaration) : Catalog.Work (List Binding) := do
  let found ← d.embedded.eraseDups.mapM fun name => do
    return (← Catalog.lookup ws d.directory name).map fun t => Binding.mk d t
  return found.filterMap id

/-- The bindings of declarations in order. -/
def ofDeclarations (ws : File.Workspace) (ds : List Go.Declaration) :
    Catalog.Work (List Binding) := do
  return (← ds.mapM (ofDeclaration ws)).flatten

/-- What some work that renders a template comes to: the text and the imports that it asks for. -/
def perform (work : Template.Eval String) (store : Template.Store) :
    Except Template.Fault (String × Imports) := do
  let whole : Template.Eval (String × Imports) := do
    let text ← work
    let requests ← Template.Eval.listItems Template.importsRef
    let (imports, refused) ← Imports.empty.registerAll requests
    match refused with
    | some f => throw f
    | none => return (text, imports)
  return (← whole.run store).1

/-- The store in which a binding is rendered. -/
def store (b : Binding) : Template.Store :=
  Template.Compiled.storeFor b.declaration b.template.name

/-- How a binding fails by a fault of its rendering. A fault that cannot be told is not told as one
of the binding. -/
def failure (b : Binding) (f : Template.Fault) : Failure :=
  match f.untold? with
  | some g => .escaped g
  | none => .rendering b.declaration.name b.template.name f.describe

/-- Render a binding by some work: its fragment, and the imports of the file with those that it asks
for. These are put together before any of them is added to the imports of the file. -/
def renderBy (b : Binding) (work : Template.Eval String) (imports : Imports) :
    Except Failure String × Imports :=
  match perform work b.store with
  | .error f => (.error (b.failure f), imports)
  | .ok (text, pending) =>
    match (imports.registerAll (pending.paths.map fun path => .text path false)).run b.store with
    | .ok ((imports, none), _) => (.ok text, imports)
    | .ok ((imports, some f), _) => (.error (.escaped f), imports)
    | .error f => (.error (.escaped f), imports)

/-- The work of rendering the template of a binding. -/
def work (b : Binding) : Template.Eval String := do
  b.template.compiled.run (← Template.Methods.contextNames)

/-- Render a binding. -/
def render (b : Binding) (imports : Imports) : Except Failure String × Imports :=
  b.renderBy b.work imports

/-- Render bindings in order. -/
def renderAll (imports : Imports) : List Binding → Except Failure (List String × Imports)
  | [] => .ok ([], imports)
  | b :: bs =>
    match b.render imports with
    | (.error f, _) => .error f
    | (.ok text, imports) => do
      let (texts, imports) ← renderAll imports bs
      return (text :: texts, imports)

end Binding

end TypeWeave
