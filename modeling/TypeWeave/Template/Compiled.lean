import TypeWeave.Template.Lexer
import TypeWeave.Template.Run
import TypeWeave.Text.Lines

/-!
# Compiled templates

A template is compiled from its source once and rendered for many declarations. Compiling finds
every syntax fault; rendering gives the text and the imports that the template asked for.
-/

namespace TypeWeave.Template

/-- The rules of evaluation, with `fuel` bounding how deep they call each other. -/
def evaluator : Nat → Evaluator
  | 0 =>
    let exhausted {α : Type} : Eval α := Eval.fault .recursion "maximum recursion depth exceeded"
    { expr := fun _ _ => exhausted
      run := fun _ _ => exhausted
      filter := fun _ _ _ _ _ => exhausted
      test := fun _ _ _ _ _ => exhausted }
  | fuel + 1 =>
    { expr := fun env e => Evaluate.step (evaluator fuel) env e
      run := fun env body => Run.all (evaluator fuel) env "" body
      filter := fun env name v given named =>
        Filter.applyNamed (evaluator fuel) env name v ⟨given, named⟩
      test := fun _ name v given named => Test.apply Filter.exists? name v ⟨given, named⟩ }

/-- A template: its statements and the length of its source. -/
structure Compiled where
  body : List Stmt
  size : Nat

/-- The names of filters and tests that templates may use. -/
def known : Check.Known := ⟨Filter.exists?, Test.exists?⟩

/-- Compile a template. -/
def compile (source : String) : Except SyntaxFault Compiled := do
  let cs := source.toList
  let body ← parseTokens (Lexer.tokens cs)
  match Check.fault known body with
  | some f => .error f
  | none => .ok ⟨body, cs.length⟩

/-- The routines that every template can call. -/
def routines : List (String × Routine) :=
  [("range", .range), ("dict", .dict), ("lipsum", .lipsum), ("cycler", .cycler),
    ("joiner", .joiner), ("namespace", .namespace')]

/-- What a rendering gives: the text and the values that the template asked to import. -/
structure Rendering where
  text : String
  imports : List Value

namespace Compiled

/-- The levels of evaluation that no rendering exceeds: calls nest only so deep, and between two
calls the depth of evaluation is bounded by the size of the source. -/
def fuel (t : Compiled) : Nat := (Invoke.maxDepth + 2) * (t.size + 10)

/-- Run a template with some names given. -/
def run (t : Compiled) (given : List (String × Value)) : Eval String := do
  let globals := routines.map fun (n, r) => (n, Value.routine r)
  let scope ← Eval.alloc (.scope ⟨[], given ++ globals⟩)
  let bare ← Eval.alloc (.frame ⟨[], none⟩)
  let blocks := (Check.blocksOf t.body).map fun b => (b.name, b.body)
  let special : List (String × Option Value) :=
    if Stmt.readsFree t.body "self" then [("self", some .blocks)] else []
  let outside : Env :=
    { frame := bare, scope := scope, topLevel := true, autoescape := false, blocks := blocks, depth := 0 }
  let env ← Eval.enterFrame outside
    (fun outer => NameTable.ofFrame outer (special.map (·.1)) [] t.body) special
  (evaluator t.fuel).run { env with topLevel := true } t.body

/-- A store for a declaration. -/
def storeFor (d : Go.Declaration) (templateName : String) : Store :=
  ⟨#[.list []], d, templateName⟩

/-- Render a template for a declaration. -/
def render (t : Compiled) (d : Go.Declaration) (templateName : String) : Except Fault Rendering := do
  let work : Eval Rendering := do
    let text ← t.run (← Methods.contextNames)
    return ⟨text, ← Eval.listItems importsRef⟩
  return (← work.run (storeFor d templateName)).1

end Compiled

end TypeWeave.Template
