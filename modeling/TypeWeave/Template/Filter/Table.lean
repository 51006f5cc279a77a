import TypeWeave.Template.Filter.Numbers
import TypeWeave.Template.Filter.Sequences
import TypeWeave.Template.Filter.Texts

/-!
# All filters

The filters by name, and the application of one to a value.
-/

namespace TypeWeave.Template.Filter

open Eval

/-- The filters by name. -/
def table : List (String × Filter) :=
  names ++ texts ++ numbers ++ sequences ++ [("format", format)]

/-- Whether a filter exists. -/
def exists? (name : String) : Bool := (table.lookup name).isSome

/-- Apply a filter. -/
def applyNamed (ev : Evaluator) (env : Env) (name : String) (v : Value) (g : Given) : Eval Value := do
  match table.lookup name with
  | some f =>
    let (args, extra) ← f.signature.bind g
    f.apply ⟨ev, env, extra⟩ v args
  | none => fault .template ("No filter named " ++ Text.quoted name ++ ".")

end TypeWeave.Template.Filter
