import TypeWeave.Template.Expression
import TypeWeave.Template.Parser

/-!
# Checking a parsed template

What is refused before a template ever runs: a block defined twice, a filter or test that does not
exist, a loop that assigns its own loop variable, a macro that asks for `caller` without a default,
and `extends` inside another statement. Filters and tests inside a condition are looked up only
when they run.
-/

namespace TypeWeave.Template.Check

/-- The filters and tests that exist. -/
structure Known where
  filter : String → Bool
  test : String → Bool

/-- The fault of one expression, its parts aside. -/
def faultAt (known : Known) : Expr → Option SyntaxFault
  | .filter _ name _ line =>
    if known.filter name then none else some ⟨"No filter named " ++ Text.quoted name ++ ".", line⟩
  | .test _ name _ line =>
    if known.test name then none else some ⟨"No test named " ++ Text.quoted name ++ ".", line⟩
  | _ => none

/-- The first fault in an expression. `lenient` says that it stands inside a condition. -/
def faultIn (known : Known) (lenient : Bool) (e : Expr) : Option SyntaxFault :=
  if lenient then none else (e.subterms false).findSome? (faultAt known)

/-- The first fault in an optional expression. -/
def faultInOption (known : Known) (lenient : Bool) (e : Option Expr) : Option SyntaxFault :=
  e.bind (faultIn known lenient)

/-- The fault of the parameters of a macro. -/
def faultInParameters (known : Known) (parameters : Parameters) (line : Nat) (body : List Stmt) :
    Option SyntaxFault :=
  let bare := parameters.any fun p => p.1 == "caller" && p.2.isNone
  if bare && Stmt.readsFree body "caller" then
    some ⟨"When defining macros or call blocks the special \"caller\" argument must be omitted " ++
      "or be given a default.", line⟩
  else parameters.findSome? fun p => faultInOption known false p.2

/-- The fault of a loop that assigns the loop variable. -/
def loopFault (s : Stmt) : Option SyntaxFault :=
  (s.uses true).findSome? fun
    | .assigns "loop" line => some ⟨"Can't assign to special loop variable in for-loop target", line⟩
    | _ => none

mutual

/-- The first fault in a statement. `lenient` says that it stands inside a condition and `top` that
it stands at the top level of the template. -/
def faultInStmt (known : Known) (lenient top : Bool) : Stmt → Option SyntaxFault
  | .output parts => parts.findSome? (faultIn known lenient)
  | .loop h body otherwise =>
    (faultInOption known false h.test).orElse fun _ =>
      (loopFault (.loop h body otherwise)).orElse fun _ =>
        (faultIn known lenient h.source).orElse fun _ =>
          (faultInAll known false false body).orElse fun _ => faultInAll known false false otherwise
  | .choose _ body otherwise =>
    (faultInAll known true top body).orElse fun _ => faultInAll known true top otherwise
  | .define _ ps line body =>
    (faultInParameters known ps line body).orElse fun _ => faultInAll known false false body
  | .callBlock ps call line body =>
    (faultInParameters known ps line body).orElse fun _ =>
      (faultInAll known false false body).orElse fun _ => faultIn known lenient call
  | .filterBlock filter body =>
    (faultInAll known false false body).orElse fun _ => faultIn known false filter
  | .assign _ value _ => faultIn known lenient value
  | .capture _ filter _ body =>
    (faultInAll known false false body).orElse fun _ => faultInOption known false filter
  | .withBlock bindings body =>
    (bindings.findSome? fun b => faultIn known lenient b.2).orElse fun _ =>
      faultInAll known false false body
  | .autoescape value body =>
    (faultIn known false value).orElse fun _ => faultInAll known false false body
  | .block _ _ _ _ _ => none
  | .extend e line =>
    if top then faultIn known lenient e
    else some ⟨"cannot use extend from a non top-level scope", line⟩
  | .embed e _ => faultIn known lenient e
  | .importAs e _ => faultIn known lenient e
  | .importFrom e _ => faultIn known lenient e

/-- The first fault in statements. -/
def faultInAll (known : Known) (lenient top : Bool) : List Stmt → Option SyntaxFault
  | [] => none
  | s :: ss => (faultInStmt known lenient top s).orElse fun _ => faultInAll known lenient top ss

end

/-- A named block of a template. -/
structure BlockDef where
  name : String
  line : Nat
  body : List Stmt

/-- The named blocks of a template, outer ones first. -/
def blocksOf (body : List Stmt) : List BlockDef :=
  (Stmt.substatementsOf body).filterMap fun
    | .block name _ _ line body => some ⟨name, line, body⟩
    | _ => none

/-- The fault of a block whose name another block has. -/
def duplicateFault : List String → List BlockDef → Option SyntaxFault
  | _, [] => none
  | seen, b :: bs =>
    if seen.contains b.name then some ⟨"block " ++ Text.quoted b.name ++ " defined twice", b.line⟩
    else duplicateFault (b.name :: seen) bs

/-- The first fault in a template. -/
def fault (known : Known) (body : List Stmt) : Option SyntaxFault :=
  let blocks := blocksOf body
  (duplicateFault [] blocks).orElse fun _ =>
    (faultInAll known false true body).orElse fun _ =>
      blocks.findSome? fun b => faultInAll known false false b.body

end TypeWeave.Template.Check
