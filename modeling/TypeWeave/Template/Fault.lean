/-!
# Faults of a rendering

What can go wrong while a template renders. A fault of the template language itself is told by its
message alone; every other one is told with the name of its kind in front.
-/

namespace TypeWeave.Template

/-- The kinds of faults. -/
inductive Fault.Kind where
  /-- The template reads something that is not there. -/
  | undefined
  /-- Another fault that the template language finds. -/
  | template
  /-- A template that is not there. -/
  | notFound
  /-- A fault of the template language that has no kind of its own. -/
  | language
  /-- A fault without any kind. -/
  | general
  | type
  | value
  | attribute
  | key
  /-- A key that is not there and cannot be printed, with the kind of what goes wrong when it is. -/
  | unprintable (cause : Kind)
  | index
  | name
  | zeroDivision
  | overflow
  | recursion
  | encoding
  | lookup
  | memory
  | assertion
  | runtime
  deriving DecidableEq, Repr

/-- A fault: its kind and the text that says what went wrong. -/
structure Fault where
  kind : Fault.Kind
  message : String
  deriving DecidableEq, Repr

namespace Fault

/-- The name of a kind. -/
def Kind.text : Kind → String
  | .undefined => "UndefinedError"
  | .template => "TemplateRuntimeError"
  | .notFound => "TemplateNotFound"
  | .language => "TemplateError"
  | .general => "Exception"
  | .type => "TypeError"
  | .value => "ValueError"
  | .attribute => "AttributeError"
  | .key | .unprintable _ => "KeyError"
  | .index => "IndexError"
  | .name => "NameError"
  | .zeroDivision => "ZeroDivisionError"
  | .overflow => "OverflowError"
  | .recursion => "RecursionError"
  | .encoding => "UnicodeEncodeError"
  | .lookup => "LookupError"
  | .memory => "MemoryError"
  | .assertion => "AssertionError"
  | .runtime => "RuntimeError"

/-- Whether a fault is one of the template language. -/
def isTemplate (f : Fault) : Bool :=
  f.kind == .undefined || f.kind == .template || f.kind == .notFound || f.kind == .language

/-- The kind of a name. -/
def Kind.ofText? (name : String) : Option Kind :=
  [Kind.undefined, .template, .notFound, .language, .general, .type, .value, .attribute, .key,
    .index, .name, .zeroDivision, .overflow, .recursion, .encoding, .lookup, .memory, .assertion,
    .runtime].find?
    (·.text == name)

/-- How a fault is told. -/
def describe (f : Fault) : String :=
  if f.isTemplate then (if f.message.isEmpty then f.kind.text else f.message)
  else f.kind.text ++ ": " ++ f.message

/-- What goes wrong when a fault is told. A key is printed only then, so its message is that of what
goes wrong. -/
def untold? (f : Fault) : Option Fault :=
  match f.kind with
  | .unprintable cause => some ⟨cause, f.message⟩
  | _ => none

/-- Whether a fault means that a subscript found nothing, so that other ways of access are tried. -/
def isMiss (f : Fault) : Bool :=
  match f.kind with
  | .attribute | .type | .key | .unprintable _ | .index | .lookup => true
  | _ => false

end Fault

end TypeWeave.Template
