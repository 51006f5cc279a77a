import TypeWeave.Command.Outcome
import TypeWeave.Failure
import TypeWeave.Go.Grammar.File
import TypeWeave.Text.Lines
import TypeWeave.Text.Utf8

/-!
# Formatters

A formatter takes the text of a generated file and gives the text that is written, or refuses it.
One checks the syntax only; the other hands the text to a command. How commands run is a parameter.
-/

namespace TypeWeave

open Command (Outcome Runner)

/-- A way to format generated files. -/
inductive Formatter where
  | syntaxCheck
  /-- The words of a command that reads the text and writes the formatted text. -/
  | command (words : List String)
  deriving DecidableEq, Repr

namespace Formatter

/-- The name of the formatter that runs a command. -/
def commandName : String := "gofmt"

/-- The name of the formatter that checks the syntax. -/
def checkName : String := "check"

/-- The command that is run unless another one is chosen. -/
def defaultCommand : List String := ["gofmt"]

/-- The formatter of a name. -/
def ofName (name : String) (words : List String) : Except Failure Formatter :=
  if name == commandName then
    if words.isEmpty then .error (.configuration "formatter command must not be empty")
    else .ok (.command words)
  else if name == checkName then .ok .syntaxCheck
  else .error (.configuration ("unknown formatter: " ++ Text.quoted name))

/-- The text with a newline at its end. -/
def withFinalNewline (source : String) : String :=
  if source.endsWith "\n" then source else source ++ "\n"

/-- Check the syntax of a text. -/
def check (source : String) : Except Failure String :=
  let root := Go.Grammar.parse source.toList
  if root.hasError then
    let (line, column) := root.flawPosition
    .error (.format source
      ("<generated>:" ++ toString line ++ ":" ++ toString column ++ ": " ++ Failure.syntaxDetail))
  else .ok (withFinalNewline source)

/-- The text that a command wrote; each kind of line end becomes a newline. -/
def written (bytes : List UInt8) : Except Failure (List Char) :=
  match Text.Utf8.decode bytes with
  | .ok cs => .ok (Text.normalizeNewlines cs)
  | .error place => .error (.undecodable place)

/-- What a command that ended made of a text. -/
def accept (source name : String) (o : Outcome) : Except Failure String := do
  let output ← written o.output
  let diagnostics := Text.strip (String.ofList (← written o.diagnostics))
  if o.status = 0 then return String.ofList output
  else if diagnostics.isEmpty then
    throw (.format source (name ++ " exited with " ++ toString o.status))
  else throw (.format source diagnostics)

/-- Hand a text to a command. -/
def pipe (run : Runner) (words : List String) (source : String) : Except Failure String :=
  let name := words.headD ""
  if words.any (·.toList.contains '\x00') then .error .embeddedNul
  else
    match run words (Text.Utf8.encode source.toList) with
    | .ok o => accept source name o
    | .error .notFound => .error (.format source ("formatter not found: " ++ name))
    | .error r => .error (.file { refusal := r, path := name })

/-- Format a text. -/
def format (run : Runner) : Formatter → String → Except Failure String
  | .syntaxCheck, source => check source
  | .command words, source => pipe run words source

end Formatter

end TypeWeave
