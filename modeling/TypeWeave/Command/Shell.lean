import TypeWeave.Command.Outcome
import TypeWeave.Command.Script
import TypeWeave.Command.Tool

/-!
# Running command scripts

The meaning of scripts over the text filters, and the runner that formatter commands use. A script
sees its input once: what one command has read is gone for the next one.
-/

namespace TypeWeave.Command

namespace Shell

/-- What a script has done so far. A script that stopped does nothing more. -/
structure State where
  input : List Char
  output : List Char := []
  errors : List Char := []
  status : Int := 0
  stopped : Bool := false
  assigned : List (List Char × List Char) := []
  deriving Repr

/-- A way to run a command that is not part of the language. -/
abbrev Tools := List Char → List (List Char) → List Char → Option Reply

/-- The value of a variable. -/
def State.value (s : State) (name : List Char) : List Char :=
  if name == ['?'] then (toString (if s.status < 0 then 128 - s.status else s.status)).toList
  else (s.assigned.lookup name).getD []

/-- A word with its variables filled in; a word of empty variables only is no word. -/
def expand (s : State) (w : Word) : Option (List Char) :=
  let parts := w.map fun p => match p with
    | .text cs => cs
    | .variable name => s.value name
  let isQuoted := w.any fun p => match p with
    | .text _ => true
    | .variable _ => false
  let whole := parts.flatten
  if whole.isEmpty && !isQuoted then none else some whole

/-- Where a stream ends up. -/
inductive Sink where
  | output
  | errors
  | nowhere
  deriving DecidableEq, Repr

/-- Where output and diagnostics go after some redirections. -/
def sinks : List Redirection → Sink × Sink → Sink × Sink
  | [], now => now
  | .join stream target :: rs, (out, err) =>
    let goal := if target == '1' then out else if target == '2' then err else .nowhere
    sinks rs (if stream == '2' then (out, goal) else (goal, err))
  | .toFile stream _ :: rs, (out, err) =>
    sinks rs (if stream == '2' then (out, .nowhere) else (.nowhere, err))
  | .fromFile _ :: rs, now => sinks rs now

/-- The part of some text that a stream takes. -/
def taken (sink goal : Sink) (cs : List Char) : List Char := if goal == sink then cs else []

/-- Write a line of diagnostics. -/
def complaint (line : List Char) : List Char := "sh: 1: ".toList ++ line ++ ['\n']

/-- Read a signal as it is written. -/
def signal (args : List (List Char)) : Int :=
  let known : List (String × Int) :=
    [("HUP", 1), ("INT", 2), ("QUIT", 3), ("ABRT", 6), ("KILL", 9), ("USR1", 10), ("SEGV", 11),
      ("USR2", 12), ("PIPE", 13), ("ALRM", 14), ("TERM", 15)]
  let text := match args with
    | ['-', 's'] :: name :: _ => name
    | ('-' :: name) :: _ => name
    | _ => "TERM".toList
  if text.all Char.isDigit then (Editor.number text).1
  else
    let name := String.ofList text
    let name := if name.startsWith "SIG" then String.ofList (text.drop 3) else name
    (known.lookup name).getD 15

/-- Whether a test holds. -/
def holds : List (List Char) → Bool
  | [['-', 'n'], x] => !x.isEmpty
  | [['-', 'z'], x] => x.isEmpty
  | [x, ['='], y] => x == y
  | [x, ['!', '='], y] => x != y
  | [x] => !x.isEmpty
  | _ => false

/-- Run a command of some words. -/
def command (tools : Tools) (s : State) (name : List Char) (args : List (List Char)) :
    Reply × Bool :=
  let plain (status : Int) : Reply × Bool := ({ status := status, unread := s.input }, false)
  let external (name : List Char) (args : List (List Char)) (stops : Bool) : Reply × Bool :=
    match tools name args s.input with
    | some r => (r, stops)
    | none =>
      let told := (if stops then "exec: ".toList else []) ++ name ++ ": not found".toList
      ({ errors := complaint told, status := 127, unread := s.input }, stops)
  match String.ofList name, args with
  | ":", _ | "set", _ | "export", _ | "trap", _ | "wait", _ => plain 0
  | "exit", [] => ({ status := s.status, unread := s.input }, true)
  | "exit", n :: _ =>
    if !n.isEmpty && n.all Char.isDigit then
      ({ status := ((Editor.number n).1 : Int) % 256, unread := s.input }, true)
    else
      ({ errors := complaint ("exit: Illegal number: ".toList ++ n), status := 2,
         unread := s.input }, true)
  | "kill", args =>
    let n := signal args
    if n = 0 then plain 0 else ({ status := -n, unread := s.input }, true)
  | "echo", args => ({ Tool.echo true args with unread := s.input }, false)
  | "test", args => plain (if holds args then 0 else 1)
  | "[", args => plain (if holds args.dropLast then 0 else 1)
  | "read", _ =>
    let line := (rows s.input).headD []
    ({ status := if line.isEmpty then 1 else 0, unread := s.input.drop line.length }, false)
  | "exec", [] => plain 0
  | "exec", name :: args => external name args true
  | _, args => external name args false

/-- A word that sets a variable, as the name and the value. -/
def assignment? (word : List Char) : Option (List Char × List Char) :=
  let name := word.takeWhile fun c => c.isAlphanum || c == '_'
  match word.drop name.length with
  | '=' :: value => if name.isEmpty || name.all Char.isDigit then none else some (name, value)
  | _ => none

/-- Run a simple command. -/
def simple (tools : Tools) (s : State) (words : List Word) (redirections : List Redirection) :
    State :=
  match words.filterMap (expand s) with
  | [] => { s with status := 0 }
  | name :: args =>
    match assignment? name with
    | some v => { s with assigned := v :: s.assigned, status := 0 }
    | none =>
      let fed := redirections.any fun r => match r with
        | .fromFile _ => true
        | _ => false
      let (r, stops) := command tools { s with input := if fed then [] else s.input } name args
      let (out, err) := sinks redirections (.output, .errors)
      { s with
        input := if fed then s.input else r.unread
        output := s.output ++ taken .output out r.output ++ taken .output err r.errors
        errors := s.errors ++ taken .errors out r.output ++ taken .errors err r.errors
        status := r.status
        stopped := stops }

/-- Run a script. -/
def run (tools : Tools) : Script → State → State
  | .nothing, s => s
  | .simple words redirections, s =>
    if s.stopped then s else simple tools s words redirections
  | .pipe first second, s =>
    if s.stopped then s
    else
      let a := run tools first { s with output := [], errors := [] }
      let b := run tools second { s with input := a.output, output := [], errors := [] }
      { s with
        input := a.input
        output := s.output ++ b.output
        errors := s.errors ++ a.errors ++ b.errors
        status := b.status }
  | .both first second, s =>
    let s := run tools first s
    if s.status = 0 then run tools second s else s
  | .either first second, s =>
    let s := run tools first s
    if s.status = 0 then s else run tools second s
  | .sequence first second, s => run tools second (run tools first s)
  | .negated body, s =>
    let s := run tools body s
    if s.stopped then s else { s with status := if s.status = 0 then 1 else 0 }
  | .group body, s => run tools body s
  | .subshell body, s =>
    if s.stopped then s
    else { run tools body s with stopped := false, assigned := s.assigned }

/-- Run the text of a script. -/
def script (tools : Tools) (text : List Char) (args : List (List Char)) (input : List Char) :
    Reply :=
  match Script.ofChars? text with
  | none => { errors := complaint "Syntax error".toList, status := 2, unread := input }
  | some body =>
    let named := args.mapIdx fun i a => ((toString i).toList, a)
    let assigned := named ++ [(['$'], ['1']), (['#'], (toString (args.length - 1)).toList)]
    let s := run tools body { input := input, assigned := assigned }
    { output := s.output, errors := s.errors, status := s.status, unread := s.input }

/-- The directories with commands. -/
def commandDirectories : List String := ["/bin/", "/usr/bin/"]

/-- The name of a command without the directory that holds it. -/
def baseName (name : String) : String :=
  match commandDirectories.find? fun d => name.startsWith d with
  | some d => String.ofList (name.toList.drop d.length)
  | none => name

/-- The commands that scripts can use, scripts inside scripts to a depth among them. -/
def tools (ws : File.Workspace) : Nat → Tools
  | 0, _, _, _ => none
  | depth + 1, name, args, input =>
    match Text.Utf8.decode (bytesOf name) with
    | .error _ => none
    | .ok cs =>
      match baseName (String.ofList cs), args with
      | "sh", ['-', 'c'] :: text :: args | "dash", ['-', 'c'] :: text :: args
      | "bash", ['-', 'c'] :: text :: args =>
        let r := script (tools ws depth) text (if args.isEmpty then ["sh".toList] else args) input
        some r
      | "sh", [] | "dash", [] | "bash", [] => some (script (tools ws depth) input ["sh".toList] [])
      | "env", name :: args | "nice", name :: args | "nohup", name :: args =>
        some ((tools ws depth name args input).getD
          { errors := "env: ".toList ++ name ++ ": No such file or directory\n".toList,
            status := 127, unread := input })
      | "timeout", _ :: name :: args => tools ws depth name args input
      | name, args => Tool.run? ws name args input

/-- How deep scripts may be nested. -/
def maxDepth : Nat := 8

/-- Why a command that is no tool cannot be started. -/
def refusal (ws : File.Workspace) (name : String) : File.Refusal :=
  if !name.contains '/' then
    if name == "" || name == "." || name == ".." then .denied else .notFound
  else
    match ws.probe (File.Path.ofString name) with
    | .ok _ => .denied
    | .error r => r

/-- The runner of commands. -/
def runner (ws : File.Workspace) : Runner := fun words input =>
  let bytes (w : String) : List Char := octets (Text.Utf8.encode w.toList)
  match words with
  | [] => .error .notFound
  | name :: args =>
    match tools ws maxDepth (bytes name) (args.map bytes) (octets input) with
    | some r =>
      .ok { output := bytesOf r.output, diagnostics := bytesOf r.errors, status := r.status }
    | none => .error (refusal ws name)

end Shell

end TypeWeave.Command
