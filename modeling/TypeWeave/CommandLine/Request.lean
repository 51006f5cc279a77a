import TypeWeave.CommandLine.Arguments
import TypeWeave.File.Tree
import TypeWeave.Number.Reading

/-!
# Requests

What arguments ask for. Options that ask for information count before the values of the others are
looked at; values are checked in the order in which the options first appear.
-/

namespace TypeWeave.CommandLine

/-- The options of the program as a whole. -/
structure Globals where
  config : Option File.Path := none
  logLevel : Option String := none
  deriving DecidableEq, Repr

/-- What the command is to do. -/
structure Task where
  directories : List File.Path := []
  workers : Option Int := none
  formatter : Option String := none
  dryRun : Bool := false
  deriving DecidableEq, Repr

/-- What is asked for. -/
inductive Request where
  /-- Nothing, which is answered by the help page. -/
  | nothing
  | help (command : Command)
  | version
  | generate (globals : Globals) (task : Task)
  deriving DecidableEq, Repr

/-- Why arguments are no request. -/
inductive Refusal where
  | misuse (command : Command) (fault : Fault)
  /-- A name with a NUL character, which no system call takes. -/
  | embeddedNul
  deriving DecidableEq, Repr

namespace Request

/-- Whether the end of a name says that it is that of a directory. -/
def namesDirectory (name : String) : Bool :=
  match (Text.splitOn ['/'] name.toList).getLast? with
  | some [] | some ['.'] => true
  | _ => false

/-- What a name names. -/
def entry? (ws : File.Workspace) (name : String) : Except Refusal (Option File.Entry) :=
  if name.toList.contains '\x00' then .error .embeddedNul
  else if name.isEmpty then .ok none
  else
    match ws.probe (File.Path.ofString name) with
    | .ok e => .ok (if namesDirectory name && e != .directory then none else some e)
    | .error _ => .ok none

/-- Refuse the value of a parameter. -/
def refuse {α : Type} (c : Command) (p : Parameter) (reason : Reason) : Except Refusal α :=
  .error (.misuse c (.invalid p reason))

/-- A file that is there. -/
def fileNamed (ws : File.Workspace) (name : String) : Except Refusal File.Path := do
  match ← entry? ws name with
  | none => refuse .top .config (.noFile name)
  | some .directory => refuse .top .config (.isDirectory name)
  | some _ => return File.Path.ofString name

/-- A directory that is there. -/
def directoryNamed (ws : File.Workspace) (name : String) : Except Refusal File.Path := do
  match ← entry? ws name with
  | none => refuse .generate .directories (.noDirectory name)
  | some (.file _) => refuse .generate .directories (.isFile name)
  | some _ => return File.Path.ofString name

/-- One of some words. -/
def choice (c : Command) (p : Parameter) (choices : List String) (text : String) :
    Except Refusal String :=
  if choices.contains text then .ok text else refuse c p (.noneOf text choices)

/-- A number of workers. -/
def workerCount (text : String) : Except Refusal Int :=
  match Number.readInt? 10 text.toList with
  | none => refuse .generate .workers (.notInteger text)
  | some n => if n < 1 then refuse .generate .workers (.tooSmall n) else .ok n

/-- Take an option of the program as a whole. -/
def takeGlobal (ws : File.Workspace) (a : Arguments) (g : Globals) (p : Parameter) :
    Except Refusal Globals := do
  let text := (a.value? p).getD ""
  match p with
  | .config => return { g with config := some (← fileNamed ws text) }
  | .logLevel => return { g with logLevel := some (← choice .top p Settings.logLevels text) }
  | _ => return g

/-- Take an option of the command. -/
def takeOption (a : Arguments) (t : Task) (p : Parameter) : Except Refusal Task := do
  let text := (a.value? p).getD ""
  match p with
  | .workers => return { t with workers := some (← workerCount text) }
  | .formatter => return { t with formatter := some (← choice .generate p Settings.formatters text) }
  | .dryRun => return { t with dryRun := true }
  | _ => return t

/-- Tell the arguments for a command apart. -/
def arguments (c : Command) (args : List String) : Except Refusal Arguments :=
  (Arguments.read c args).mapError (.misuse c)

/-- What an option that asks for information asks for. -/
def ofInquiry (c : Command) (p : Parameter) : Request :=
  if p = .version then .version else .help c

/-- The options of the program as a whole with the words behind them, unless one of them asks for
information. -/
def globals (ws : File.Workspace) (args : List String) :
    Except Refusal (Request ⊕ (Globals × List String)) := do
  let a ← arguments .top args
  match a.inquiry? with
  | some p => return .inl (ofInquiry .top p)
  | none => return .inr (← a.parameters.foldlM (takeGlobal ws a) {}, a.words)

/-- What arguments for the command ask for. -/
def ofCommand (ws : File.Workspace) (g : Globals) (args : List String) : Except Refusal Request := do
  let a ← arguments .generate args
  match a.inquiry? with
  | some p => return ofInquiry .generate p
  | none =>
    let task ← a.parameters.foldlM (takeOption a) {}
    return .generate g { task with directories := ← a.words.mapM (directoryNamed ws) }

/-- What arguments ask for. Where a command is expected, an option of the program as a whole still
counts. -/
def read (ws : File.Workspace) (args : List String) : Except Refusal Request := do
  if args.isEmpty then return .nothing
  match ← globals ws args with
  | .inl r => return r
  | .inr (_, []) => throw (.misuse .top .missingCommand)
  | .inr (g, name :: rest) =>
    if name = Command.generate.name then ofCommand ws g rest
    else
      let unknown := Refusal.misuse .top
        (.noSuchCommand name (Text.similar name [Command.generate.name]))
      if Arguments.isOption name then
        match ← globals ws (name :: rest) with
        | .inl r => return r
        | .inr _ => throw unknown
      else throw unknown

end Request

end TypeWeave.CommandLine
