import TypeWeave.CommandLine.Fault
import TypeWeave.Text.Search
import TypeWeave.Text.Similarity

/-!
# Arguments

Arguments are options and words. An option has a long form, whose value may follow an equals sign,
and perhaps a letter; letters may be written together, and the value of the last one behind it. An
argument of two hyphens ends the options.
-/

namespace TypeWeave.CommandLine

/-- Arguments that have been told apart: options with their values in the order in which they
appear, and words. -/
structure Arguments where
  given : List (Parameter × String) := []
  words : List String := []
  deriving DecidableEq, Repr

namespace Arguments

/-- Options at the start of arguments, and an option that takes its value from the next argument
with the form in which it was written. -/
structure Opening where
  given : List (Parameter × String) := []
  open? : Option (Parameter × String) := none

/-- The option of a letter. -/
def ofLetter? (c : Command) (letter : Char) : Option Parameter :=
  c.options.find? fun p => p.letter? == some letter

/-- The option of a long form. -/
def ofLong? (c : Command) (form : String) : Option Parameter :=
  c.options.find? fun p => p.long == form

/-- Read letters that are written together. -/
def readLetters (c : Command) : List Char → Except Fault Opening
  | [] => .ok {}
  | letter :: rest =>
    let form := String.ofList ['-', letter]
    match ofLetter? c letter with
    | none => .error (.noSuchOption form [])
    | some p =>
      if p.value?.isNone then
        (readLetters c rest).map fun o => { o with given := (p, "") :: o.given }
      else if rest.isEmpty then .ok { open? := some (p, form) }
      else .ok { given := [(p, String.ofList rest)] }

/-- Read an argument that begins with a hyphen. -/
def readOption (c : Command) (argument : String) : Except Fault Opening :=
  let (form, attached) := match Text.breakOn? ['='] argument.toList with
    | some (form, value) => (String.ofList form, some (String.ofList value))
    | none => (argument, none)
  match ofLong? c form, attached with
  | some p, some value =>
    if p.value?.isSome then .ok { given := [(p, value)] } else .error (.takesNoValue form)
  | some p, none =>
    if p.value?.isSome then .ok { open? := some (p, form) } else .ok { given := [(p, "")] }
  | none, _ =>
    if argument.startsWith "--" then
      .error (.noSuchOption form (Text.similar form (c.options.map Parameter.long)))
    else readLetters c (argument.toList.drop 1)

/-- Whether an argument is an option rather than a word. -/
def isOption (argument : String) : Bool :=
  match argument.toList with
  | '-' :: _ :: _ => true
  | _ => false

/-- Put options before others. -/
def behind (given : List (Parameter × String)) (a : Arguments) : Arguments :=
  { a with given := given ++ a.given }

/-- Tell arguments apart. Options of the program as a whole end at the first word. -/
def read (c : Command) : List String → Except Fault Arguments
  | [] => .ok {}
  | argument :: rest =>
    if argument = "--" then .ok { words := rest }
    else if isOption argument then
      match readOption c argument with
      | .error f => .error f
      | .ok ⟨given, none⟩ => (read c rest).map (behind given)
      | .ok ⟨given, some (p, form)⟩ =>
        match rest with
        | [] => .error (.needsValue form)
        | value :: rest => (read c rest).map (behind (given ++ [(p, value)]))
    else
      match c with
      | .top => .ok { words := argument :: rest }
      | .generate => (read c rest).map fun a => { a with words := argument :: a.words }

/-- The value of an option; a later one counts. -/
def value? (a : Arguments) (p : Parameter) : Option String := a.given.reverse.lookup p

/-- The options that are given, in the order in which they first appear. -/
def parameters (a : Arguments) : List Parameter := (a.given.map (·.1)).eraseDups

/-- The first option that asks for information instead of work. -/
def inquiry? (a : Arguments) : Option Parameter :=
  a.parameters.find? fun p => p == .help || p == .version

end Arguments

end TypeWeave.CommandLine
