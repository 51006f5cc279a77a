import TypeWeave.CommandLine.Parameter
import TypeWeave.Text.Quoted

/-!
# Misuse of the command line

What can be wrong with arguments, and the words for it.
-/

namespace TypeWeave.CommandLine

/-- What is wrong with the value of a parameter. -/
inductive Reason where
  | noFile (name : String)
  | noDirectory (name : String)
  | isDirectory (name : String)
  | isFile (name : String)
  | notInteger (text : String)
  | tooSmall (n : Int)
  | noneOf (text : String) (choices : List String)
  deriving DecidableEq, Repr

/-- The words for what is wrong with a value. -/
def Reason.message : Reason → String
  | .noFile n => "File " ++ Text.quoted n ++ " does not exist."
  | .noDirectory n => "Directory " ++ Text.quoted n ++ " does not exist."
  | .isDirectory n => "File " ++ Text.quoted n ++ " is a directory."
  | .isFile n => "Directory " ++ Text.quoted n ++ " is a file."
  | .notInteger t => Text.quoted t ++ " is not a valid integer range."
  | .tooSmall n => toString n ++ " is not in the range x>=1."
  | .noneOf t choices =>
    Text.quoted t ++ " is not one of " ++ ", ".intercalate (choices.map Text.quoted) ++ "."

/-- What is wrong with arguments. -/
inductive Fault where
  | noSuchOption (name : String) (similar : List String)
  | needsValue (option : String)
  | takesNoValue (option : String)
  | noSuchCommand (name : String) (similar : List String)
  | missingCommand
  | invalid (parameter : Parameter) (reason : Reason)
  deriving DecidableEq, Repr

namespace Fault

/-- A question whether something similar was meant. -/
def suggestion : List String → String
  | [] => ""
  | [s] => " Did you mean " ++ Text.quoted s ++ "?"
  | ss => " (Did you mean one of: " ++ ", ".intercalate (ss.map Text.quoted) ++ "?)"

/-- The words for a fault. -/
def message : Fault → String
  | .noSuchOption n similar => "No such option " ++ Text.quoted n ++ "." ++ suggestion similar
  | .needsValue o => "Option " ++ Text.quoted o ++ " requires an argument."
  | .takesNoValue o => "Option " ++ Text.quoted o ++ " does not take a value."
  | .noSuchCommand n similar => "No such command " ++ Text.quoted n ++ "." ++ suggestion similar
  | .missingCommand => "Missing command."
  | .invalid p reason => "Invalid value for " ++ p.hint ++ ": " ++ reason.message

/-- Whether the usage of the command is shown before a fault is told. -/
def showsUsage : Fault → Bool
  | .needsValue _ | .takesNoValue _ => false
  | _ => true

end Fault

end TypeWeave.CommandLine
