import TypeWeave.File.Error

/-!
# Outcomes of commands

What a command leaves behind when it ends, and what it takes to run one.
-/

namespace TypeWeave.Command

/-- How a command ended: what it wrote to its output and to its diagnostics, and its status, which
is the negated number of a signal when one ended it. -/
structure Outcome where
  output : List UInt8 := []
  diagnostics : List UInt8 := []
  status : Int := 0
  deriving DecidableEq, Repr

/-- Runs a command, given as its words, on some input, or refuses to start it. -/
abbrev Runner := List String → List UInt8 → Except File.Refusal Outcome

end TypeWeave.Command
