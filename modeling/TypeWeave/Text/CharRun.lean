/-!
# Runs of characters

A character class is a list of runs of code points. A run with step two holds every second code
point, as in alphabets whose capitals and small letters alternate.
-/

namespace TypeWeave.Text

/-- The code points `first, first + step, …, last`. -/
structure CharRun where
  first : Nat
  last : Nat
  step : Nat
  deriving DecidableEq, Repr

namespace CharRun

/-- Membership of a code point in one run. -/
def contains (r : CharRun) (n : Nat) : Bool :=
  r.first ≤ n && n ≤ r.last && (n - r.first) % r.step == 0

/-- Membership of a character in a class. -/
def mem (runs : List CharRun) (c : Char) : Bool := runs.any (·.contains c.toNat)

end CharRun

end TypeWeave.Text
