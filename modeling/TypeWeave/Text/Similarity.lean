/-!
# Similar words

How much two words have in common, and the words that a misspelled one may have been meant to be.
What two words have in common is their longest common part, and what the parts before and behind it
have in common.
-/

namespace TypeWeave.Text

/-- The characters with which two texts both begin. -/
def commonLead : List Char → List Char → Nat
  | a :: as, b :: bs => if a = b then commonLead as bs + 1 else 0
  | _, _ => 0

/-- A part that two texts have in common: where it stands in each, and its length. -/
structure CommonPart where
  left : Nat
  right : Nat
  length : Nat
  deriving DecidableEq, Repr

/-- The longest of the common parts that stand at a place of the first text, the earliest of
those. -/
def longestAt (left right : Nat) (cs : List Char) (best : CommonPart) : List Char → CommonPart
  | [] => best
  | d :: ds =>
    let n := commonLead cs (d :: ds)
    longestAt left (right + 1) cs (if best.length < n then ⟨left, right, n⟩ else best) ds

/-- The longest common part of two texts, the earliest of those. -/
def longestCommon (left : Nat) (best : CommonPart) (other : List Char) : List Char → CommonPart
  | [] => best
  | c :: cs => longestCommon (left + 1) (longestAt left 0 (c :: cs) best other) other cs

/-- How many characters two texts have in common, with `fuel` bounding the parts. -/
def common (fuel : Nat) (as bs : List Char) : Nat :=
  match fuel with
  | 0 => 0
  | fuel + 1 =>
    let p := longestCommon 0 ⟨0, 0, 0⟩ bs as
    if p.length = 0 then 0
    else
      common fuel (as.take p.left) (bs.take p.right) + p.length +
        common fuel (as.drop (p.left + p.length)) (bs.drop (p.right + p.length))

/-- Two words are similar when at least three fifths of their characters are in common parts. -/
def isSimilar (a b : List Char) : Bool :=
  3 * (a.length + b.length) ≤ 10 * common a.length a b

/-- The words that a misspelled word is similar to, in order. -/
def similar (word : String) (known : List String) : List String :=
  (known.filter fun k => isSimilar k.toList word.toList).mergeSort (· ≤ ·)

end TypeWeave.Text
