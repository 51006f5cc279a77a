import TypeWeave.Text.Blank
import TypeWeave.Text.LetterCase
import TypeWeave.Text.Search

/-!
# Splitting and filling text

Splitting by white space or by a literal with a limit, from either end, filling a text to a width,
and the properties that hold of every character of a text.
-/

namespace TypeWeave.Text

/-- The first `n` words and the rest behind them, with `fuel` bounding the words. -/
def splitBlank (fuel : Nat) (n : Nat) (cs : List Char) : List (List Char) :=
  let cs := cs.dropWhile isBlank
  match fuel, n, cs with
  | 0, _, _ => []
  | _, _, [] => []
  | _, 0, cs => [cs]
  | fuel + 1, n + 1, cs =>
    cs.takeWhile (!isBlank ·) :: splitBlank fuel n (cs.dropWhile (!isBlank ·))

/-- Split by white space at most `n` times. -/
def splitWords (n : Nat) (cs : List Char) : List (List Char) := splitBlank (cs.length + 1) n cs

/-- Reverse a splitting of the reversed text. -/
def unreverse (pieces : List (List Char)) : List (List Char) := (pieces.map List.reverse).reverse

/-- Split by white space at most `n` times, from the end. -/
def splitWordsEnd (n : Nat) (cs : List Char) : List (List Char) :=
  unreverse (splitWords n cs.reverse)

/-- Split by a literal at most `n` times. -/
def splitBy (pat : List Char) (n : Nat) (cs : List Char) : List (List Char) :=
  splitLimit (cs.length + 1) pat n cs

/-- Split by a literal at most `n` times, from the end. -/
def splitByEnd (pat : List Char) (n : Nat) (cs : List Char) : List (List Char) :=
  unreverse (splitBy pat.reverse n cs.reverse)

/-- Replace at most `n` occurrences of a literal. -/
def replaceLimit (pat by' : List Char) (n : Nat) (cs : List Char) : List Char :=
  match pat with
  | [] =>
    let rec spread : Nat → List Char → List Char
      | 0, cs => cs
      | _ + 1, [] => by'
      | n + 1, c :: cs => by' ++ c :: spread n cs
    spread n cs
  | _ :: _ => intercalate by' (splitBy pat n cs)

/-- Fill on the right. -/
def padRight (width : Nat) (fill : Char) (cs : List Char) : List Char :=
  cs ++ List.replicate (width - cs.length) fill

/-- Fill on the left. -/
def padLeft (width : Nat) (fill : Char) (cs : List Char) : List Char :=
  List.replicate (width - cs.length) fill ++ cs

/-- Fill on both sides; an odd gap is larger on the left when the width is odd. -/
def center (width : Nat) (fill : Char) (cs : List Char) : List Char :=
  let gap := width - cs.length
  let left := gap / 2 + (if gap % 2 == 1 && width % 2 == 1 then 1 else 0)
  List.replicate left fill ++ cs ++ List.replicate (gap - left) fill

/-- Fill with zeros behind the sign. -/
def zeroFill (width : Nat) : List Char → List Char
  | '-' :: cs => '-' :: padLeft (width - 1) '0' cs
  | '+' :: cs => '+' :: padLeft (width - 1) '0' cs
  | cs => padLeft width '0' cs

/-- Replace tabs by blanks up to the next column that is a multiple of `size`. -/
def expandTabs (size : Nat) (column : Nat) : List Char → List Char
  | [] => []
  | '\t' :: cs =>
    let gap := if size == 0 then 0 else size - column % size
    List.replicate gap ' ' ++ expandTabs size (column + gap) cs
  | c :: cs =>
    c :: expandTabs size (if c == '\n' || c == '\r' then 0 else column + 1) cs

/-- A non-empty text all of whose characters are of a class. -/
def allOf (p : Char → Bool) (cs : List Char) : Bool := !cs.isEmpty && cs.all p

/-- A text with cased characters, all of them upper case. -/
def isUpperText (cs : List Char) : Bool :=
  cs.any isCased && cs.all fun c => !isCased c || (isUpper c && !isTitlecase c)

/-- A text with cased characters, all of them lower case. -/
def isLowerText (cs : List Char) : Bool :=
  cs.any isCased && cs.all fun c => !isCased c || (isLower c && !isTitlecase c)

/-- A text with cased characters in which upper case stands exactly at the start of words. -/
def isTitleText (cs : List Char) : Bool :=
  let step := fun (state : Bool × Bool) (c : Char) =>
    if isUpper c || isTitlecase c then (state.1 && !state.2, true)
    else if isLower c then (state.1 && state.2, true)
    else (state.1, false)
  cs.any isCased && (cs.foldl step (true, false)).1

end TypeWeave.Text
