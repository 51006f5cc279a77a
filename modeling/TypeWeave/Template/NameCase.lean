import TypeWeave.Text.LetterCase
import TypeWeave.Text.Search

/-!
# Cases of names

Conversions between the ways to write a name of several words. The words of a snake-case name are
joined by underscores, those of a camel-case name start with an upper-case letter. Where words start
is told by ASCII letters and digits alone.
-/

namespace TypeWeave.Template.NameCase

/-- An upper-case letter that can start a word. -/
def isCapital (c : Char) : Bool := 'A' ≤ c && c ≤ 'Z'

/-- A lower-case letter that can continue a word. -/
def isSmall (c : Char) : Bool := 'a' ≤ c && c ≤ 'z'

/-- A digit or lower-case letter, behind which a capital starts a word. -/
def endsWord (c : Char) : Bool := isSmall c || ('0' ≤ c && c ≤ '9')

/-- A text with its first character in upper case. -/
def upperFirst : List Char → List Char
  | [] => []
  | c :: cs => Text.upperChar c ++ cs

/-- A text with its first character in lower case. -/
def lowerFirst : List Char → List Char
  | [] => []
  | c :: cs => Text.lower [c] ++ cs

/-- The words between underscores, each with its first character in upper case, joined. -/
def camel (cs : List Char) : List Char :=
  ((Text.splitOn ['_'] cs).filter (!·.isEmpty)).flatMap upperFirst

/-- Put an underscore in front of every capital with small letters behind it, unless nothing or a
line end stands before it. Letters taken by one match are not looked at again; `fuel` bounds the
characters. -/
def splitCapitalized (fuel : Nat) (cs : List Char) : List Char :=
  match fuel, cs with
  | 0, cs => cs
  | fuel + 1, c :: d :: rest =>
    let small := rest.takeWhile isSmall
    if c != '\n' && isCapital d && !small.isEmpty then
      c :: '_' :: d :: small ++ splitCapitalized fuel (rest.dropWhile isSmall)
    else c :: splitCapitalized fuel (d :: rest)
  | _, cs => cs

/-- Put an underscore between a small letter or digit and a capital behind it. -/
def splitBeforeCapital : List Char → List Char
  | c :: d :: rest =>
    if endsWord c && isCapital d then c :: '_' :: splitBeforeCapital (d :: rest)
    else c :: splitBeforeCapital (d :: rest)
  | cs => cs

/-- Underscores between words, in lower case. -/
def snake (cs : List Char) : List Char :=
  Text.lower (splitBeforeCapital (splitCapitalized cs.length cs))

/-- The receiver name for a type: its first character in lower case, `r` if there is none. -/
def receiver (cs : List Char) : List Char :=
  match Text.lower (cs.take 1) with
  | [] => ['r']
  | r => r

end TypeWeave.Template.NameCase
