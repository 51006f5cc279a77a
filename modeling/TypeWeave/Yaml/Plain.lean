import TypeWeave.Yaml.Cursor

/-!
# Plain words

What an unquoted scalar without a tag stands for is found from its text: a truth value, a number, a
date, nothing, one of two marks, or else the text itself.
-/

namespace TypeWeave.Yaml.Plain

/-- The lead of the tags that need no directive. -/
def lead : String := "tag:yaml.org,2002:"

/-- The tag of a kind of values. -/
def tagOf (kind : String) : String := lead ++ kind

/-- The words for truth values. -/
def truths : List (String × Bool) :=
  [("yes", true), ("no", false), ("true", true), ("false", false), ("on", true), ("off", false)]

/-- Whether a word is written in lower case, in capitals, or with a capital in front. -/
def isSpelling (word : String) (cs : List Char) : Bool :=
  let w := word.toList
  cs == w || cs == w.map Char.toUpper || cs == (w.take 1).map Char.toUpper ++ w.drop 1

/-- Whether a text is a truth value. -/
def isTruth (cs : List Char) : Bool := truths.any fun (w, _) => isSpelling w cs

/-- Whether a text stands for nothing. -/
def isNothing (cs : List Char) : Bool := cs.isEmpty || cs == ['~'] || isSpelling "null" cs

/-- Whether a character is a digit or an underscore. -/
def isDigitMark (c : Char) : Bool := c.isDigit || c == '_'

/-- A text without a sign in front. -/
def unsigned (cs : List Char) : List Char :=
  match cs with
  | '+' :: rest | '-' :: rest => rest
  | cs => cs

/-- Whether a text is one or more parts of a number to the base sixty, each behind a colon. -/
def isSixties : List Char → Bool
  | ':' :: a :: b :: rest =>
    if b.isDigit then '0' ≤ a && a ≤ '5' && (rest.isEmpty || isSixties rest)
    else a.isDigit && isSixties (b :: rest)
  | [':', a] => a.isDigit
  | _ => false

/-- Whether a text is an integer. -/
def isInteger (cs : List Char) : Bool :=
  match unsigned cs with
  | ['0'] => true
  | '0' :: 'b' :: rest => !rest.isEmpty && rest.all fun c => c == '0' || c == '1' || c == '_'
  | '0' :: 'x' :: rest =>
    !rest.isEmpty && rest.all fun c =>
      isDigitMark c || ('a' ≤ c && c ≤ 'f') || ('A' ≤ c && c ≤ 'F')
  | '0' :: rest => rest.all fun c => ('0' ≤ c && c ≤ '7') || c == '_'
  | c :: rest =>
    c.isDigit && (rest.all isDigitMark || isSixties (rest.dropWhile isDigitMark))
  | [] => false

/-- Whether a text is an exponent or empty. -/
def isExponent : List Char → Bool
  | [] => true
  | e :: sign :: d :: rest =>
    (e == 'e' || e == 'E') && (sign == '+' || sign == '-') && d.isDigit && rest.all Char.isDigit
  | _ => false

/-- Whether a text is digits and underscores with an exponent behind them. -/
def isFraction (cs : List Char) : Bool := isExponent (cs.dropWhile isDigitMark)

/-- Whether a text is a number with a point. -/
def isPointed (cs : List Char) : Bool :=
  match unsigned cs with
  | '.' :: rest => isSpelling "inf" rest
  | c :: rest =>
    c.isDigit &&
      match rest.dropWhile isDigitMark with
      | '.' :: fraction => isFraction fraction
      | ':' :: more =>
        let sixties := ':' :: more.takeWhile (· != '.')
        match more.dropWhile (· != '.') with
        | '.' :: fraction => isSixties sixties && fraction.all isDigitMark
        | _ => false
      | _ => false
  | [] => false

/-- Whether a text is a float. -/
def isFloat (cs : List Char) : Bool :=
  isPointed cs ||
    match cs with
    | '.' :: c :: rest =>
      (c.isDigit && isFraction rest) ||
        ["nan", "NaN", "NAN"].any fun w => w.toList == c :: rest
    | _ => false

/-- Whether a character is a blank or a tab. -/
def isSpace (c : Char) : Bool := c == ' ' || c == '\t'

/-- The parts of a date as they are written; the time is the hour, the minute and the second. -/
structure DateText where
  year : List Char
  month : List Char
  day : List Char
  time : Option (List Char × List Char × List Char) := none
  fraction : List Char := []
  zone : List Char := []
  deriving DecidableEq, Repr

/-- Between `least` and `most` digits at the front of a text. -/
def digits? (least most : Nat) (cs : List Char) : Option (List Char × List Char) :=
  let ds := (cs.take most).takeWhile Char.isDigit
  if ds.length < least then none else some (ds, cs.drop ds.length)

/-- A text behind a character. -/
def after? (c : Char) (cs : List Char) : Option (List Char) :=
  if cs.head? == some c then some (cs.drop 1) else none

/-- Whether a text is a time zone. -/
def isZone (cs : List Char) : Bool :=
  match cs with
  | ['Z'] => true
  | sign :: rest =>
    (sign == '+' || sign == '-') &&
      match digits? 1 2 rest with
      | some (_, []) => true
      | some (_, ':' :: minutes) => minutes.length = 2 && minutes.all Char.isDigit
      | _ => false
  | [] => false

/-- Read the time of day behind a date. -/
def readTime (d : DateText) (cs : List Char) : Option DateText := do
  let (hour, cs) ← digits? 1 2 cs
  let (minute, cs) ← digits? 2 2 (← after? ':' cs)
  let (second, cs) ← digits? 2 2 (← after? ':' cs)
  let (fraction, cs) := match cs with
    | '.' :: rest => (rest.takeWhile Char.isDigit, rest.dropWhile Char.isDigit)
    | cs => ([], cs)
  let d := { d with time := some (hour, minute, second), fraction := fraction }
  if cs.isEmpty then return d
  let zone := cs.dropWhile isSpace
  if isZone zone then return { d with zone := zone } else none

/-- Read a date with or without a time of day. -/
def readDate (cs : List Char) : Option DateText := do
  let (year, cs) ← digits? 4 4 cs
  let (month, cs) ← digits? 1 2 (← after? '-' cs)
  let (day, cs) ← digits? 1 2 (← after? '-' cs)
  let d : DateText := { year := year, month := month, day := day }
  match cs with
  | [] => return d
  | 'T' :: rest | 't' :: rest => readTime d rest
  | c :: rest => if isSpace c then readTime d (rest.dropWhile isSpace) else none

/-- Whether a text is a date; without a time of day its parts are written in full. -/
def isDate (cs : List Char) : Bool :=
  match readDate cs with
  | some d => d.time.isSome || (d.month.length = 2 && d.day.length = 2)
  | none => false

/-- The tag that the text of an unquoted scalar stands for. -/
def tag (text : String) : String :=
  let cs := text.toList
  tagOf (if isTruth cs then "bool" else if isFloat cs then "float" else if isInteger cs then "int"
    else if text == "<<" then "merge" else if isNothing cs then "null"
    else if isDate cs then "timestamp" else if text == "=" then "value"
    else if text == "!" || text == "&" || text == "*" then "yaml" else "str")

end TypeWeave.Yaml.Plain
