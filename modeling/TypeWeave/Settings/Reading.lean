import TypeWeave.Json.Value
import TypeWeave.Settings.Basic
import TypeWeave.Text.Blank
import TypeWeave.Text.Utf8
import TypeWeave.Yaml.Value

/-!
# Reading settings

Values from files, variables and arguments are read leniently: a number may be written as a text, a
truth value counts as a number, and bytes count as the text they spell. What cannot be read, or
breaks the rule of its field, gives complaints.
-/

namespace TypeWeave.Settings

/-- What is wrong with a value: the path of the faulty part and the words for it. -/
structure Complaint where
  path : List String
  text : String
  deriving DecidableEq, Repr

/-- A value as it is given. -/
abbrev Raw := Yaml.Value

mutual

/-- A JSON value as a raw value. -/
def rawOfJson : Json.Value → Raw
  | .null => .null
  | .bool b => .bool b
  | .int i => .int i
  | .float x => .float x
  | .text s => .text s
  | .list items => .list (rawItems items)
  | .object entries => .map (rawEntries entries)

/-- JSON items as raw values. -/
def rawItems : List Json.Value → List Raw
  | [] => []
  | v :: vs => rawOfJson v :: rawItems vs

/-- JSON entries as raw entries. -/
def rawEntries : List (String × Json.Value) → List (Raw × Raw)
  | [] => []
  | (k, v) :: es => (.text k, rawOfJson v) :: rawEntries es

end

/-- Read a text. -/
def readText : Raw → Checked String
  | .text s => .ok s
  | .bytes b =>
    match Text.Utf8.decode b with
    | .ok cs => .ok (String.ofList cs)
    | .error _ => .error "Input should be a valid string, unable to parse raw data as a unicode string"
  | _ => .error "Input should be a valid string"

/-- The words for a text that is no integer. -/
def notWhole : String := "Input should be a valid integer, unable to parse string as an integer"

/-- The words for an integer that is too large to be read. -/
def tooLarge : String := "Unable to parse input string as an integer, exceeded maximum size"

/-- The longest text that is read as a number. -/
def maxNumberLength : Nat := 4300

/-- Whether a text is a fraction of nothing but zeros, or empty. -/
def isZeroFraction : List Char → Bool
  | [] => true
  | '.' :: rest => rest.all (· == '0')
  | _ => false

/-- Digits with single underscores between them, and what is behind them. -/
def wholePart? : List Char → Option (List Char × List Char)
  | [] => none
  | c :: rest =>
    if !c.isDigit then none
    else
      match rest with
      | '_' :: more => (wholePart? more).map fun (ds, r) => (c :: ds, r)
      | more =>
        match wholePart? more with
        | some (ds, r) => some (c :: ds, r)
        | none => if more.head?.any Char.isDigit then none else some ([c], more)

/-- Read an integer that is written as a text. -/
def readWholeText (s : String) : Checked Int :=
  let cs := Text.stripBlank s.toList
  if maxNumberLength < cs.length then .error tooLarge
  else
    let (negative, cs) := match cs with
      | '-' :: rest => (true, rest)
      | '+' :: rest => (false, rest)
      | cs => (false, cs)
    match wholePart? cs with
    | none => .error notWhole
    | some (ds, rest) =>
      if !isZeroFraction rest then .error notWhole
      else
        let n : Int := Number.digitsValue ds
        .ok (if negative then -n else n)

/-- The first power of two that is no machine integer. -/
def machineBound : Float := 9223372036854775808.0

/-- Read an integer. -/
def readWhole : Raw → Checked Int
  | .int i => .ok i
  | .bool b => .ok (if b then 1 else 0)
  | .float x =>
    if x.isNaN || x.isInf then .error "Input should be a finite number"
    else if !Number.isIntegral x then
      .error "Input should be a valid integer, got a number with a fractional part"
    else if machineBound ≤ x || x ≤ -machineBound then .error tooLarge
    else .ok ((Number.truncate? x).getD 0)
  | .text s => readWholeText s
  | .bytes b =>
    match Text.Utf8.decode b with
    | .ok cs => readWholeText (String.ofList cs)
    | .error _ => .error notWhole
  | _ => .error "Input should be a valid integer"

/-- Read the items of a list of texts, or the complaints about them. -/
def readItems (path : List String) (i : Nat) : List Raw → Except (List Complaint) (List String)
  | [] => .ok []
  | v :: vs =>
    match readText v, readItems path (i + 1) vs with
    | .ok s, .ok ss => .ok (s :: ss)
    | .ok _, .error cs => .error cs
    | .error e, .ok _ => .error [⟨path ++ [toString i], e⟩]
    | .error e, .error cs => .error (⟨path ++ [toString i], e⟩ :: cs)

/-- Read a list of texts. -/
def readTexts (path : List String) : Raw → Except (List Complaint) (List String)
  | .list items | .set items => readItems path 0 items
  | .pairs entries => readItems path 0 (entries.map fun (k, v) => .list [k, v])
  | _ => .error [⟨path, "Input should be a valid list"⟩]

/-- Blame a whole field for what is wrong. -/
def blame {α : Type} (f : Field) : Checked α → Except (List Complaint) α
  | .ok a => .ok a
  | .error e => .error [⟨[f.name], e⟩]

/-- Read the value of a field and put it into settings. -/
def put (s : Settings) (f : Field) (v : Raw) : Except (List Complaint) Settings :=
  match f with
  | .outputName => do
    let x ← blame f (readText v >>= checkOutputName)
    return { s with outputName := x }
  | .templateSuffix => do
    let x ← blame f (readText v >>= checkTemplateSuffix)
    return { s with templateSuffix := x }
  | .formatter => do
    let x ← blame f (readText v >>= checkFormatter)
    return { s with formatter := x }
  | .command => do
    let x ← readTexts [f.name] v
    let x ← blame f (checkCommand x)
    return { s with command := x }
  | .workers => do
    let x ← blame f (readWhole v >>= checkWorkers)
    return { s with workers := x }
  | .logLevel => do
    let x ← blame f (readText v >>= checkLogLevel)
    return { s with logLevel := x }

end TypeWeave.Settings
