import TypeWeave.Template.Braces
import TypeWeave.Template.Markup
import TypeWeave.Template.Signature
import TypeWeave.Text.Lines
import TypeWeave.Text.Split
import TypeWeave.Text.Utf8

/-!
# Methods of texts

The methods that a template can call on a text. Those of a safe text give safe texts and escape the
plain texts that they are handed.
-/

namespace TypeWeave.Template.TextMethods

open Eval

/-- The names of the methods. -/
def names : List String :=
  ["capitalize", "casefold", "center", "count", "encode", "endswith", "expandtabs", "find", "format",
    "format_map", "index", "isalnum", "isalpha", "isascii", "isdecimal", "isdigit", "isidentifier",
    "islower", "isnumeric", "isprintable", "isspace", "istitle", "isupper", "join", "ljust", "lower",
    "lstrip", "partition", "removeprefix", "removesuffix", "replace", "rfind", "rindex", "rjust",
    "rpartition", "rsplit", "rstrip", "split", "splitlines", "startswith", "strip", "swapcase",
    "title", "upper", "zfill"]

/-- The methods that a safe text has in addition. -/
def safeNames : List String := ["unescape", "striptags"]

/-- What an argument was given instead of a text: its type, or the name of the value that has no
other. -/
def insteadOfText (v : Value) : String := if v matches .none then "None" else v.typeName

/-- The characters of a text argument. -/
def textArgument (method : String) (v : Value) : Eval (List Char) :=
  match v with
  | .text s _ => return s.toList
  | v => typeFault (method ++ "() argument must be str, not " ++ insteadOfText v)

/-- A repetition limit; a negative one is no limit. -/
def limitOf (n : Int) (cs : List Char) : Nat := if n < 0 then cs.length + 1 else n.toNat

/-- Part of a text between two optional positions, and its offset; one that lies behind the end of the
text, or of the part, says that there is no such part. -/
def window (cs : List Char) (start stop : Value) : Eval (List Char × Nat) := do
  let a ← sliceIndex start
  let b ← sliceIndex stop
  let n : Int := cs.length
  let clamp (i : Int) : Nat := (max 0 (min n (if i < 0 then i + n else i))).toNat
  let low := (a.map clamp).getD 0
  let high := (b.map clamp).getD cs.length
  return ((cs.take high).drop low, if a.any (· > n) || high < low then cs.length + 1 else low)

/-- The texts that a text may start or end with. -/
def affixes (method : String) (v : Value) : Eval (List (List Char)) :=
  match v with
  | .text s _ => return [s.toList]
  | .tuple vs => vs.mapM fun v => match v with
    | .text s _ => return s.toList
    | v =>
      typeFault ("tuple for " ++ method ++ " must only contain str, not " ++ v.typeName)
  | v =>
    typeFault (method ++ " first arg must be str or a tuple of str, not " ++ v.typeName)

/-- The fill character of a layout method. -/
def fillArgument : List Value → Eval Char
  | [] => return ' '
  | .text s _ :: _ =>
    match s.toList with
    | [c] => return c
    | _ => typeFault "The fill character must be exactly one character long"
  | v :: _ => typeFault ("The fill character must be a unicode character, not " ++ v.typeName)

/-- The text of a joined item; `i` is its place. -/
def joinedItem (safe : Bool) (i : Nat) (v : Value) : Eval (List Char) :=
  match v, safe with
  | .text s itemSafe, true => return (if itemSafe then s else Markup.escape s).toList
  | .text s _, false => return s.toList
  | v, true => do return (Markup.escape (← display v)).toList
  | v, false =>
    typeFault ("sequence item " ++ toString i ++ ": expected str instance, " ++ v.typeName ++
      " found")

/-- The position of the first or last occurrence of a literal in part of a text. -/
def position (last : Bool) (cs : List Char) (args : List Value) (method : String) :
    Eval (Option Nat) := do
  let (part, low) ← window cs (args.getD 1 .none) (args.getD 2 .none)
  let pat ← match args.head? with
    | some (.text s _) => pure s.toList
    | some v => typeFault ("must be str, not " ++ v.typeName)
    | none => typeFault (method ++ "() takes at least 1 argument (0 given)")
  if low > cs.length then return none
  let found := if last then (Text.breakOnLast? pat part).map (·.1.length) else Text.find? pat part
  return found.map (· + low)

/-- Texts as a new list. -/
def listOf (safe : Bool) (pieces : List (List Char)) : Eval Value :=
  newList (pieces.map fun p => .text (String.ofList p) safe)

/-- The three parts around a separator. -/
def parted (safe : Bool) (a b c : List Char) : Value :=
  .tuple ([a, b, c].map fun p => .text (String.ofList p) safe)

/-- A separator argument, which must not be empty. -/
def separator (v : Value) : Eval (Option (List Char)) :=
  match v with
  | .none => return none
  | .text s _ => if s.isEmpty then fault .value "empty separator" else return some s.toList
  | v => typeFault ("must be str or None, not " ++ v.typeName)

/-- Arguments of `split` and `rsplit`. -/
def splitArguments (g : Given) (name : String) : Eval (Value × Int) := do
  match ← g.optional name [⟨"sep", some .none⟩, ⟨"maxsplit", some (.int (-1))⟩] with
  | [sep, n] => return (sep, ← countOf n)
  | _ => return (.none, -1)

/-- The characters that a stripping method removes. -/
def stripClass (name : String) (args : List Value) : Eval (Char → Bool) :=
  match args with
  | [] | [.none] => return Text.isBlank
  | .text s _ :: _ => return fun c => s.toList.contains c
  | _ => typeFault (name ++ " arg must be None or str")

/-- A property of all characters of a text. -/
def property? (name : String) : Option (List Char → Bool) :=
  match name with
  | "isalnum" => some (Text.allOf Text.isAlphanumeric)
  | "isalpha" => some (Text.allOf Text.isLetter)
  | "isascii" => some (·.all fun c => c.toNat < 0x80)
  | "isdecimal" => some (Text.allOf Text.isDecimal)
  | "isdigit" => some (Text.allOf Text.isDigit)
  | "isidentifier" => some Text.isIdentifier
  | "islower" => some Text.isLowerText
  | "isnumeric" => some (Text.allOf Text.isNumeric)
  | "isprintable" => some (·.all Text.isPrintable)
  | "isspace" => some (Text.allOf Text.isBlank)
  | "istitle" => some Text.isTitleText
  | "isupper" => some Text.isUpperText
  | _ => none

/-- A change of letter case. -/
def recase? (name : String) : Option (List Char → List Char) :=
  match name with
  | "capitalize" => some Text.capitalize
  | "casefold" => some Text.fold
  | "lower" => some Text.lower
  | "swapcase" => some Text.swapCase
  | "title" => some Text.title
  | "upper" => some Text.upper
  | _ => none

/-- The encodings of one byte, each with its name in messages and the number of its characters. -/
def byteEncodings : List (String × String × Nat) :=
  [("ascii", "ascii", 0x80), ("us-ascii", "ascii", 0x80), ("latin-1", "latin-1", 0x100),
    ("latin1", "latin-1", 0x100), ("iso-8859-1", "latin-1", 0x100)]

/-- The bytes of a text in an encoding; characters without bytes are refused, left out or replaced. -/
def encoded (encoding errors : String) (cs : List Char) : Eval (List UInt8) := do
  let known := String.ofList ((Text.lower encoding.toList).map fun c => if c == '_' then '-' else c)
  if known == "utf-8" || known == "utf8" then return Text.Utf8.encode cs
  match byteEncodings.lookup known with
  | none => fault .lookup ("unknown encoding: " ++ encoding)
  | some (name, limit) =>
    let bytes ← cs.zipIdx.mapM fun (c, i) => do
      if c.toNat < limit then return [c.toNat.toUInt8]
      match errors with
      | "ignore" => return []
      | "replace" => return [63]
      | _ =>
        fault .encoding ("\x27" ++ name ++ "\x27 codec can\x27t encode character " ++ "\x27" ++
          String.ofList (Text.escapeUnprintable c) ++ "\x27 in position " ++ toString i ++
          ": ordinal not in range(" ++ toString limit ++ ")")
    return bytes.flatten

/-- Call a method of a text. `access` reaches into the arguments of a format. -/
def call (access : Value → String → Eval Value) (item : Value → Value → Eval Value)
    (text : String) (safe : Bool) (name : String) (g : Given) : Eval Value := do
  let cs := text.toList
  let typeName := "str"
  let result (cs : List Char) : Value := .text (String.ofList cs) safe
  let guarded (v : Value) : Value := match v, safe with
    | .text s false, true => .text (Markup.escape s) true
    | v, _ => v
  match property? name, recase? name with
  | some p, _ => do
    g.nothing (typeName ++ "." ++ name)
    return .bool (p cs)
  | _, some f => do
    g.nothing (typeName ++ "." ++ name)
    return result (f cs)
  | none, none =>
    match name with
    | "center" | "ljust" | "rjust" =>
      let args ← g.between typeName name 1 2
      let width ← roomOf (args.headD .none)
      let fill ← fillArgument args.tail
      return result (match name with
        | "center" => Text.center width fill cs
        | "ljust" => Text.padRight width fill cs
        | _ => Text.padLeft width fill cs)
    | "zfill" => return result (Text.zeroFill (← roomOf (← g.single "str.zfill")) cs)
    | "expandtabs" =>
      let vs ← g.optional name [⟨"tabsize", some (.int 8)⟩]
      return result (Text.expandTabs (← smallCountOf (vs.headD .none)).toNat 0 cs)
    | "count" =>
      let args ← g.between typeName name 1 3
      let (part, low) ← window cs (args.getD 1 .none) (args.getD 2 .none)
      let pat ← match args.headD .none with
        | .text s _ => pure s.toList
        | v => typeFault ("must be str, not " ++ v.typeName)
      return .int (if cs.length < low then 0 else Text.count pat part)
    | "find" | "rfind" =>
      let found ← position (name == "rfind") cs (← g.between typeName name 1 3) name
      return .int (match found with
        | some i => i
        | none => -1)
    | "index" | "rindex" =>
      match ← position (name == "rindex") cs (← g.between typeName name 1 3) name with
      | some i => return .int i
      | none => fault .value "substring not found"
    | "startswith" | "endswith" =>
      let args ← g.between typeName name 1 3
      let (part, low) ← window cs (args.getD 1 .none) (args.getD 2 .none)
      let patterns ← affixes name (args.headD .none)
      return .bool (low ≤ cs.length &&
        patterns.any fun p => if name == "startswith" then Text.startsWith p part
          else Text.endsWith p part)
    | "removeprefix" =>
      let pat ← textArgument "removeprefix" (← g.single "str.removeprefix")
      return result ((Text.dropPrefix? pat cs).getD cs)
    | "removesuffix" =>
      let pat ← textArgument "removesuffix" (← g.single "str.removesuffix")
      if pat.isEmpty then return result cs
      return result (if Text.endsWith pat cs then cs.take (cs.length - pat.length) else cs)
    | "replace" =>
      let args ← g.between typeName name 2 3
      let texts ← (args.take 2).mapM fun v => match guarded v with
        | .text s _ => return s.toList
        | v => typeFault ("replace() argument " ++
            (if (args.headD .none).isText then "2" else "1") ++ " must be str, not " ++
              insteadOfText v)
      let n ← match args[2]? with
        | some v => countOf v
        | none => pure (-1)
      match texts with
      | [old, new] =>
        return result (if n < 0 then Text.replace old new cs
          else Text.replaceLimit old new n.toNat cs)
      | _ => return result cs
    | "strip" | "lstrip" | "rstrip" =>
      let p ← stripClass name (← g.between typeName name 0 1)
      return result (match name with
        | "strip" => Text.stripWhile p cs
        | "lstrip" => cs.dropWhile p
        | _ => Text.dropEndWhile p cs)
    | "split" | "rsplit" =>
      let (sep, n) ← splitArguments g name
      let fromEnd := name == "rsplit"
      match ← separator sep with
      | none =>
        let n := limitOf n cs
        listOf safe (if fromEnd then Text.splitWordsEnd n cs else Text.splitWords n cs)
      | some pat =>
        let n := limitOf n cs
        listOf safe (if fromEnd then Text.splitByEnd pat n cs else Text.splitBy pat n cs)
    | "splitlines" =>
      let vs ← g.optional name [⟨"keepends", some (.bool false)⟩]
      let keep := (← smallCountOf (vs.headD .none)) != 0
      listOf safe ((Text.linesWithEnds cs).map fun (l, e) => if keep then l ++ e else l)
    | "partition" | "rpartition" =>
      let pat ← match ← g.single ("str." ++ name) with
        | .text s _ => if s.isEmpty then fault .value "empty separator" else pure s.toList
        | v => typeFault ("must be str, not " ++ v.typeName)
      if name == "partition" then
        match Text.breakOn? pat cs with
        | some (a, b) => return parted safe a pat b
        | none => return parted safe cs [] []
      else
        match Text.breakOnLast? pat cs with
        | some (a, b) => return parted safe a pat b
        | none => return parted safe [] [] cs
    | "join" =>
      let v ← g.single "str.join"
      let vs ← match v with
        | .text .. | .tuple _ | .list _ | .dict _ | .view .. | .range .. | .cursor _
        | .undefined .. | .bytes _ => items v
        | _ => typeFault "can only join an iterable"
      let pieces ← vs.zipIdx.mapM fun (v, i) => joinedItem safe i v
      return result (Text.intercalate cs pieces)
    | "format" =>
      let guardedArgs := g.positional.map guarded
      let guardedNamed := g.named.map fun (k, v) => (k, guarded v)
      return .text (← Braces.format ⟨guardedArgs, guardedNamed, access, item⟩ text) safe
    | "format_map" =>
      let entries ← match ← g.single "str.format_map" with
        | .dict r => dictEntries r
        | v => typeFault ("format_map() argument must be a mapping, not " ++ v.typeName)
      let named := entries.filterMap fun (k, v) => match k with
        | .text s _ => some (s, v)
        | _ => none
      return .text (← Braces.format ⟨[], named, access, item⟩ text) safe
    | "encode" =>
      let vs ← g.optional name [⟨"encoding", some (.ofString "utf-8")⟩,
        ⟨"errors", some (.ofString "strict")⟩]
      for (v, parameter) in vs.zip ["encoding", "errors"] do
        unless v.isText do
          typeFault ("encode() argument " ++ Text.quoted parameter ++ " must be str, not " ++
            insteadOfText v)
      match vs with
      | [.text encoding _, .text errors _] => return .bytes (← encoded encoding errors cs)
      | _ => return .bytes (Text.Utf8.encode cs)
    | "unescape" => return .ofString (String.ofList (Markup.unescape cs))
    | "striptags" => return .ofString (Markup.stripTags text)
    | _ => fault .attribute ("'str' object has no attribute " ++ Text.quoted name)

end TypeWeave.Template.TextMethods
