import TypeWeave.Number.Reading
import TypeWeave.Text.Utf8
import TypeWeave.Yaml.Token

/-!
# Reading single tokens

The tokens that have an inside: directives, anchors, tags and the three forms of scalars. Each reader
takes a cursor at the start of the token and gives what it read with the cursor behind it.
-/

namespace TypeWeave.Yaml.Token

/-- A fault at a cursor. -/
def refuse {α : Type} (c : Cursor) (text : String) : Except Fault α := .error (.problem text c.place)

/-- A fault that tells what was expected and which character was found. -/
def expected {α : Type} (c : Cursor) (what : String) (found : Char) : Except Fault α :=
  refuse c ("expected " ++ what ++ ", but found " ++ Text.quoted (String.singleton found))

/-- Whether a character is a hexadecimal digit. -/
def isHex (c : Char) : Bool :=
  c.isDigit || ('a' ≤ c && c ≤ 'f') || ('A' ≤ c && c ≤ 'F')

/-- The value of hexadecimal digits. -/
def hexValue (cs : List Char) : Nat :=
  cs.foldl (fun n c => 16 * n + (Number.digitValue? c).getD 0) 0

/-- Read a name of at least one letter. -/
def readName (c : Cursor) (follows : Char → Bool) : Except Fault (String × Cursor) :=
  let name := c.run isNameChar
  let c' := c.skip isNameChar
  if name.isEmpty then expected c "alphabetic or numeric character" c.peek
  else if follows c'.peek then .ok (String.ofList name, c')
  else expected c' "alphabetic or numeric character" c'.peek

/-- What may stand behind the name of an anchor. -/
def followsAnchor (c : Char) : Bool := endsToken c || ['?', ':', ',', ']', '\x7d', '%', '@', '\x60'].contains c

/-- Read an anchor or alias behind its mark. -/
def readAnchor (c : Cursor) : Except Fault (String × Cursor) := readName c.next followsAnchor

/-- Read the bytes of escapes in an address. -/
def readEscapes (fuel : Nat) (c : Cursor) : Except Fault (List UInt8 × Cursor) :=
  match fuel with
  | 0 => .ok ([], c)
  | fuel + 1 =>
    if c.peek != '%' then .ok ([], c)
    else
      let c := c.next
      let what := "URI escape sequence of 2 hexadecimal numbers"
      if !isHex (c.ahead 0) then expected c what (c.ahead 0)
      else if !isHex (c.ahead 1) then expected c what (c.ahead 1)
      else do
        let (bytes, after) ← readEscapes fuel (c.advance 2)
        return ((hexValue (c.rest.take 2)).toUInt8 :: bytes, after)

/-- Whether a character may stand in an address. -/
def isAddressChar (c : Char) : Bool :=
  isNameChar c || [';', '/', '?', ':', '@', '&', '=', '+', '$', ',', '.', '!', '~', '*', '\x27', '(',
    ')', '[', ']'].contains c

/-- Read the parts of an address. -/
def readParts (fuel : Nat) (c : Cursor) : Except Fault (List Char × Cursor) :=
  match fuel with
  | 0 => .ok ([], c)
  | fuel + 1 =>
    let part := c.run isAddressChar
    let c := c.skip isAddressChar
    if c.peek != '%' then .ok (part, c)
    else do
      let (bytes, after) ← readEscapes (c.rest.length + 1) c
      match Text.Utf8.decode bytes with
      | .error place => refuse c place.message
      | .ok decoded =>
        let (more, after) ← readParts fuel after
        return (part ++ decoded ++ more, after)

/-- Read an address that is not empty. -/
def readAddress (c : Cursor) : Except Fault (String × Cursor) :=
  if !isAddressChar c.peek && c.peek != '%' then expected c "URI" c.peek
  else do
    let (cs, after) ← readParts (c.rest.length + 1) c
    return (String.ofList cs, after)

/-- Read the handle of a tag. -/
def readHandle (c : Cursor) : Except Fault (String × Cursor) :=
  if c.peek != '!' then expected c "\x27!\x27" c.peek
  else if c.ahead 1 == ' ' then .ok ("!", c.next)
  else
    let name := c.next.run isNameChar
    let c' := c.next.skip isNameChar
    if c'.peek != '!' then expected c' "\x27!\x27" c'.peek
    else .ok (String.ofList ('!' :: name ++ ['!']), c'.next)

/-- Whether a tag has a handle that is closed before the word ends. -/
def hasHandle (c : Cursor) : Bool := (c.next.run fun a => !endsWord a).contains '!'

/-- Read a tag. -/
def readTag (c : Cursor) : Except Fault (Option String × String × Cursor) := do
  let (handle, suffix, after) ←
    if c.ahead 1 == '<' then do
      let (suffix, after) ← readAddress (c.advance 2)
      if after.peek != '>' then expected after "\x27>\x27" after.peek
      else pure (none, suffix, after.next)
    else if endsToken (c.ahead 1) then pure (none, "!", c.next)
    else do
      let (handle, after) ← if hasHandle c then readHandle c else pure ("!", c.next)
      let (suffix, after) ← readAddress after
      pure (some handle, suffix, after)
  if endsWord after.peek then return (handle, suffix, after)
  else expected after "\x27 \x27" after.peek

/-- Read a number of a version. -/
def readNumber (c : Cursor) : Except Fault (Nat × Cursor) :=
  let ds := c.run Char.isDigit
  if ds.isEmpty then expected c "a digit" c.peek
  else .ok (Number.digitsValue ds, c.skip Char.isDigit)

/-- Read what follows the name of a directive. -/
def readDirectiveValue (name : String) (c : Cursor) : Except Fault (Directive × Cursor) :=
  if name == "YAML" then do
    let (major, c) ← readNumber c.skipBlanks
    if c.peek != '.' then expected c "a digit or \x27.\x27" c.peek
    else
      let (minor, c) ← readNumber c.next
      if endsWord c.peek then return (.version major minor, c)
      else expected c "a digit or \x27 \x27" c.peek
  else if name == "TAG" then do
    let (handle, c) ← readHandle c.skipBlanks
    if c.peek != ' ' then expected c "\x27 \x27" c.peek
    else
      let (lead, c) ← readAddress c.skipBlanks
      if endsWord c.peek then return (.handle handle lead, c)
      else expected c "\x27 \x27" c.peek
  else .ok (.unknown, c.skip fun a => !endsLine a)

/-- Move over a comment and the end of a line on which nothing else may stand. -/
def endLine (c : Cursor) : Except Fault Cursor :=
  let c := c.skipBlanks.skipComment
  if endsLine c.peek then .ok c.lineBreak.2 else expected c "a comment or a line break" c.peek

/-- Read a directive with the rest of its line; the second cursor is at the end of its value. -/
def readDirective (c : Cursor) : Except Fault (Directive × Cursor × Cursor) := do
  let (name, c) ← readName c.next endsWord
  let (d, c) ← readDirectiveValue name c
  return (d, c, ← endLine c)

/-- The character that a letter behind a backslash stands for. -/
def escapes : List (Char × Char) :=
  [('0', '\x00'), ('a', '\x07'), ('b', '\x08'), ('t', '\t'), ('\t', '\t'), ('n', '\n'),
    ('v', '\x0b'), ('f', '\x0c'), ('r', '\r'), ('e', '\x1b'), (' ', ' '), ('"', '"'), ('\\', '\\'),
    ('/', '/'), ('N', '\x85'), ('_', '\xa0'), ('L', '\u2028'), ('P', '\u2029')]

/-- How many hexadecimal digits follow a letter behind a backslash. -/
def codeLength : Char → Option Nat
  | 'x' => some 2
  | 'u' => some 4
  | 'U' => some 8
  | _ => none

/-- Read the line ends and the blanks between them inside a quoted scalar. -/
def quotedBreaks (fuel : Nat) (c : Cursor) : Except Fault (List Char × Cursor) :=
  match fuel with
  | 0 => .ok ([], c)
  | fuel + 1 =>
    if c.atSeparator then refuse c "found unexpected document separator"
    else
      let c := c.skip fun a => a == ' ' || a == '\t'
      if isBreak c.peek then do
        let (this, c) := c.lineBreak
        let (more, c) ← quotedBreaks fuel c
        return (this ++ more, c)
      else .ok ([], c)

/-- Read the blanks inside a quoted scalar, with a line end among them folded. -/
def quotedSpaces (c : Cursor) : Except Fault (List Char × Cursor) :=
  let isSpace (a : Char) : Bool := a == ' ' || a == '\t'
  let spaces := c.run isSpace
  let c := c.skip isSpace
  if c.peek == '\x00' then refuse c "found unexpected end of stream"
  else if isBreak c.peek then do
    let (this, c) := c.lineBreak
    let (more, c) ← quotedBreaks (c.rest.length + 1) c
    let folded := if this != ['\n'] then this else if more.isEmpty then [' '] else []
    return (folded ++ more, c)
  else .ok (spaces, c)

/-- Read an escape behind its backslash. -/
def readEscape (c : Cursor) : Except Fault (List Char × Cursor) :=
  let a := c.peek
  match escapes.lookup a, codeLength a with
  | some e, _ => .ok ([e], c.next)
  | none, some n =>
    let c := c.next
    match ((List.range n).map c.ahead).find? fun a => !isHex a with
    | some bad =>
      expected c ("escape sequence of " ++ toString n ++ " hexadecimal numbers") bad
    | none =>
      let code := hexValue (c.rest.take n)
      if 0x10FFFF < code then .error (.misread "chr() arg not in range(0x110000)")
      else .ok ([Char.ofNat code], c.advance n)
  | none, none =>
    if isBreak a then quotedBreaks (c.rest.length + 1) c.lineBreak.2
    else refuse c ("found unknown escape character " ++ Text.quoted (String.singleton a))

/-- Whether a character is plain inside quotes. -/
def isQuotedChar (a : Char) : Bool := !endsToken a && a != '\x27' && a != '"' && a != '\\'

/-- Read the inside of a quoted scalar up to its closing quote. -/
def readQuoted (double : Bool) (fuel : Nat) (c : Cursor) : Except Fault (List Char × Cursor) :=
  match fuel with
  | 0 => .ok ([], c)
  | fuel + 1 =>
    let part := c.run isQuotedChar
    let c := c.skip isQuotedChar
    let a := c.peek
    let quote := if double then '"' else '\x27'
    let go (read : List Char) (c : Cursor) : Except Fault (List Char × Cursor) := do
      let (more, c) ← readQuoted double fuel c
      return (part ++ read ++ more, c)
    if !double && a == '\x27' && c.ahead 1 == '\x27' then go ['\x27'] (c.advance 2)
    else if a == quote then .ok (part, c.next)
    else if a == '\x27' || a == '"' || (!double && a == '\\') then go [a] c.next
    else if a == '\\' then do
      let (read, c) ← readEscape c.next
      go read c
    else do
      let (read, c) ← quotedSpaces c
      go read c

/-- What is kept of the line ends behind a block scalar. -/
inductive Chomping where
  | strip
  | clip
  | keep
  deriving DecidableEq, Repr

/-- Read the sign that says what is kept. -/
def chomping? (c : Cursor) : Option Chomping :=
  if c.peek == '+' then some .keep else if c.peek == '-' then some .strip else none

/-- Read the digit that says how far a block scalar is indented. -/
def increment? (c : Cursor) : Except Fault (Option Nat × Cursor) :=
  if !c.peek.isDigit then .ok (none, c)
  else if c.peek == '0' then
    refuse c "expected indentation indicator in the range 1-9, but found 0"
  else .ok (some (c.peek.toNat - '0'.toNat), c.next)

/-- Read the marks behind the start of a block scalar. -/
def readMarks (c : Cursor) : Except Fault (Chomping × Option Nat × Cursor) := do
  let (chomping, increment, c) ← match chomping? c with
    | some chomping => do
      let (increment, c) ← increment? c.next
      pure (chomping, increment, c)
    | none => do
      let (increment, c) ← increment? c
      match increment, chomping? c with
      | some _, some chomping => pure (chomping, increment, c.next)
      | _, _ => pure (Chomping.clip, increment, c)
  if endsWord c.peek then return (chomping, increment, c)
  else expected c "chomping or indentation indicators" c.peek

/-- The line ends in front of the first line of a block scalar, and its indentation. -/
def findIndent (fuel : Nat) (most : Nat) (stop : Place) (c : Cursor) :
    List Char × Nat × Place × Cursor :=
  match fuel with
  | 0 => ([], most, stop, c)
  | fuel + 1 =>
    if c.peek == ' ' then
      let c := c.next
      findIndent fuel (max most c.place.column) stop c
    else if isBreak c.peek then
      let (this, c) := c.lineBreak
      let (more, most, stop, c) := findIndent fuel most c.place c
      (this ++ more, most, stop, c)
    else ([], most, stop, c)

/-- Move over the indentation of a line. -/
def skipIndent (indent : Nat) (c : Cursor) : Cursor :=
  c.advance (min (c.run (· == ' ')).length (indent - c.place.column))

/-- The line ends of empty lines, up to the indentation of the next line that is not empty. -/
def blockBreaks (indent : Nat) (fuel : Nat) (stop : Place) (c : Cursor) :
    List Char × Place × Cursor :=
  match fuel with
  | 0 => ([], stop, c)
  | fuel + 1 =>
    let c := skipIndent indent c
    if isBreak c.peek then
      let (this, c) := c.lineBreak
      let (more, stop, c) := blockBreaks indent fuel c.place c
      (this ++ more, stop, c)
    else ([], stop, c)

/-- What was read of a block scalar: its text, the last line end, the empty lines behind that, and
where it stopped. -/
structure Block where
  text : List Char
  last : List Char
  empty : List Char
  stop : Place
  cursor : Cursor

/-- Whether a character is a blank or a tab. -/
def isSpace (a : Char) : Bool := a == ' ' || a == '\t'

/-- Read the lines of a block scalar. `last` and `empty` are the line end and the empty lines read
before. -/
def blockLines (folded : Bool) (indent : Nat) (fuel : Nat) (last empty : List Char) (stop : Place)
    (c : Cursor) : Block :=
  match fuel with
  | 0 => ⟨[], last, empty, stop, c⟩
  | fuel + 1 =>
    if c.place.column != indent || c.peek == '\x00' then ⟨[], last, empty, stop, c⟩
    else
      let leading := !isSpace c.peek
      let line := c.run fun a => !endsLine a
      let (last', c) := (c.skip fun a => !endsLine a).lineBreak
      let (empty', stop', c) := blockBreaks indent (c.rest.length + 1) c.place c
      let joint :=
        if c.place.column != indent || c.peek == '\x00' then []
        else if folded && last' == ['\n'] && leading && !isSpace c.peek then
          if empty'.isEmpty then [' '] else []
        else last'
      let b := blockLines folded indent fuel last' empty' stop' c
      { b with text := empty ++ line ++ joint ++ b.text }

/-- Read a block scalar from its mark; `indent` is the indentation of the block around it. -/
def readBlock (folded : Bool) (indent : Int) (c : Cursor) : Except Fault (List Char × Place × Cursor) := do
  let (chomping, increment, c) ← readMarks c.next
  let c ← endLine c
  let least := (indent + 1).toNat.max 1
  let (empty, column, stop, c) := match increment with
    | none =>
      let (empty, most, stop, c) := findIndent (c.rest.length + 1) 0 c.place c
      (empty, max least most, stop, c)
    | some n =>
      let column := least + n - 1
      let (empty, stop, c) := blockBreaks column (c.rest.length + 1) c.place c
      (empty, column, stop, c)
  let b := blockLines folded column (c.rest.length + 1) [] empty stop c
  let kept := match chomping with
    | .strip => []
    | .clip => b.last
    | .keep => b.last ++ b.empty
  return (b.text ++ kept, b.stop, b.cursor)

/-- The blanks and line ends between the parts of a plain scalar: the text that they fold to, whether
there is a line end among them, and the cursor behind them. A document that starts or ends leaves no
text. -/
def plainSpaces (c : Cursor) : List Char × Bool × Cursor :=
  let spaces := c.run (· == ' ')
  let c := c.skipBlanks
  if isBreak c.peek then
    let (this, c) := c.lineBreak
    if c.atSeparator then ([], true, c)
    else
      match plainBreaks (c.rest.length + 1) c with
      | (none, c) => ([], true, c)
      | (some more, c) =>
        let folded := if this != ['\n'] then this else if more.isEmpty then [' '] else []
        (folded ++ more, true, c)
  else (spaces, false, c)
where
  /-- The line ends behind the first one; none when a document starts or ends. -/
  plainBreaks (fuel : Nat) (c : Cursor) : Option (List Char) × Cursor :=
    match fuel with
    | 0 => (some [], c)
    | fuel + 1 =>
      let c := c.skipBlanks
      if isBreak c.peek then
        let (this, c) := c.lineBreak
        if c.atSeparator then (none, c)
        else
          let (more, c) := plainBreaks fuel c
          (more.map (this ++ ·), c)
      else (some [], c)

/-- Whether a character is a mark of flow collections. -/
def isFlowMark (a : Char) : Bool := [',', '[', ']', '\x7b', '\x7d'].contains a

/-- The characters of a plain scalar up to a blank or a mark that ends it. -/
def plainPart (inFlow : Bool) : List Char → List Char
  | [] => []
  | a :: cs =>
    let next := cs.headD '\x00'
    if endsToken a || (a == ':' && (endsToken next || (inFlow && isFlowMark next))) ||
        (inFlow && (a == '?' || isFlowMark a)) then []
    else a :: plainPart inFlow cs

/-- What was read of a plain scalar: its text, where it stopped, whether a line end was passed behind
it, and the cursor. -/
structure Plain where
  text : List Char
  stop : Place
  broken : Bool
  cursor : Cursor

/-- Read the parts of a plain scalar; `spaces` is the text in front of the next part. -/
def readPlain (inFlow : Bool) (indent : Int) (fuel : Nat) (spaces : List Char) (broken : Bool)
    (stop : Place) (c : Cursor) : Plain :=
  match fuel with
  | 0 => ⟨[], stop, broken, c⟩
  | fuel + 1 =>
    let part := if c.peek == '#' then [] else plainPart inFlow c.rest
    if part.isEmpty then ⟨[], stop, broken, c⟩
    else
      let c := c.advance part.length
      let stop := c.place
      let (more, broken, c) := plainSpaces c
      if more.isEmpty || c.peek == '#' || (!inFlow && c.place.column < indent) then
        ⟨spaces ++ part, stop, broken, c⟩
      else
        let p := readPlain inFlow indent fuel more broken stop c
        { p with text := spaces ++ part ++ p.text }

end TypeWeave.Yaml.Token
