import TypeWeave.Number.Reading
import TypeWeave.Template.Escape
import TypeWeave.Template.Token
import TypeWeave.Text.Blank
import TypeWeave.Text.Category
import TypeWeave.Text.Search

/-!
# Reading a template into tokens

White space control happens here: `-` inside a tag strips the white space on that side of it, a
statement or comment tag that stands first on its line takes the indentation before it along and
the line end after it, and `+` keeps what these rules would take.
-/

namespace TypeWeave.Template.Lexer

open Escape

/-- How far reading has come: the remaining source, its offset and its line. -/
structure Cursor where
  rest : List Char
  offset : Nat
  line : Nat

namespace Cursor

/-- Move past `n` characters. -/
def advance (c : Cursor) (n : Nat) : Cursor :=
  ⟨c.rest.drop n, c.offset + n, c.line + (c.rest.take n).count '\n'⟩

/-- Move to a later rest of the source. -/
def moveTo (c : Cursor) (rest : List Char) : Cursor := c.advance (c.rest.length - rest.length)

end Cursor

/-- The white space control at the edge of a tag. -/
inductive Edge where
  | plain
  | strip
  | keep
  deriving DecidableEq

/-- The control sign at the start of a tag. -/
def Edge.read : List Char → Edge × List Char
  | '-' :: cs => (.strip, cs)
  | '+' :: cs => (.keep, cs)
  | cs => (.plain, cs)

/-- The tags. -/
inductive Tag where
  | print
  | statement
  | comment
  /-- The statement that starts verbatim text. -/
  | raw
  deriving DecidableEq

/-- Skip white space. -/
def skipBlank (cs : List Char) : List Char := cs.dropWhile Text.isBlank

/-- The end of a tag with `}` and a second character: `-` takes the white space after it along. -/
def closeStripping? (close : List Char) (cs : List Char) : Option (List Char) :=
  match Text.dropPrefix? ('-' :: close) cs with
  | some rest => some (skipBlank rest)
  | none => none

/-- The end of a statement or comment tag, which takes one line end along unless it has a `+`. -/
def closeTag? (close : List Char) (cs : List Char) : Option (List Char) :=
  match Text.dropPrefix? ('+' :: close) cs with
  | some rest => some rest
  | none =>
    match closeStripping? close cs with
    | some rest => some rest
    | none =>
      match Text.dropPrefix? close cs with
      | some ('\n' :: rest) => some rest
      | some rest => some rest
      | none => none

/-- The end of a print tag. -/
def closePrint? (cs : List Char) : Option (List Char) :=
  match closeStripping? ['}', '}'] cs with
  | some rest => some rest
  | none => Text.dropPrefix? ['}', '}'] cs

/-- A whole `raw` tag, without the line end after it. -/
def openRaw? (cs : List Char) : Option (Edge × List Char) := do
  let rest ← Text.dropPrefix? ['{', '%'] cs
  let (edge, rest) := Edge.read rest
  let rest ← Text.dropPrefix? ['r', 'a', 'w'] (skipBlank rest)
  let rest := skipBlank rest
  match closeStripping? ['%', '}'] rest with
  | some rest => some (edge, rest)
  | none => (Text.dropPrefix? ['%', '}'] rest).map fun rest => (edge, rest)

/-- A whole `endraw` tag. -/
def openEndRaw? (cs : List Char) : Option (Edge × List Char) := do
  let rest ← Text.dropPrefix? ['{', '%'] cs
  let (edge, rest) := Edge.read rest
  let rest ← Text.dropPrefix? ['e', 'n', 'd', 'r', 'a', 'w'] (skipBlank rest)
  let rest ← closeTag? ['%', '}'] (skipBlank rest)
  return (edge, rest)

/-- The opening of a tag. -/
def openTag? (cs : List Char) : Option (Tag × Edge × List Char) :=
  match cs with
  | '{' :: '{' :: rest => let (e, rest) := Edge.read rest; some (.print, e, rest)
  | '{' :: '#' :: rest => let (e, rest) := Edge.read rest; some (.comment, e, rest)
  | '{' :: '%' :: rest =>
    match openRaw? cs with
    | some (e, rest) => some (.raw, e, rest)
    | none => let (e, rest) := Edge.read rest; some (.statement, e, rest)
  | _ => none

/-- The first place where a reader succeeds: the text before it and what was read there. -/
def scanFor (read : List Char → Option α) : List Char → Option (List Char × α)
  | [] => (read []).map ([], ·)
  | c :: cs =>
    match read (c :: cs) with
    | some a => some ([], a)
    | none => (scanFor read cs).map fun (before, a) => (c :: before, a)

/-- The text before a tag after white space control. `fresh` says that the text starts a line. -/
def trimBefore (tag : Tag) (edge : Edge) (fresh : Bool) (text : List Char) : List Char :=
  match edge with
  | .strip => Text.dropEndWhile Text.isBlank text
  | .keep => text
  | .plain =>
    if tag = .print then text
    else
      match Text.breakOnLast? ['\n'] text with
      | some (before, indent) => if Text.isAllBlank indent then before ++ ['\n'] else text
      | none => if fresh && Text.isAllBlank text then [] else text

/-- A character of a word. -/
def isNameChar (c : Char) : Bool := Text.isWordChar c || Text.isIdentifierRest c

/-- A float literal: it has a fraction, an exponent or both. -/
def float? (cs : List Char) : Option (Float × List Char) := do
  let (whole, rest) ← Number.groupedDigits? cs
  let fraction := match rest with
    | '.' :: r => Number.groupedDigits? r
    | _ => none
  let (digits, places, rest) := match fraction with
    | some (ds, r) => (whole ++ ds, ds.length, r)
    | none => (whole, 0, rest)
  match Number.exponent? rest with
  | some (e, rest) => some (Number.readDecimal false (Number.digitsValue digits) (e - places), rest)
  | none =>
    if fraction.isSome then some (Number.readDecimal false (Number.digitsValue digits) (-places), rest)
    else none

/-- An integer literal in a base marked by a letter after `0`. -/
def basedInteger? (letter : Char) (base : Nat) (cs : List Char) : Option (Nat × List Char) :=
  let isDigitOf (c : Char) : Bool := match hexValue? c with
    | some d => d < base
    | none => false
  match cs with
  | '0' :: l :: rest =>
    if l.toLower == letter then
      let (ds, rest) := Number.digitGroups isDigitOf rest
      if ds.isEmpty then none
      else some (ds.foldl (fun acc d => base * acc + (hexValue? d).getD 0) 0, rest)
    else none
  | _ => none

/-- An integer literal. A decimal one starts with a digit other than `0` unless it is all zeros. -/
def integer? (cs : List Char) : Option (Nat × List Char) :=
  (basedInteger? 'b' 2 cs).orElse fun _ => (basedInteger? 'o' 8 cs).orElse fun _ =>
    (basedInteger? 'x' 16 cs).orElse fun _ =>
      match cs with
      | [] => none
      | c :: _ =>
        if '1' ≤ c && c ≤ '9' then
          let (ds, rest) := Number.digitGroups Number.isDecimalDigit cs
          some (Number.digitsValue ds, rest)
        else if c == '0' then some (0, (Number.digitGroups (· == '0') cs).2)
        else none

/-- The rest of a string literal up to its quote: the text between the quotes and what follows. -/
def untilQuote (quote : Char) : List Char → Option (List Char × List Char)
  | [] => none
  | '\\' :: c :: cs => (untilQuote quote cs).map fun (s, rest) => ('\\' :: c :: s, rest)
  | c :: cs =>
    if c == quote then some ([], cs)
    else if c == '\\' then none
    else (untilQuote quote cs).map fun (s, rest) => (c :: s, rest)

/-- The operators, longer ones first. -/
def operators : List (List Char) :=
  ["**", "//", "==", "!=", ">=", "<=", "+", "-", "/", "*", "%", "~", "[", "]", "(", ")", "\x7b",
    "\x7d", ">", "<", "=", ".", ":", "|", ",", ";"].map String.toList

/-- The operator a text starts with. -/
def operator? (cs : List Char) : Option (String × List Char) :=
  operators.findSome? fun o => (Text.dropPrefix? o cs).map fun rest => (String.ofList o, rest)

/-- What stands at a place inside a tag. -/
inductive Lexeme where
  | blank
  | token (kind : Token.Kind)

/-- The lexeme that starts inside a tag, and the rest. `afterDot` says that a `.` stands in front,
where no float starts. -/
def lexeme? (afterDot : Bool) (cs : List Char) : Option (Lexeme × List Char) :=
  match cs with
  | [] => none
  | c :: rest =>
    if Text.isBlank c then some (.blank, skipBlank rest)
    else
      match (if afterDot then none else float? cs) with
      | some (x, rest) => some (.token (.float x), rest)
      | none =>
        match integer? cs with
        | some (n, rest) => some (.token (.integer n), rest)
        | none =>
          if isNameChar c then
            let word := cs.takeWhile isNameChar
            if Text.isIdentifier word then some (.token (.name (String.ofList word)), cs.dropWhile isNameChar)
            else some (.token (.broken "Invalid character in identifier"), [])
          else
            let literal := if c == '"' || c == '\x27' then untilQuote c rest else none
            match literal with
            | some (s, rest) =>
              match unescape s with
              | .ok value => some (.token (.text (String.ofList value)), rest)
              | .error reason => some (.token (.broken reason), [])
            | none => (operator? cs).map fun (o, rest) => (.token (.operator o), rest)

/-- The closing bracket of an opening one. -/
def closingOf? (symbol : String) : Option String :=
  match symbol with
  | "(" => some ")"
  | "[" => some "]"
  | "\x7b" => some "\x7d"
  | _ => none

/-- The brackets that remain open after an operator, or why it cannot stand here. -/
def balance (opened : List String) (symbol : String) : Except String (List String) :=
  match closingOf? symbol with
  | some close => .ok (close :: opened)
  | none =>
    if symbol == ")" || symbol == "]" || symbol == "\x7d" then
      match opened with
      | [] => .error ("unexpected " ++ "\x27" ++ symbol ++ "\x27")
      | expected :: opened =>
        if expected == symbol then .ok opened
        else .error ("unexpected \x27" ++ symbol ++ "\x27, expected \x27" ++ expected ++ "\x27")
    else .ok opened

/-- The tokens inside a tag up to its end, and the place after it. No place means that the source
ends inside the tag or cannot be read on. -/
def tagTokens (fuel : Nat) (close : List Char → Option (List Char)) (ending : Token.Kind)
    (opened : List String) (afterDot : Bool) (at' : Cursor) : List Token × Option Cursor :=
  match fuel with
  | 0 => ([], none)
  | fuel + 1 =>
    match (if opened.isEmpty then close at'.rest else none) with
    | some rest => ([⟨ending, at'.line⟩], some (at'.moveTo rest))
    | none =>
      match at'.rest with
      | [] => ([], none)
      | c :: _ =>
        match lexeme? afterDot at'.rest with
        | none =>
          let reason := "unexpected char " ++ Text.quoted (String.singleton c) ++ " at " ++
            toString at'.offset
          ([⟨.broken reason, at'.line⟩], none)
        | some (.blank, rest) => tagTokens fuel close ending opened false (at'.moveTo rest)
        | some (.token (.broken reason), _) => ([⟨.broken reason, at'.line⟩], none)
        | some (.token (.operator symbol), rest) =>
          match balance opened symbol with
          | .error reason => ([⟨.broken reason, at'.line⟩], none)
          | .ok opened =>
            let (ts, after) := tagTokens fuel close ending opened (symbol == ".") (at'.moveTo rest)
            (⟨.operator symbol, at'.line⟩ :: ts, after)
        | some (.token kind, rest) =>
          let (ts, after) := tagTokens fuel close ending opened false (at'.moveTo rest)
          (⟨kind, at'.line⟩ :: ts, after)

/-- A text token, unless the text is empty. -/
def dataToken (line : Nat) (text : List Char) : List Token :=
  if text.isEmpty then [] else [⟨.data (String.ofList text), line⟩]

/-- Whether a read piece of source ends a line. -/
def endsLine (before after : Cursor) : Bool :=
  (before.rest.take (before.rest.length - after.rest.length)).getLast? == some '\n'

/-- The tokens of a template from a place outside tags. -/
def tokensFrom (fuel : Nat) (fresh : Bool) (at' : Cursor) : List Token :=
  match fuel with
  | 0 => []
  | fuel + 1 =>
    match scanFor openTag? at'.rest with
    | none => dataToken at'.line at'.rest
    | some (text, tag, edge, rest) =>
      let data := dataToken at'.line (trimBefore tag edge fresh text)
      let opening := at'.advance text.length
      let inside := at'.moveTo rest
      match tag with
      | .print =>
        let (ts, after) := tagTokens (fuel + 1) closePrint? .printEnd [] false inside
        data ++ ⟨.printBegin, opening.line⟩ :: ts ++
          (match after with
            | some after => tokensFrom fuel (endsLine inside after) after
            | none => [])
      | .statement =>
        let (ts, after) := tagTokens (fuel + 1) (closeTag? ['%', '}']) .statementEnd [] false inside
        data ++ ⟨.statementBegin, opening.line⟩ :: ts ++
          (match after with
            | some after => tokensFrom fuel (endsLine inside after) after
            | none => [])
      | .comment =>
        match scanFor (closeTag? ['#', '}']) inside.rest with
        | some (_, rest) =>
          let after := inside.moveTo rest
          data ++ tokensFrom fuel (endsLine inside after) after
        | none =>
          data ++ (if inside.rest.isEmpty then []
            else [⟨.broken "Missing end of comment tag", inside.line⟩])
      | .raw =>
        match scanFor openEndRaw? inside.rest with
        | some (verbatim, edge, rest) =>
          let after := inside.moveTo rest
          data ++ dataToken inside.line (trimBefore .statement edge (endsLine at' inside) verbatim) ++
            tokensFrom fuel (endsLine inside after) after
        | none =>
          data ++ (if inside.rest.isEmpty then []
            else [⟨.broken "Missing end of raw directive", inside.line⟩])

/-- The tokens of a template whose line ends are all LF. -/
def tokens (source : List Char) : List Token := tokensFrom (source.length + 2) true ⟨source, 0, 1⟩

end TypeWeave.Template.Lexer
