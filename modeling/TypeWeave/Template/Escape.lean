import TypeWeave.Text.Quoted

/-!
# Escapes in template string literals

A backslash starts an escape; one that starts none stands for itself. Characters outside ASCII are
spelled out as escapes before the literal is read, so a backslash in front of one escapes only the
backslash of that spelling.
-/

namespace TypeWeave.Template.Escape

/-- Spell characters outside ASCII as escapes. -/
def spellOut (c : Char) : List Char := if c.toNat < 0x80 then [c] else Text.escapeUnprintable c

/-- The value of a hexadecimal digit. -/
def hexValue? (c : Char) : Option Nat :=
  if '0' ≤ c && c ≤ '9' then some (c.toNat - '0'.toNat)
  else if 'a' ≤ c && c ≤ 'f' then some (c.toNat - 'a'.toNat + 10)
  else if 'A' ≤ c && c ≤ 'F' then some (c.toNat - 'A'.toNat + 10)
  else none

/-- Read exactly `n` hexadecimal digits. -/
def readHex (n : Nat) (acc : Nat) (cs : List Char) : Option (Nat × List Char) :=
  match n, cs with
  | 0, cs => some (acc, cs)
  | _ + 1, [] => none
  | n + 1, c :: cs => (hexValue? c).bind fun d => readHex n (16 * acc + d) cs

/-- The value of an octal digit. -/
def octalValue? (c : Char) : Option Nat :=
  if '0' ≤ c && c ≤ '7' then some (c.toNat - '0'.toNat) else none

/-- Read at most `n` further octal digits. -/
def readOctal (n : Nat) (acc : Nat) (cs : List Char) : Nat × List Char :=
  match n, cs with
  | 0, cs => (acc, cs)
  | _ + 1, [] => (acc, [])
  | n + 1, c :: cs =>
    match octalValue? c with
    | some d => readOctal n (8 * acc + d) cs
    | none => (acc, c :: cs)

/-- The character of a code point; a code point that is no character becomes the replacement
character. -/
def charOf (n : Nat) : Char := if n.isValidChar then Char.ofNat n else '\uFFFD'

/-- The escapes that stand for one character. -/
def simpleEscape? (c : Char) : Option Char :=
  match c with
  | '\\' => some '\\'
  | '\x27' => some '\x27'
  | '"' => some '"'
  | 'b' => some '\x08'
  | 'f' => some '\x0c'
  | 't' => some '\t'
  | 'n' => some '\n'
  | 'r' => some '\r'
  | 'v' => some '\x0b'
  | 'a' => some '\x07'
  | _ => none

/-- The escape after a backslash: the characters it stands for and the rest. -/
def readEscape : List Char → Except String (List Char × List Char)
  | [] => .error "\\ at end of string"
  | '\n' :: cs => .ok ([], cs)
  | 'x' :: cs =>
    match readHex 2 0 cs with
    | some (n, rest) => .ok ([charOf n], rest)
    | none => .error "truncated \\xXX escape"
  | 'u' :: cs =>
    match readHex 4 0 cs with
    | some (n, rest) => .ok ([charOf n], rest)
    | none => .error "truncated \\uXXXX escape"
  | 'U' :: cs =>
    match readHex 8 0 cs with
    | some (n, rest) =>
      if n < 0x110000 then .ok ([charOf n], rest) else .error "illegal Unicode character"
    | none => .error "truncated \\UXXXXXXXX escape"
  | 'N' :: cs =>
    match cs with
    | '{' :: rest =>
      if rest.contains '}' && rest.head? != some '}' then .error "unknown Unicode character name"
      else .error "malformed \\N character escape"
    | _ => .error "malformed \\N character escape"
  | c :: cs =>
    match simpleEscape? c, octalValue? c with
    | some d, _ => .ok ([d], cs)
    | none, some d =>
      let (n, rest) := readOctal 2 d cs
      .ok ([charOf n], rest)
    | none, none => .ok (['\\', c], cs)

/-- Read a literal with `fuel` bounding its characters. -/
def unescapeFrom (fuel : Nat) (cs : List Char) : Except String (List Char) :=
  match fuel, cs with
  | 0, _ => .ok []
  | _, [] => .ok []
  | fuel + 1, '\\' :: cs => do
    let (out, rest) ← readEscape cs
    return out ++ (← unescapeFrom fuel rest)
  | fuel + 1, c :: cs => do return c :: (← unescapeFrom fuel cs)

/-- The text of a string literal, given what stands between its quotes. -/
def unescape (cs : List Char) : Except String (List Char) :=
  let spelled := cs.flatMap spellOut
  unescapeFrom spelled.length spelled

end TypeWeave.Template.Escape
