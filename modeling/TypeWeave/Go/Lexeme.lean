import TypeWeave.Text.Blank
import TypeWeave.Text.Category
import TypeWeave.Text.Search
import TypeWeave.Text.Utf8

/-!
# Tokens of Go source

Source is read into tokens that know where they stand. White space and comments separate tokens; a
token remembers whether a line ended before it, since a line end may end a declaration or statement,
and which comments stand before it.
-/

namespace TypeWeave.Go

/-- What a token is. -/
inductive Lexeme.Kind where
  | word
  | keyword
  | number
  | character
  | string
  | symbol
  /-- A character that starts no token. -/
  | unknown
  /-- The end of the source. -/
  | ending
  deriving DecidableEq, Repr

/-- A place in the source: characters from the start, and the row and byte column from zero. -/
structure Place where
  offset : Nat := 0
  row : Nat := 0
  column : Nat := 0
  deriving DecidableEq, Repr, Inhabited

/-- The place behind a character. -/
def Place.after (p : Place) (c : Char) : Place :=
  if c == '\n' then ⟨p.offset + 1, p.row + 1, 0⟩ else ⟨p.offset + 1, p.row, p.column + c.utf8Size⟩

/-- A character of a name. -/
def Lexeme.isNameStart (c : Char) : Bool := c == '_' || Text.isIdentifierStart c

/-- A character of a name behind its first one. -/
def Lexeme.isNameRest (c : Char) : Bool := c == '_' || Text.isIdentifierRest c

/-- A name: one or more characters of names. -/
def Lexeme.isName (cs : List Char) : Bool := !cs.isEmpty && cs.all isNameRest

/-- A token: its kind and text, where it starts and ends, whether a line ended before it, and
whether a comment stands before it. -/
structure Lexeme where
  kind : Lexeme.Kind
  text : String
  start : Place
  stop : Place
  afterLine : Bool
  afterComment : Bool
  /-- The text of a word is a name. -/
  plain : kind = .word → Lexeme.isName text.toList = true
  deriving DecidableEq, Repr

namespace Lexeme

/-- The words that are no names. -/
def keywords : List String :=
  ["break", "case", "chan", "const", "continue", "default", "defer", "else", "fallthrough", "for",
    "func", "go", "goto", "if", "import", "interface", "map", "package", "range", "return", "select",
    "struct", "switch", "type", "var"]

/-- The symbols, longer ones before their beginnings. -/
def symbols : List (List Char) :=
  ["<<=", ">>=", "&^=", "...", "<<", ">>", "&^", "+=", "-=", "*=", "/=", "%=", "&=", "|=", "^=", "&&",
    "||", "<-", "++", "--", "==", "!=", "<=", ">=", ":=", "+", "-", "*", "/", "%", "&", "|", "^", "<",
    ">", "=", "!", "(", ")", "[", "]", "\x7b", "\x7d", ",", ";", ".", ":", "~", "\x00"].map
    (·.toList)

/-- Whether a token is a symbol. -/
def isSymbol (t : Lexeme) (s : String) : Bool := t.kind == .symbol && t.text == s

/-- Whether a token is a keyword. -/
def isKeyword (t : Lexeme) (s : String) : Bool := t.kind == .keyword && t.text == s

/-- Whether a token is the end of the source. -/
def isEnding (t : Lexeme) : Bool := t.kind == .ending

/-- What is read and what follows it. -/
abbrev Cut := List Char × List Char

/-- Cut off digits of a class, with single underscores between them. -/
def digitRun (p : Char → Bool) (cs : List Char) : Cut :=
  match cs with
  | '_' :: c :: rest =>
    if p c then
      let (taken, rest) := digitRun p rest
      ('_' :: c :: taken, rest)
    else ([], cs)
  | c :: rest =>
    if p c then
      let (taken, rest) := digitRun p rest
      (c :: taken, rest)
    else ([], cs)
  | [] => ([], [])

/-- Cut off digits that start with a digit. -/
def digits (p : Char → Bool) (cs : List Char) : Cut :=
  match cs with
  | '_' :: _ => ([], cs)
  | cs => digitRun p cs

/-- A hexadecimal digit. -/
def isHex (c : Char) : Bool := c.isDigit || ('a' ≤ c && c ≤ 'f') || ('A' ≤ c && c ≤ 'F')

/-- An octal digit. -/
def isOctal (c : Char) : Bool := '0' ≤ c && c ≤ '7'

/-- Cut off an exponent behind one of some marks. -/
def exponent (marks : List Char) (cs : List Char) : Cut :=
  match cs with
  | m :: rest =>
    if marks.contains m then
      let (sign, rest) := match rest with
        | '+' :: r => (['+'], r)
        | '-' :: r => (['-'], r)
        | r => ([], r)
      match digits Char.isDigit rest with
      | ([], _) => ([], cs)
      | (ds, rest) => (m :: sign ++ ds, rest)
    else ([], cs)
  | [] => ([], [])

/-- Cut off a point and the digits behind it. -/
def fraction (p : Char → Bool) (cs : List Char) : Cut :=
  match cs with
  | '.' :: rest =>
    let (ds, rest) := digits p rest
    ('.' :: ds, rest)
  | _ => ([], cs)

/-- Cut off the mark of an imaginary number. -/
def imaginary (cs : List Char) : Cut :=
  match cs with
  | 'i' :: rest => (['i'], rest)
  | _ => ([], cs)

/-- Cuts one after another. -/
def inTurn (steps : List (List Char → Cut)) (cs : List Char) : Cut :=
  steps.foldl (fun acc step =>
    let (taken, rest) := step acc.2
    (acc.1 ++ taken, rest)) ([], cs)

/-- A number in a base that a letter behind a zero marks. -/
def basedNumber? (cs : List Char) : Option Cut :=
  match cs with
  | '0' :: m :: rest =>
    let body : Option Cut :=
      if m == 'x' || m == 'X' then
        match digitRun isHex rest with
        | ([], _) => none
        | (ds, rest) =>
          let (more, rest) := inTurn [fraction isHex, exponent ['p', 'P']] rest
          some (ds ++ more, rest)
      else
        let p : Char → Bool :=
          if m == 'b' || m == 'B' then (fun c => c == '0' || c == '1')
          else if m == 'o' || m == 'O' then isOctal
          else fun _ => false
        match digitRun p rest with
        | ([], _) => none
        | cut => some cut
    body.map fun (ds, rest) =>
      let (i, rest) := imaginary rest
      ('0' :: m :: ds ++ i, rest)
  | _ => none

/-- A decimal number. An integer that starts with a zero is octal. -/
def decimalNumber? (cs : List Char) : Option Cut :=
  let (whole, rest) := digits Char.isDigit cs
  let (places, rest) := fraction Char.isDigit rest
  let (more, rest) := inTurn [exponent ['e', 'E'], imaginary] rest
  if whole.isEmpty && places.length < 2 then none
  else if places.isEmpty && more.isEmpty && whole.head? == some '0' &&
      !whole.all fun c => c == '_' || isOctal c then none
  else some (whole ++ places ++ more, rest)

/-- The rest of an escape behind its backslash. -/
def escape? (cs : List Char) : Option Cut :=
  let counted (mark : Char) (n : Nat) (rest : List Char) : Option Cut :=
    let ds := rest.take n
    if ds.length = n && ds.all isHex then some (mark :: ds, rest.drop n) else none
  match cs with
  | 'x' :: rest => counted 'x' 2 rest
  | 'u' :: rest => counted 'u' 4 rest
  | 'U' :: rest => counted 'U' 8 rest
  | c :: rest => some ([c], rest)
  | [] => none

/-- The rest of an interpreted string behind its quote. -/
def stringRest? (fuel : Nat) (cs : List Char) : Option Cut :=
  match fuel, cs with
  | 0, _ | _, [] | _, '\n' :: _ => none
  | _, '"' :: rest => some (['"'], rest)
  | fuel + 1, '\\' :: rest => do
    let (e, rest) ← escape? rest
    let (taken, rest) ← stringRest? fuel rest
    some ('\\' :: e ++ taken, rest)
  | fuel + 1, c :: rest => do
    let (taken, rest) ← stringRest? fuel rest
    some (c :: taken, rest)

/-- The rest of a raw string behind its quote. -/
def rawRest? : List Char → Option Cut
  | [] => none
  | '\x60' :: rest => some (['\x60'], rest)
  | c :: rest => (rawRest? rest).map fun (taken, rest) => (c :: taken, rest)

/-- The letters that may follow a backslash in a character. -/
def characterEscapes : List Char := ['a', 'b', 'f', 'n', 'r', 't', 'v', '\\', '\x27', '"']

/-- The rest of a character behind its quote. -/
def characterRest? (cs : List Char) : Option Cut := do
  let (body, rest) ← match cs with
    | '\\' :: a :: b :: c :: rest =>
      if isOctal a && isOctal b && isOctal c then some (['\\', a, b, c], rest)
      else if characterEscapes.contains a then some (['\\', a], b :: c :: rest)
      else if a == 'x' || a == 'u' || a == 'U' then
        (escape? (a :: b :: c :: rest)).map fun (e, rest) => ('\\' :: e, rest)
      else none
    | '\\' :: a :: rest => if characterEscapes.contains a then some (['\\', a], rest) else none
    | '\x27' :: _ => none
    | c :: rest => some ([c], rest)
    | [] => none
  match rest with
  | '\x27' :: rest => some (body ++ ['\x27'], rest)
  | _ => none

/-- A token at the start of a text. -/
def token (cs : List Char) : Kind × Cut :=
  let quoted (kind : Kind) (quote : Char) (rest : Option Cut) : Kind × Cut :=
    match rest with
    | some (taken, rest) => (kind, (quote :: taken, rest))
    | none => (.unknown, (cs.take 1, cs.drop 1))
  match cs with
  | [] => (.ending, ([], []))
  | '"' :: rest => quoted .string '"' (stringRest? (rest.length + 1) rest)
  | '\x60' :: rest => quoted .string '\x60' (rawRest? rest)
  | '\x27' :: rest => quoted .character '\x27' (characterRest? rest)
  | c :: _ =>
    if isNameStart c then
      let word := cs.takeWhile isNameRest
      (if keywords.contains (String.ofList word) then .keyword else .word,
        (word, cs.dropWhile isNameRest))
    else
      match (basedNumber? cs).orElse fun _ => decimalNumber? cs with
      | some cut => (.number, cut)
      | none =>
        match symbols.findSome? fun s => (Text.dropPrefix? s cs).map fun rest => (s, rest) with
        | some cut => (.symbol, cut)
        | none => (.unknown, (cs.take 1, cs.drop 1))

/-- A word that is cut off is a name. -/
theorem isName_token {cs : List Char} (h : (token cs).1 = .word) :
    isName (token cs).2.1 = true := by
  have hquoted (kind : Kind) (hk : kind ≠ .word) (quote : Char) (rest : Option Cut) :
      (match rest with
        | some (taken, rest) => (kind, (quote :: taken, rest))
        | none => (Kind.unknown, (cs.take 1, cs.drop 1))).1 ≠ .word := by
    cases rest <;> simp [hk]
  unfold token at h ⊢
  split at h
  · simp at h
  · exact absurd h (hquoted _ (by simp) _ _)
  · exact absurd h (hquoted _ (by simp) _ _)
  · exact absurd h (hquoted _ (by simp) _ _)
  · rename_i c rest _ _ _
    split
    · rename_i hstart
      have hrest : isNameRest c = true := by
        simp only [isNameStart, isNameRest, Text.isIdentifierRest, Bool.or_eq_true] at hstart ⊢
        exact hstart.imp_right Or.inl
      simp only [isName, List.takeWhile_cons_of_pos hrest, List.isEmpty_cons, Bool.not_false,
        Bool.true_and, List.all_cons, hrest, List.all_takeWhile]
    · rename_i hstart
      simp only [hstart, Bool.false_eq_true, if_false] at h
      split at h
      · simp at h
      · split at h <;> simp at h

/-- The rest of a block comment behind its opening. -/
def commentRest? : List Char → Option Cut
  | [] => none
  | '*' :: '/' :: rest => some (['*', '/'], rest)
  | c :: rest => (commentRest? rest).map fun (taken, rest) => (c :: taken, rest)

/-- A comment at the start of a text. -/
def comment? (cs : List Char) : Option Cut :=
  match cs with
  | '/' :: '/' :: _ => some (cs.span (· != '\n'))
  | '/' :: '*' :: rest => (commentRest? rest).map fun (taken, rest) => ('/' :: '*' :: taken, rest)
  | _ => none

/-- The tokens of a text from a place on, the last one being the end of the source. -/
def tokensFrom (fuel : Nat) (here : Place) (afterLine afterComment : Bool) (cs : List Char) :
    List Lexeme :=
  match fuel with
  | 0 => []
  | fuel + 1 =>
    match cs with
    | [] => [⟨.ending, "", here, here, afterLine, afterComment, by simp⟩]
    | c :: rest =>
      if Text.isBlank c && c.toNat ∉ [0x1C, 0x1D, 0x1E, 0x1F] then
        tokensFrom fuel (here.after c) (afterLine || c == '\n') afterComment rest
      else
        match comment? cs with
        | some (taken, rest) =>
          tokensFrom fuel (taken.foldl Place.after here) afterLine true rest
        | none =>
          let cut := token cs
          let there := cut.2.1.foldl Place.after here
          have plain (h : cut.1 = .word) : isName (String.ofList cut.2.1).toList = true := by
            rw [String.toList_ofList]
            exact isName_token h
          ⟨cut.1, String.ofList cut.2.1, here, there, afterLine, afterComment, plain⟩ ::
            tokensFrom fuel there false false cut.2.2

/-- The mark that may stand at the start of a file. -/
def byteOrderMark : Char := '\uFEFF'

/-- The tokens of a source. A byte order mark at its start is passed over. -/
def tokens (cs : List Char) : List Lexeme :=
  match cs with
  | c :: rest =>
    if c = byteOrderMark then tokensFrom (cs.length + 1) (Place.after {} c) false false rest
    else tokensFrom (cs.length + 1) {} false false cs
  | [] => tokensFrom 1 {} false false []

end Lexeme

end TypeWeave.Go
