import TypeWeave.Text.Search

/-!
# Command scripts

The syntax of the small language in which commands are put together: words with quotes and
variables, redirections, pipes, conditions, sequences and subshells.
-/

namespace TypeWeave.Command

/-- A part of a word. -/
inductive Piece where
  | text (cs : List Char)
  | variable (name : List Char)
  deriving DecidableEq, Repr

/-- A word as it is written. -/
abbrev Word := List Piece

/-- Where a stream of a command goes. -/
inductive Redirection where
  /-- One stream goes where another one goes. -/
  | join (stream target : Char)
  /-- A stream goes to a file. -/
  | toFile (stream : Char) (file : Word)
  /-- The input comes from a file. -/
  | fromFile (file : Word)
  deriving DecidableEq, Repr

/-- A script. -/
inductive Script where
  | nothing
  | simple (words : List Word) (redirections : List Redirection)
  | pipe (first second : Script)
  | both (first second : Script)
  | either (first second : Script)
  | sequence (first second : Script)
  | negated (body : Script)
  | subshell (body : Script)
  | group (body : Script)
  deriving Repr

namespace Script

/-- A token of a script. -/
inductive Token where
  | word (pieces : Word)
  | mark (text : String)
  /-- The start of a redirection, with its stream. -/
  | redirect (stream : Char) (text : String)
  deriving DecidableEq, Repr

/-- Whether a character ends a word. -/
def endsWord (c : Char) : Bool :=
  c == ' ' || c == '\t' || c == '\n' || c == ';' || c == '&' || c == '|' || c == '<' || c == '>' ||
    c == '(' || c == ')'

/-- The name behind a dollar sign, and what is behind it. -/
def variableName : List Char → Option (List Char × List Char)
  | '\x7b' :: rest =>
    let name := rest.takeWhile (· != '\x7d')
    some (name, rest.drop (name.length + 1))
  | c :: rest =>
    if c == '$' || c == '?' || c == '#' || c == '!' || c.isDigit then some ([c], rest)
    else if c.isAlpha || c == '_' then
      let more := rest.takeWhile fun c => c.isAlphanum || c == '_'
      some (c :: more, rest.drop more.length)
    else none
  | [] => none

/-- Read the inside of double quotes. -/
def readQuoted (fuel : Nat) (cs : List Char) : Word × List Char :=
  match fuel, cs with
  | 0, cs => ([], cs)
  | _, [] => ([], [])
  | _, '"' :: rest => ([], rest)
  | fuel + 1, '\\' :: c :: rest =>
    let (word, after) := readQuoted fuel rest
    if c == '$' || c == '"' || c == '\\' || c == '\x60' then (.text [c] :: word, after)
    else (.text ['\\', c] :: word, after)
  | fuel + 1, '$' :: rest =>
    match variableName rest with
    | some (name, rest) =>
      let (word, after) := readQuoted fuel rest
      (.variable name :: word, after)
    | none =>
      let (word, after) := readQuoted fuel rest
      (.text ['$'] :: word, after)
  | fuel + 1, c :: rest =>
    let (word, after) := readQuoted fuel rest
    (.text [c] :: word, after)

/-- Read a word. -/
def readWord (fuel : Nat) (cs : List Char) : Word × List Char :=
  match fuel, cs with
  | 0, cs => ([], cs)
  | _, [] => ([], [])
  | fuel + 1, '\x27' :: rest =>
    let inside := rest.takeWhile (· != '\x27')
    let (word, after) := readWord fuel (rest.drop (inside.length + 1))
    (.text inside :: word, after)
  | fuel + 1, '"' :: rest =>
    let (quoted, rest) := readQuoted (rest.length + 1) rest
    let (word, after) := readWord fuel rest
    (.text [] :: quoted ++ word, after)
  | fuel + 1, '\\' :: c :: rest =>
    let (word, after) := readWord fuel rest
    (.text [c] :: word, after)
  | fuel + 1, '$' :: rest =>
    match variableName rest with
    | some (name, rest) =>
      let (word, after) := readWord fuel rest
      (.variable name :: word, after)
    | none =>
      let (word, after) := readWord fuel rest
      (.text ['$'] :: word, after)
  | fuel + 1, c :: rest =>
    if endsWord c then ([], c :: rest)
    else
      let (word, after) := readWord fuel rest
      (.text [c] :: word, after)

/-- A redirection at the front of a text, with the letters behind it. -/
def redirection? : List Char → Option (Token × List Char)
  | '>' :: rest => some (toward '1' rest)
  | '<' :: rest => some (.redirect '0' "<", rest)
  | d :: '>' :: rest => if d.isDigit then some (toward d rest) else none
  | _ => none
where
  /-- The redirection of a stream behind its arrow. -/
  toward (stream : Char) : List Char → Token × List Char
    | '>' :: rest => (.redirect stream ">", rest)
    | '&' :: rest => (.redirect stream ">&", rest)
    | rest => (.redirect stream ">", rest)

/-- A mark or word at the front of a text that is not empty. -/
def markOrWord : List Char → Token × List Char
  | '\n' :: rest => (.mark ";", rest)
  | '&' :: '&' :: rest => (.mark "&&", rest)
  | '|' :: '|' :: rest => (.mark "||", rest)
  | cs =>
    let c := cs.headD ';'
    if c == ';' || c == '&' || c == '|' || c == '(' || c == ')' then
      (.mark c.toString, cs.drop 1)
    else
      let (word, after) := readWord (cs.length + 1) cs
      (.word word, after)

/-- The tokens of a script. -/
def tokens (fuel : Nat) (cs : List Char) : List Token :=
  match fuel, cs.dropWhile fun c => c == ' ' || c == '\t' with
  | 0, _ | _, [] => []
  | fuel + 1, '#' :: rest => tokens fuel (rest.dropWhile (· != '\n'))
  | fuel + 1, cs =>
    let (t, rest) := (redirection? cs).getD (markOrWord cs)
    t :: tokens fuel rest

/-- The letters of a word without variables. -/
def Token.plain : Token → Option String
  | .word pieces => String.ofList <$> pieces.foldlM (fun cs p => match p with
    | .text more => some (cs ++ more)
    | .variable _ => none) []
  | _ => none

/-- A reader of a part of a script, with the tokens behind it; none if they do not fit. -/
abbrev Reader (α : Type) := List Token → Option (α × List Token)

/-- Read the words and redirections of a simple command. -/
def readSimple : List Token → Option (List Word × List Redirection × List Token)
  | .word w :: ts => do
    let (ws, rs, ts) ← readSimple ts
    return (w :: ws, rs, ts)
  | .redirect stream text :: .word w :: ts => do
    let (ws, rs, ts) ← readSimple ts
    let r : Redirection :=
      if text == ">&" then .join stream (match w with
        | [.text [c]] => c
        | _ => '1')
      else if text == "<" then .fromFile w
      else .toFile stream w
    return (ws, r :: rs, ts)
  | .redirect _ _ :: _ => none
  | ts => some ([], [], ts)

mutual

/-- Read a command. -/
def readCommand (fuel : Nat) : Reader Script := fun ts =>
  match fuel, ts with
  | 0, _ => none
  | fuel + 1, .mark "(" :: ts => do
    let (body, ts) ← readList fuel ts
    match ts with
    | .mark ")" :: ts => return (.subshell body, ts)
    | _ => none
  | fuel + 1, t :: ts =>
    if t.plain == some "\x7b" then do
      let (body, ts) ← readList fuel ts
      match ts with
      | t :: ts => if t.plain == some "\x7d" then return (.group body, ts) else none
      | [] => none
    else if t.plain == some "!" then do
      let (body, ts) ← readPipe fuel ts
      return (.negated body, ts)
    else do
      let (words, redirections, ts') ← readSimple (t :: ts)
      if words.isEmpty && redirections.isEmpty then none
      else return (.simple words redirections, ts')
  | _, [] => none

/-- Read a pipe. -/
def readPipe (fuel : Nat) : Reader Script := fun ts =>
  match fuel with
  | 0 => none
  | fuel + 1 => do
    let (first, ts) ← readCommand fuel ts
    match ts with
    | .mark "|" :: ts =>
      let (second, ts) ← readPipe fuel ts
      return (.pipe first second, ts)
    | ts => return (first, ts)

/-- Read conditions behind a script. -/
def readConditions (fuel : Nat) (first : Script) : Reader Script := fun ts =>
  match fuel, ts with
  | 0, _ => none
  | fuel + 1, .mark "&&" :: ts => do
    let (second, ts) ← readPipe fuel ts
    readConditions fuel (.both first second) ts
  | fuel + 1, .mark "||" :: ts => do
    let (second, ts) ← readPipe fuel ts
    readConditions fuel (.either first second) ts
  | _, ts => some (first, ts)

/-- Read a list of commands, up to a closing token or the end. -/
def readList (fuel : Nat) : Reader Script := fun ts =>
  match fuel, ts with
  | 0, _ => none
  | _, [] => some (.nothing, [])
  | _, .mark ")" :: ts => some (.nothing, .mark ")" :: ts)
  | fuel + 1, .mark ";" :: ts => readList fuel ts
  | fuel + 1, t :: ts =>
    if t.plain == some "\x7d" then some (.nothing, t :: ts)
    else do
      let (first, ts) ← readPipe fuel (t :: ts)
      let (first, ts) ← readConditions fuel first ts
      match ts with
      | .mark ";" :: ts | .mark "&" :: ts =>
        let (more, ts) ← readList fuel ts
        return (.sequence first more, ts)
      | ts => return (first, ts)

end

/-- Read a script. -/
def ofChars? (cs : List Char) : Option Script :=
  let ts := tokens (cs.length + 1) cs
  match readList (4 * ts.length + 4) ts with
  | some (s, []) => some s
  | _ => none

end Script

end TypeWeave.Command
