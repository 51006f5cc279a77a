import TypeWeave.Yaml.Token.Text

/-!
# The stream of tokens

Tokens are read when they are asked for. A scalar or flow collection may turn out to be a key only
when the colon behind it is seen, so the stream remembers where such a key would start and reads on
as long as the token in front may still be one.
-/

namespace TypeWeave.Yaml

/-- A token that may turn out to be the start of a key. -/
structure PossibleKey where
  /-- Its number among all tokens. -/
  number : Nat
  /-- Whether it has to be a key, being the first thing on a line of a block mapping. -/
  required : Bool
  place : Place
  deriving DecidableEq, Repr

/-- The longest key that needs no mark of its own. -/
def maxKeyLength : Nat := 1024

/-- The state of the stream. -/
structure TokenStream where
  cursor : Cursor
  ended : Bool := false
  /-- How many flow collections are open. -/
  flowLevel : Int := 0
  /-- Tokens that were read and not taken. -/
  queue : List Token := []
  /-- How many tokens were taken. -/
  taken : Nat := 0
  /-- The column of the block that is open. -/
  indent : Int := -1
  /-- The columns of the blocks around it. -/
  indents : List Int := []
  /-- Whether a key may start here. -/
  keyAllowed : Bool := true
  /-- The possible keys, by flow level. -/
  keys : List (Int × PossibleKey) := []

/-- Work on a token stream. -/
abbrev TokenWork := StateT TokenStream (Except Fault)

namespace TokenStream

/-- The stream of a text. -/
def ofChars (cs : List Char) : TokenStream := { cursor := { rest := cs } }

/-- A fault at the cursor. -/
def refuse {α : Type} (text : String) : TokenWork α := do
  throw (.problem text (← get).cursor.place)

/-- Put a token behind those that were read. -/
def push (kind : Token.Kind) (start stop : Place) : TokenWork Unit :=
  modify fun s => { s with queue := s.queue ++ [⟨kind, start, stop⟩] }

/-- Put a token at the cursor that takes some characters. -/
def pushMark (kind : Token.Kind) (length : Nat) : TokenWork Unit := do
  let c := (← get).cursor
  let c' := c.advance length
  push kind c.place c'.place
  modify fun s => { s with cursor := c' }

/-- Whether flow collections are open. -/
def inFlow (s : TokenStream) : Bool := s.flowLevel != 0

/-- Allow or forbid a key at the cursor. -/
def allowKey (allowed : Bool) : TokenWork Unit := modify fun s => { s with keyAllowed := allowed }

/-- The fault of a required key that has no colon. -/
def missingColon {α : Type} : TokenWork α := refuse "could not find expected \x27:\x27"

/-- Forget possible keys that end on an earlier line or have grown too long. -/
def dropStaleKeys : TokenWork Unit := do
  let s ← get
  let here := s.cursor.place
  let isStale (k : PossibleKey) : Bool :=
    k.place.line != here.line || maxKeyLength < here.index - k.place.index
  if s.keys.any fun (_, k) => isStale k && k.required then missingColon
  else set { s with keys := s.keys.filter fun (_, k) => !isStale k }

/-- Forget the possible key of this flow level. -/
def dropKey : TokenWork Unit := do
  let s ← get
  match s.keys.lookup s.flowLevel with
  | none => pure ()
  | some k =>
    if k.required then missingColon
    else set { s with keys := s.keys.filter fun (l, _) => l != s.flowLevel }

/-- Remember that the next token may be a key. -/
def saveKey : TokenWork Unit := do
  let s ← get
  if s.keyAllowed then
    let required := !s.inFlow && s.indent == s.cursor.place.column
    dropKey
    let key : PossibleKey := ⟨s.taken + s.queue.length, required, s.cursor.place⟩
    modify fun s => { s with keys := s.keys ++ [(s.flowLevel, key)] }

/-- The blocks that are left open to the right of a column, innermost first, as the indentation that
remains and how many were closed. -/
def unwound (column : Int) : Int → List Int → Int × List Int × Nat
  | indent, [] => if column < indent then (-1, [], 1) else (indent, [], 0)
  | indent, outer :: more =>
    if column < indent then
      let (indent, indents, n) := unwound column outer more
      (indent, indents, n + 1)
    else (indent, outer :: more, 0)

/-- Close the blocks to the right of a column. -/
def unwind (column : Int) : TokenWork Unit := do
  let s ← get
  if !s.inFlow then
    let (indent, indents, n) := unwound column s.indent s.indents
    let place := s.cursor.place
    set { s with
      indent := indent, indents := indents,
      queue := s.queue ++ List.replicate n (Token.mk .blockEnd place place) }

/-- Open a block at a column if it is to the right of the open one. -/
def openBlock (column : Int) : TokenWork Bool := do
  let s ← get
  if s.indent < column then
    set { s with indents := s.indent :: s.indents, indent := column }
    return true
  else return false

/-- Move to the next token. -/
def skipToToken (fuel : Nat) : TokenWork Unit := do
  match fuel with
  | 0 => pure ()
  | fuel + 1 =>
    let s ← get
    let c := if s.cursor.place.index = 0 && s.cursor.peek == '\uFEFF' then s.cursor.next else s.cursor
    let c := c.skipBlanks.skipComment
    if isBreak c.peek then
      set { s with cursor := c.lineBreak.2, keyAllowed := s.keyAllowed || !s.inFlow }
      skipToToken fuel
    else set { s with cursor := c }

/-- Read the end of the stream. -/
def fetchEnd : TokenWork Unit := do
  unwind (-1)
  dropKey
  modify fun s => { s with keyAllowed := false, keys := [], ended := true }
  pushMark .streamEnd 0

/-- Read a directive. -/
def fetchDirective : TokenWork Unit := do
  unwind (-1)
  dropKey
  allowKey false
  let c := (← get).cursor
  let (d, stop, c') ← Token.readDirective c
  push (.directive d) c.place stop.place
  modify fun s => { s with cursor := c' }

/-- Read the mark of a document. -/
def fetchDocumentMark (kind : Token.Kind) : TokenWork Unit := do
  unwind (-1)
  dropKey
  allowKey false
  pushMark kind 3

/-- Read the start of a flow collection. -/
def fetchFlowStart (kind : Token.Kind) : TokenWork Unit := do
  saveKey
  modify fun s => { s with flowLevel := s.flowLevel + 1, keyAllowed := true }
  pushMark kind 1

/-- Read the end of a flow collection. -/
def fetchFlowEnd (kind : Token.Kind) : TokenWork Unit := do
  dropKey
  modify fun s => { s with flowLevel := s.flowLevel - 1, keyAllowed := false }
  pushMark kind 1

/-- Open a block of a kind at the cursor if it is to the right of the open one. -/
def startBlock (kind : Token.Kind) : TokenWork Unit := do
  if ← openBlock (← get).cursor.place.column then pushMark kind 0

/-- Open the block collection of a mark that stands outside flow collections. -/
def openFor (block : Token.Kind) (what : String) : TokenWork Unit := do
  if !(← get).inFlow then
    if !(← get).keyAllowed then refuse (what ++ " are not allowed here")
    else startBlock block

/-- Read the mark of an entry of a block sequence. -/
def fetchBlockEntry : TokenWork Unit := do
  openFor .blockSequenceStart "sequence entries"
  allowKey true
  dropKey
  pushMark .blockEntry 1

/-- Read the mark of a key. -/
def fetchKey : TokenWork Unit := do
  openFor .blockMappingStart "mapping keys"
  allowKey (!(← get).inFlow)
  dropKey
  pushMark .key 1

/-- Put tokens for a key in front of the token that turned out to be one. -/
def insertKey (k : PossibleKey) : TokenWork Unit := do
  let s ← get
  let opens := !s.inFlow && s.indent < k.place.column
  let at' := k.number - s.taken
  let kinds := if opens then [Token.Kind.blockMappingStart, .key] else [.key]
  set { s with
    keys := s.keys.filter fun (l, _) => l != s.flowLevel
    queue := s.queue.take at' ++ kinds.map (Token.mk · k.place k.place) ++ s.queue.drop at'
    indents := if opens then s.indent :: s.indents else s.indents
    indent := if opens then k.place.column else s.indent
    keyAllowed := false }

/-- Read the mark of a value. -/
def fetchValue : TokenWork Unit := do
  let s ← get
  match s.keys.lookup s.flowLevel with
  | some k => insertKey k
  | none =>
    openFor .blockMappingStart "mapping values"
    allowKey (!(← get).inFlow)
    dropKey
  pushMark .value 1

/-- Read a token that may be a key, with a reader for its inside. -/
def fetchNode (read : Cursor → Except Fault (Token.Kind × Place × Cursor)) : TokenWork Unit := do
  saveKey
  allowKey false
  let c := (← get).cursor
  let (kind, stop, c') ← read c
  push kind c.place stop
  modify fun s => { s with cursor := c' }

/-- Read a quoted scalar. -/
def fetchQuoted (double : Bool) : TokenWork Unit :=
  fetchNode fun c => do
    let (text, c') ← Token.readQuoted double (c.rest.length + 1) c.next
    return (.scalar (String.ofList text) false, c'.place, c')

/-- Read a plain scalar. -/
def fetchPlain : TokenWork Unit := do
  saveKey
  let s ← get
  let c := s.cursor
  let p := Token.readPlain s.inFlow (s.indent + 1) (c.rest.length + 1) [] false c.place c
  push (.scalar (String.ofList p.text) true) c.place p.stop
  modify fun s => { s with cursor := p.cursor, keyAllowed := p.broken }

/-- Read a block scalar. -/
def fetchBlockScalar (folded : Bool) : TokenWork Unit := do
  allowKey true
  dropKey
  let s ← get
  let (text, stop, c') ← Token.readBlock folded s.indent s.cursor
  push (.scalar (String.ofList text) false) s.cursor.place stop
  modify fun s => { s with cursor := c' }

/-- Whether a character starts something other than a plain scalar. -/
def isIndicator (c : Char) : Bool :=
  ['-', '?', ':', ',', '[', ']', '\x7b', '\x7d', '#', '&', '*', '!', '|', '>', '\x27', '"', '%', '@',
    '\x60'].contains c

/-- Whether a plain scalar starts at a cursor. -/
def startsPlain (inFlow : Bool) (c : Cursor) : Bool :=
  let a := c.peek
  (!endsToken a && !isIndicator a) ||
    (!endsToken (c.ahead 1) && (a == '-' || (!inFlow && (a == '?' || a == ':'))))

/-- Read the next token and those that belong in front of it. -/
def fetch : TokenWork Unit := do
  skipToToken ((← get).cursor.rest.length + 1)
  dropStaleKeys
  unwind (← get).cursor.place.column
  let s ← get
  let c := s.cursor
  let a := c.peek
  let lineStart := c.place.column = 0
  let separated := s.inFlow || endsToken (c.ahead 1)
  if a == '\x00' then fetchEnd
  else if a == '%' && lineStart then fetchDirective
  else if a == '-' && lineStart && c.atSeparator then fetchDocumentMark .documentStart
  else if a == '.' && lineStart && c.atSeparator then fetchDocumentMark .documentEnd
  else if a == '[' then fetchFlowStart .flowSequenceStart
  else if a == '\x7b' then fetchFlowStart .flowMappingStart
  else if a == ']' then fetchFlowEnd .flowSequenceEnd
  else if a == '\x7d' then fetchFlowEnd .flowMappingEnd
  else if a == ',' then
    allowKey true
    dropKey
    pushMark .flowEntry 1
  else if a == '-' && endsToken (c.ahead 1) then fetchBlockEntry
  else if a == '?' && separated then fetchKey
  else if a == ':' && separated then fetchValue
  else if a == '*' then fetchNode fun c => do
    let (name, c') ← Token.readAnchor c
    return (.alias name, c'.place, c')
  else if a == '&' then fetchNode fun c => do
    let (name, c') ← Token.readAnchor c
    return (.anchor name, c'.place, c')
  else if a == '!' then fetchNode fun c => do
    let (handle, suffix, c') ← Token.readTag c
    return (.tag handle suffix, c'.place, c')
  else if a == '|' && !s.inFlow then fetchBlockScalar false
  else if a == '>' && !s.inFlow then fetchBlockScalar true
  else if a == '\x27' then fetchQuoted false
  else if a == '"' then fetchQuoted true
  else if startsPlain s.inFlow c then fetchPlain
  else
    refuse ("found character " ++ Text.quoted (String.singleton a) ++ " that cannot start any token")

/-- Read on while the token in front may still turn out to be a key. -/
def settle (fuel : Nat) : TokenWork Unit := do
  match fuel with
  | 0 => pure ()
  | fuel + 1 =>
    if (← get).ended then pure ()
    else if (← get).queue.isEmpty then
      fetch
      settle fuel
    else
      dropStaleKeys
      let s ← get
      if s.keys.any fun (_, k) => k.number == s.taken then
        fetch
        settle fuel

/-- The next token, which stays in the stream. -/
def peek : TokenWork Token := do
  settle ((← get).cursor.rest.length + 2)
  let s ← get
  return s.queue.headD ⟨.streamEnd, s.cursor.place, s.cursor.place⟩

/-- Take the next token. -/
def take : TokenWork Token := do
  let t ← peek
  modify fun s => { s with queue := s.queue.drop 1, taken := s.taken + 1 }
  return t

end TokenStream

end TypeWeave.Yaml
