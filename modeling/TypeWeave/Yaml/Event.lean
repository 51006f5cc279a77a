import TypeWeave.Yaml.Token.Stream

/-!
# Events of YAML documents

The events in which a text unfolds: documents, collections and scalars, each with its tag and its
anchor. Events are made one at a time, so that the first fault of a text is the one that comes first
in it.
-/

namespace TypeWeave.Yaml

/-- What a node is called by. -/
structure Properties where
  anchor : Option String := none
  tag : Option String := none
  deriving DecidableEq, Repr

/-- The events. -/
inductive Event where
  | documentStart (place : Place)
  | documentEnd (place : Place)
  | streamEnd (place : Place)
  | alias (name : String) (place : Place)
  /-- A scalar; `implicit` tells whether its tag may be found from its text. -/
  | scalar (properties : Properties) (implicit : Bool) (text : String) (place : Place)
  | sequenceStart (properties : Properties) (place : Place)
  | mappingStart (properties : Properties) (place : Place)
  | collectionEnd (place : Place)
  deriving DecidableEq, Repr

/-- Where an event is. -/
def Event.place : Event → Place
  | .documentStart p | .documentEnd p | .streamEnd p | .alias _ p | .scalar _ _ _ p
  | .sequenceStart _ p | .mappingStart _ p | .collectionEnd p => p

/-- What may come next. -/
inductive Expected where
  | implicitDocument
  | documentStart
  | documentEnd
  | documentContent
  | blockNode
  | blockSequence
  | indentlessSequence
  | blockMappingKey
  | blockMappingValue
  | flowSequence (first : Bool)
  | flowPairKey
  | flowPairValue
  | flowPairEnd
  | flowMapping (first : Bool)
  | flowMappingValue
  | flowMappingEmptyValue
  deriving DecidableEq, Repr

/-- The state of the events. -/
structure EventStream where
  tokens : TokenStream
  expected : Expected := .implicitDocument
  /-- What may come after the collections that are open. -/
  outer : List Expected := []
  handles : List (String × String) := []

/-- Work on an event stream. -/
abbrev EventWork := StateT EventStream (Except Fault)

namespace EventStream

/-- The handles that need no directive. -/
def defaultHandles : List (String × String) := [("!", "!"), ("!!", "tag:yaml.org,2002:")]

/-- Run work on the tokens. -/
def onTokens {α : Type} (work : TokenWork α) : EventWork α := do
  let s ← get
  let (a, tokens) ← work.run s.tokens
  set { s with tokens := tokens }
  return a

/-- The next token, which stays. -/
def peek : EventWork Token := onTokens TokenStream.peek

/-- Take the next token. -/
def take : EventWork Token := onTokens TokenStream.take

/-- Whether the next token is of a kind. -/
def sees (p : Token.Kind → Bool) : EventWork Bool := return p (← peek).kind

/-- Say what may come next. -/
def expect (e : Expected) : EventWork Unit := modify fun s => { s with expected := e }

/-- Say what may come after the next node. -/
def later (e : Expected) : EventWork Unit := modify fun s => { s with outer := e :: s.outer }

/-- A node is complete. -/
def leave : EventWork Unit :=
  modify fun s => { s with expected := s.outer.headD .documentEnd, outer := s.outer.drop 1 }

/-- The scalar that stands where nothing is written. -/
def nothing (place : Place) : EventWork Event := return .scalar {} true "" place

/-- The fault of a token that does not fit. -/
def unexpected {α : Type} (what : String) (how : String) : EventWork α := do
  let t ← peek
  throw (.problem (what ++ how ++ Text.quoted t.kind.name) t.start)

/-- What directives said. -/
structure Directives where
  hasVersion : Bool := false
  handles : List (String × String) := []

/-- Read directives. -/
def readDirectives (fuel : Nat) (d : Directives) : EventWork Directives := do
  match fuel, ← peek with
  | fuel + 1, ⟨.directive given, place, _⟩ =>
    let _ ← take
    match given with
    | .version major _ =>
      if d.hasVersion then throw (.problem "found duplicate YAML directive" place)
      else if major != 1 then
        throw (.problem "found incompatible YAML document (version 1.* is required)" place)
      else readDirectives fuel { d with hasVersion := true }
    | .handle handle lead =>
      if (d.handles.lookup handle).isSome then
        throw (.problem ("duplicate tag handle " ++ Text.quoted handle) place)
      else readDirectives fuel { d with handles := d.handles ++ [(handle, lead)] }
    | .unknown => readDirectives fuel d
  | _, _ => return d

/-- Move over marks of document ends. -/
def skipDocumentEnds (fuel : Nat) : EventWork Unit := do
  match fuel with
  | 0 => pure ()
  | fuel + 1 =>
    if ← sees (· == .documentEnd) then
      let _ ← take
      skipDocumentEnds fuel

/-- More than the tokens that are left in a text. -/
def bound : EventWork Nat := return (← get).tokens.cursor.rest.length + (← get).tokens.queue.length + 2

/-- The start of a document, or the end of the stream. -/
def documentStart : EventWork Event := do
  skipDocumentEnds (← bound)
  let t ← peek
  if t.kind == .streamEnd then
    let _ ← take
    return .streamEnd t.start
  let d ← readDirectives (← bound) {}
  if !(← sees (· == .documentStart)) then unexpected "expected '<document start>'" ", but found "
  else
    let _ ← take
    modify fun s => { s with handles := d.handles ++ defaultHandles }
    later .documentEnd
    expect .documentContent
    return .documentStart t.start

/-- The anchor in front of a node. -/
def anchor? : EventWork (Option (String × Place)) := do
  match ← peek with
  | ⟨.anchor name, place, _⟩ =>
    let _ ← take
    return some (name, place)
  | _ => return none

/-- The tag in front of a node. -/
def tag? : EventWork (Option (Option String × String × Place)) := do
  match ← peek with
  | ⟨.tag handle suffix, place, _⟩ =>
    let _ ← take
    return some (handle, suffix, place)
  | _ => return none

/-- A tag with its handle spelled out. -/
def fullTag (handle : Option String) (suffix : String) (place : Place) : EventWork String := do
  match handle with
  | none => return suffix
  | some h =>
    match (← get).handles.lookup h with
    | some lead => return lead ++ suffix
    | none => throw (.problem ("found undefined tag handle " ++ Text.quoted h) place)

/-- The anchor and the tag in front of a node, in either order, and the place of the first. -/
def properties : EventWork (Properties × Option Place) := do
  let (anchor, tag) ← do
    match ← anchor? with
    | some a => pure (some a, ← tag?)
    | none =>
      let t ← tag?
      match t with
      | some _ => pure (← anchor?, t)
      | none => pure (none, t)
  let first := match anchor, tag with
    | some (_, a), some (_, _, t) => some (if a.index < t.index then a else t)
    | some (_, a), none => some a
    | none, t => t.map (·.2.2)
  match tag with
  | none => return (⟨anchor.map (·.1), none⟩, first)
  | some (handle, suffix, place) =>
    return (⟨anchor.map (·.1), some (← fullTag handle suffix place)⟩, first)

/-- A node. -/
def node (block indentless : Bool) : EventWork Event := do
  match ← peek with
  | ⟨.alias name, place, _⟩ =>
    let _ ← take
    leave
    return .alias name place
  | _ =>
    let (props, given) ← properties
    let t ← peek
    let start := given.getD t.start
    match t.kind with
    | .blockEntry =>
      if indentless then
        expect .indentlessSequence
        return .sequenceStart props start
      else bare props given
    | .scalar text plain =>
      let _ ← take
      leave
      return .scalar props ((plain && props.tag.isNone) || props.tag == some "!") text start
    | .flowSequenceStart =>
      let _ ← take
      expect (.flowSequence true)
      return .sequenceStart props start
    | .flowMappingStart =>
      let _ ← take
      expect (.flowMapping true)
      return .mappingStart props start
    | .blockSequenceStart =>
      if block then
        let _ ← take
        expect .blockSequence
        return .sequenceStart props start
      else bare props given
    | .blockMappingStart =>
      if block then
        let _ ← take
        expect .blockMappingKey
        return .mappingStart props start
      else bare props given
    | _ => bare props given
where
  /-- A node of which nothing but its properties is written. -/
  bare (props : Properties) (given : Option Place) : EventWork Event := do
    match given with
    | some place =>
      leave
      return .scalar props (props.tag.isNone || props.tag == some "!") "" place
    | none => unexpected "expected the node content" ", but found "

/-- The end of a collection. -/
def finish : EventWork Event := do
  let t ← take
  leave
  return .collectionEnd t.start

/-- A node behind a mark, with nothing in its place when the next token is of one of some kinds. -/
def nodeUnless (p : Token.Kind → Bool) (then' : Expected) (mark : Token) (block indentless : Bool) :
    EventWork Event := do
  if ← sees p then
    expect then'
    nothing mark.stop
  else
    later then'
    node block indentless

/-- Whether a token ends an entry of a block mapping. -/
def endsBlockEntry (k : Token.Kind) : Bool := k == .key || k == .value || k == .blockEnd

/-- The next entry of a flow collection, or its end. -/
def flowEntry (first : Bool) (close : Token.Kind) (entry : EventWork Event) : EventWork Event := do
  if ← sees (· == close) then finish
  else
    if !first then
      if ← sees (· == .flowEntry) then
        let _ ← take
      else unexpected ("expected ',' or '" ++ close.name ++ "'") ", but got "
    if ← sees (· == close) then finish else entry

/-- The next event. -/
def next : EventWork Event := do
  match (← get).expected with
  | .implicitDocument =>
    let t ← peek
    match t.kind with
    | .directive _ | .documentStart | .streamEnd => documentStart
    | _ =>
      modify fun s => { s with handles := defaultHandles }
      later .documentEnd
      expect .blockNode
      return .documentStart t.start
  | .documentStart => documentStart
  | .documentEnd =>
    let t ← peek
    if t.kind == .documentEnd then
      let _ ← take
    expect .documentStart
    return .documentEnd t.start
  | .documentContent =>
    let t ← peek
    match t.kind with
    | .directive _ | .documentStart | .documentEnd | .streamEnd =>
      leave
      nothing t.start
    | _ => node true false
  | .blockNode => node true false
  | .blockSequence =>
    if ← sees (· == .blockEntry) then
      let mark ← take
      nodeUnless (fun k => k == .blockEntry || k == .blockEnd) .blockSequence mark true false
    else if ← sees (· == .blockEnd) then finish
    else unexpected "expected <block end>" ", but found "
  | .indentlessSequence =>
    if ← sees (· == .blockEntry) then
      let mark ← take
      nodeUnless (fun k => k == .blockEntry || endsBlockEntry k) .indentlessSequence mark true false
    else
      let t ← peek
      leave
      return .collectionEnd t.start
  | .blockMappingKey =>
    if ← sees (· == .key) then
      let mark ← take
      nodeUnless endsBlockEntry .blockMappingValue mark true true
    else if ← sees (· == .blockEnd) then finish
    else unexpected "expected <block end>" ", but found "
  | .blockMappingValue =>
    if ← sees (· == .value) then
      let mark ← take
      nodeUnless endsBlockEntry .blockMappingKey mark true true
    else
      expect .blockMappingKey
      nothing (← peek).start
  | .flowSequence first =>
    flowEntry first .flowSequenceEnd do
      let t ← peek
      if t.kind == .key then
        expect .flowPairKey
        return .mappingStart {} t.start
      else
        later (.flowSequence false)
        node false false
  | .flowPairKey =>
    let mark ← take
    nodeUnless (fun k => k == .value || k == .flowEntry || k == .flowSequenceEnd) .flowPairValue mark
      false false
  | .flowPairValue =>
    if ← sees (· == .value) then
      let mark ← take
      nodeUnless (fun k => k == .flowEntry || k == .flowSequenceEnd) .flowPairEnd mark false false
    else
      expect .flowPairEnd
      nothing (← peek).start
  | .flowPairEnd =>
    expect (.flowSequence false)
    return .collectionEnd (← peek).start
  | .flowMapping first =>
    flowEntry first .flowMappingEnd do
      if ← sees (· == .key) then
        let mark ← take
        nodeUnless (fun k => k == .value || k == .flowEntry || k == .flowMappingEnd)
          .flowMappingValue mark false false
      else
        later .flowMappingEmptyValue
        node false false
  | .flowMappingValue =>
    if ← sees (· == .value) then
      let mark ← take
      nodeUnless (fun k => k == .flowEntry || k == .flowMappingEnd) (.flowMapping false) mark false
        false
    else
      expect (.flowMapping false)
      nothing (← peek).start
  | .flowMappingEmptyValue =>
    expect (.flowMapping false)
    nothing (← peek).start

end EventStream

end TypeWeave.Yaml
