import TypeWeave.Yaml.Event
import TypeWeave.Yaml.Plain

/-!
# Nodes of YAML documents

The tree of a document, with every tag found and every alias replaced by the node that it names.
-/

namespace TypeWeave.Yaml

/-- A node with its tag and its place. -/
inductive Node where
  | scalar (tag text : String) (place : Place)
  | sequence (tag : String) (items : List Node) (place : Place)
  | mapping (tag : String) (entries : List (Node × Node)) (place : Place)
  /-- An alias of a collection that it stands in. -/
  | cycle (place : Place)

namespace Node

/-- The place of a node. -/
def place : Node → Place
  | .scalar _ _ p | .sequence _ _ p | .mapping _ _ p | .cycle p => p

/-- The tag of a node. -/
def tag : Node → String
  | .scalar t _ _ | .sequence t _ _ | .mapping t _ _ => t
  | .cycle _ => ""

/-- The name of the kind of a node. -/
def kind : Node → String
  | .scalar _ _ _ => "scalar"
  | .sequence _ _ _ | .cycle _ => "sequence"
  | .mapping _ _ _ => "mapping"

end Node

/-- The state of building nodes: the events, and the anchors so far with the nodes they name, none
for a collection that is still open. -/
structure NodeStream where
  events : EventStream
  anchors : List (String × Place × Option Node) := []

/-- Work that builds nodes. -/
abbrev NodeWork := StateT NodeStream (Except Fault)

namespace NodeStream

/-- The next event. -/
def next : NodeWork Event := do
  let s ← get
  let (e, events) ← EventStream.next.run s.events
  set { s with events := events }
  return e

/-- Name a node. -/
def name (anchor : Option String) (place : Place) (n : Option Node) : NodeWork Unit :=
  match anchor with
  | none => pure ()
  | some a => modify fun s => { s with anchors := (a, place, n) :: s.anchors }

/-- Refuse an anchor that names another node already. -/
def checkAnchor (props : Properties) (place : Place) : NodeWork Unit := do
  match props.anchor with
  | none => pure ()
  | some a =>
    if ((← get).anchors.lookup a).isSome then throw (.problem "second occurrence" place)

/-- The tag of a collection. -/
def collectionTag (props : Properties) (kind : String) : String :=
  match props.tag with
  | none | some "!" => Plain.tagOf kind
  | some t => t

mutual

/-- Build the node that starts with an event. -/
def node (fuel : Nat) (e : Event) : NodeWork Node := do
  match fuel, e with
  | 0, e => return .cycle e.place
  | _, .alias name place =>
    match (← get).anchors.lookup name with
    | none => throw (.problem ("found undefined alias " ++ Text.quoted name) place)
    | some (_, some n) => return n
    | some (_, none) => return .cycle place
  | _, .scalar props implicit text place =>
    checkAnchor props place
    let tag := match props.tag with
      | none | some "!" => if implicit then Plain.tag text else Plain.tagOf "str"
      | some t => t
    let n := Node.scalar tag text place
    name props.anchor place (some n)
    return n
  | fuel + 1, .sequenceStart props place =>
    checkAnchor props place
    name props.anchor place none
    let n := Node.sequence (collectionTag props "seq") (← items fuel) place
    name props.anchor place (some n)
    return n
  | fuel + 1, .mappingStart props place =>
    checkAnchor props place
    name props.anchor place none
    let n := Node.mapping (collectionTag props "map") (← entries fuel) place
    name props.anchor place (some n)
    return n
  | _, e => return .cycle e.place

/-- Build the items of a sequence. -/
def items (fuel : Nat) : NodeWork (List Node) := do
  match fuel, ← next with
  | 0, _ => return []
  | _, .collectionEnd _ => return []
  | fuel + 1, e =>
    let n ← node fuel e
    return n :: (← items fuel)

/-- Build the entries of a mapping. -/
def entries (fuel : Nat) : NodeWork (List (Node × Node)) := do
  match fuel, ← next with
  | 0, _ => return []
  | _, .collectionEnd _ => return []
  | fuel + 1, e =>
    let k ← node fuel e
    let v ← node fuel (← next)
    return (k, v) :: (← entries fuel)

end

/-- Build the only document of a stream, if it has one. -/
def single (fuel : Nat) : NodeWork (Option Node) := do
  match ← next with
  | .streamEnd _ => return none
  | _ =>
    let n ← node fuel (← next)
    let _ ← next
    match ← next with
    | .streamEnd _ => return some n
    | e => throw (.problem "but found another document" e.place)

end NodeStream

/-- Whether a character may stand in a document. -/
def isAllowed (c : Char) : Bool :=
  let n := c.toNat
  n = 0x9 || n = 0xA || n = 0xD || (0x20 ≤ n && n ≤ 0x7E) || n = 0x85 || (0xA0 ≤ n && n ≤ 0xFFFD) ||
    0x10000 ≤ n

/-- The node of a text with at most one document. -/
def Node.ofChars? (cs : List Char) : Except Fault (Option Node) :=
  match cs.findIdx? fun c => !isAllowed c with
  | some i => .error (.unprintable (cs.getD i ' ').toNat i)
  | none =>
    let events : EventStream := { tokens := TokenStream.ofChars cs }
    ((NodeStream.single (4 * cs.length + 16)).run { events := events }).map (·.1)

end TypeWeave.Yaml
