import TypeWeave.Number.Reading
import TypeWeave.Text.LetterCase
import TypeWeave.Text.Search
import TypeWeave.Yaml.Node

/-!
# Values of YAML documents

The values that the nodes of a document stand for. Faults are looked for level by level: those of
the scalars in a collection come before those inside the collections in it.
-/

namespace TypeWeave.Yaml

/-- The values. -/
inductive Value where
  | null
  | bool (b : Bool)
  | int (i : Int)
  | float (x : Float)
  | text (s : String)
  | bytes (b : List UInt8)
  /-- A date with or without a time of day, as it is printed. -/
  | date (s : String)
  | list (items : List Value)
  /-- Keys with their values in order, keys repeated or not. -/
  | pairs (entries : List (Value × Value))
  | map (entries : List (Value × Value))
  | set (items : List Value)

namespace Value

/-- The name of the kind of a value in messages. -/
def kind : Value → String
  | .null => "NoneType"
  | .bool _ => "bool"
  | .int _ => "int"
  | .float _ => "float"
  | .text _ => "str"
  | .bytes _ => "bytes"
  | .date s => if s.length ≤ 10 then "date" else "datetime"
  | .list _ | .pairs _ => "list"
  | .map _ => "dict"
  | .set _ => "set"

/-- Whether a value is empty, zero or false. -/
def isVoid : Value → Bool
  | .null => true
  | .bool b => !b
  | .int i => i == 0
  | .float x => x == 0.0
  | .text s => s.isEmpty
  | .bytes b => b.isEmpty
  | .date _ => false
  | .list items | .set items => items.isEmpty
  | .pairs entries | .map entries => entries.isEmpty

/-- Whether two scalars are the same key; numbers are compared by what they count. -/
def sameKey : Value → Value → Bool
  | .null, .null => true
  | .text a, .text b => a == b
  | .bytes a, .bytes b => a == b
  | .date a, .date b => a == b
  | .float x, .float y => x == y
  | .float x, .int i | .int i, .float x => Number.compareInt? x i == some .eq
  | .float x, .bool b | .bool b, .float x => x == if b then 1.0 else 0.0
  | .int i, .int j => i == j
  | .bool a, .bool b => a == b
  | .int i, .bool b | .bool b, .int i => i == if b then 1 else 0
  | _, _ => false

/-- Set the value of a key, which keeps its first place. -/
def put (key value : Value) : List (Value × Value) → List (Value × Value)
  | [] => [(key, value)]
  | (k, v) :: es => if k.sameKey key then (k, value) :: es else (k, v) :: put key value es

end Value

namespace Scalar

/-- Read an integer to a base. -/
def wholeNumber (base : Nat) (cs : List Char) : Except Fault Int :=
  match Number.readInt? base cs with
  | some i => .ok i
  | none =>
    if base == 10 && !cs.isEmpty && cs.all fun c => (Text.decimalValue? c).isSome then
      .error (.misread ("Exceeds the limit (" ++ toString Number.maxDigitsRead ++
        " digits) for integer string conversion: value has " ++ toString cs.length ++
        " digits; use sys.set_int_max_str_digits() to increase the limit"))
    else
      .error (.misread ("invalid literal for int() with base " ++ toString base ++ ": " ++
        Text.quoted (String.ofList cs)))

/-- The sign in front of a number, and the rest; a number has at least one character. -/
def signed (cs : List Char) : Except Fault (Int × List Char) :=
  match cs with
  | [] => .error .noDigits
  | '-' :: rest => .ok (-1, rest)
  | '+' :: rest => .ok (1, rest)
  | cs => .ok (1, cs)

/-- The value of parts to the base sixty. -/
def sixties (parts : List Int) : Int := parts.foldl (fun n d => 60 * n + d) 0

/-- Read an integer. -/
def integer (text : String) : Except Fault Int := do
  let (sign, cs) ← signed (text.toList.filter (· != '_'))
  match cs with
  | [] => throw .noDigits
  | ['0'] => return 0
  | '0' :: 'b' :: rest => return sign * (← wholeNumber 2 rest)
  | '0' :: 'x' :: rest => return sign * (← wholeNumber 16 rest)
  | '0' :: _ => return sign * (← wholeNumber 8 cs)
  | cs =>
    if cs.contains ':' then
      return sign * sixties (← (Text.splitOn [':'] cs).mapM (wholeNumber 10))
    else return sign * (← wholeNumber 10 cs)

/-- Read a float without underscores. -/
def realNumber (cs : List Char) : Except Fault Float :=
  match Number.readFloat? cs with
  | some x => .ok x
  | none =>
    .error (.misread ("could not convert string to float: " ++ Text.quoted (String.ofList cs)))

/-- The value of parts to the base sixty, smallest part first. -/
def realSixties (base total : Float) : List Float → Float
  | [] => total
  | d :: ds => realSixties (base * 60.0) (total + d * base) ds

/-- Read a float. -/
def real (text : String) : Except Fault Float := do
  let lowered := Text.lower (text.toList.filter (· != '_'))
  let (sign, cs) ← signed lowered
  let signed (x : Float) : Float := if sign < 0 then -x else x
  if cs == ".inf".toList then return signed (1.0 / 0.0)
  else if cs == ".nan".toList then return 0.0 / 0.0
  else if cs.contains ':' then
    return signed (realSixties 1.0 0.0 (← (Text.splitOn [':'] cs).mapM realNumber).reverse)
  else return signed (← realNumber cs)

/-- Read a truth value. -/
def truth (text : String) : Except Fault Bool :=
  let word := String.ofList (Text.lower text.toList)
  match Plain.truths.lookup word with
  | some b => .ok b
  | none => .error (.unknownWord word)

/-- The days of a month. -/
def daysIn (year month : Nat) : Nat :=
  if month = 2 then
    if (year % 4 = 0 && year % 100 != 0) || year % 400 = 0 then 29 else 28
  else if month = 4 || month = 6 || month = 9 || month = 11 then 30
  else 31

/-- A number in at least some digits. -/
def padded (width n : Nat) : String :=
  let ds := (toString n).toList
  String.ofList (List.replicate (width - ds.length) '0' ++ ds)

/-- The part of a second that at most six digits tell, as it is printed. -/
def fractionText (ds : List Char) : String :=
  let six := ds.take 6 ++ List.replicate (6 - ds.length) '0'
  if six.all (· == '0') then "" else "." ++ String.ofList six

/-- The minutes that a written time zone is ahead. -/
def zoneMinutes (cs : List Char) : Int :=
  match cs with
  | sign :: rest =>
    let hours := Number.digitsValue (rest.takeWhile Char.isDigit)
    let minutes := Number.digitsValue ((rest.dropWhile Char.isDigit).drop 1)
    let total : Int := 60 * hours + minutes
    if sign == '-' then -total else total
  | [] => 0

/-- A written time zone, as it is printed. It is less than a day ahead or behind. -/
def zoneText (cs : List Char) : Except Fault String :=
  let total := zoneMinutes cs
  if cs.isEmpty then .ok ""
  else if total.natAbs < 1440 then
    .ok ((if total < 0 then "-" else "+") ++ padded 2 (total.natAbs / 60) ++ ":" ++
      padded 2 (total.natAbs % 60))
  else
    let seconds := (60 * total).fmod 86400
    .error (.misread ("offset must be a timedelta strictly between -timedelta(hours=24) and " ++
      "timedelta(hours=24), not datetime.timedelta(days=" ++ toString (total.fdiv 1440) ++
      (if seconds = 0 then "" else ", seconds=" ++ toString seconds) ++ ")."))

/-- Read a date, as it is printed. -/
def date (text : String) : Except Fault String := do
  match Plain.readDate text.toList with
  | none => throw .noDate
  | some d =>
    let year := Number.digitsValue d.year
    let month := Number.digitsValue d.month
    let day := Number.digitsValue d.day
    let zone ← zoneText d.zone
    if year = 0 then throw (.misread "year 0 is out of range")
    if month = 0 || 12 < month then throw (.misread "month must be in 1..12")
    if day = 0 || daysIn year month < day then throw (.misread "day is out of range for month")
    let shown := padded 4 year ++ "-" ++ padded 2 month ++ "-" ++ padded 2 day
    match d.time with
    | none => return shown
    | some (hour, minute, second) =>
      let hour := Number.digitsValue hour
      let minute := Number.digitsValue minute
      let second := Number.digitsValue second
      if 23 < hour then throw (.misread "hour must be in 0..23")
      if 59 < minute then throw (.misread "minute must be in 0..59")
      if 59 < second then throw (.misread "second must be in 0..59")
      return shown ++ " " ++ padded 2 hour ++ ":" ++ padded 2 minute ++ ":" ++ padded 2 second ++
        fractionText d.fraction ++ zone

/-- The value of a letter of an encoding in sixty-four letters. -/
def letterValue? (c : Char) : Option Nat :=
  if 'A' ≤ c && c ≤ 'Z' then some (c.toNat - 'A'.toNat)
  else if 'a' ≤ c && c ≤ 'z' then some (c.toNat - 'a'.toNat + 26)
  else if c.isDigit then some (c.toNat - '0'.toNat + 52)
  else if c == '+' then some 62
  else if c == '/' then some 63
  else none

/-- The bytes of values of letters. -/
def decodeLetters : List Nat → List UInt8
  | a :: b :: c :: d :: rest =>
    let n := ((a * 64 + b) * 64 + c) * 64 + d
    (n / 65536).toUInt8 :: (n / 256).toUInt8 :: n.toUInt8 :: decodeLetters rest
  | [a, b, c] =>
    let n := (a * 64 + b) * 64 + c
    [(n / 1024).toUInt8, (n / 4).toUInt8]
  | [a, b] => [((a * 64 + b) / 16).toUInt8]
  | _ => []

/-- Read bytes that are written in sixty-four letters. -/
def bytes (text : String) (place : Place) : Except Fault (List UInt8) :=
  let cs := text.toList
  match cs.findIdx? fun c => 0x80 ≤ c.toNat with
  | some i =>
    let shown := String.ofList (Text.escapeUnprintable (cs.getD i ' '))
    .error (.problem ("failed to convert base64 data into ascii: 'ascii' codec can't encode character '"
      ++ shown ++ "' in position " ++ toString i ++ ": ordinal not in range(128)") place)
  | none =>
    let letters := (cs.takeWhile (· != '=')).filterMap letterValue?
    let padding := (cs.dropWhile (· != '=')).count '='
    let surplus := letters.length % 4
    if surplus = 1 then
      .error (.problem ("failed to decode base64 data: Invalid base64-encoded string: number of data "
        ++ "characters (" ++ toString letters.length ++ ") cannot be 1 more than a multiple of 4") place)
    else if surplus != 0 && padding < 4 - surplus then
      .error (.problem "failed to decode base64 data: Incorrect padding" place)
    else .ok (decodeLetters letters)

end Scalar

namespace Node

/-- The text of a scalar, or of the value that a mapping keeps under an equals sign. -/
def text? (n : Node) : Except Fault String :=
  match n with
  | .scalar _ text _ => .ok text
  | .mapping _ entries place =>
    match entries.find? fun e => e.1.tag == Plain.tagOf "value" with
    | some (_, .scalar _ text _) => .ok text
    | _ => .error (.problem "expected a scalar node, but found mapping" place)
  | n => .error (.problem "expected a scalar node, but found sequence" n.place)

/-- Put the entries of the mappings that a mapping merges in front of its own, as far as they go
deep. -/
def merged (fuel : Nat) (n : Node) : Except Fault (List (Node × Node)) :=
  match fuel, n with
  | 0, _ => .ok []
  | fuel + 1, .mapping _ entries _ => do
    let isMerge (e : Node × Node) : Bool := e.1.tag == Plain.tagOf "merge"
    let parts ← (entries.filter isMerge).mapM fun (_, v) =>
      match v with
      | .mapping _ _ _ => merged fuel v
      | .sequence _ items _ => do
        let lists ← items.mapM fun item =>
          match item with
          | .mapping _ _ _ => merged fuel item
          | item =>
            .error (.problem ("expected a mapping for merging, but found " ++ item.kind) item.place)
        return lists.reverse.flatten
      | v => .error (.problem
          ("expected a mapping or list of mappings for merging, but found " ++ v.kind) v.place)
    return parts.flatten ++ entries.filter fun e => !isMerge e
  | _, _ => .ok []

/-- How deep merges may go. -/
def mergeDepth : Nat := 64

/-- Whether a key is the mark of a value, which as a key is only text. -/
def asKey : Node → Node
  | .scalar tag text place =>
    .scalar (if tag == Plain.tagOf "value" then Plain.tagOf "str" else tag) text place
  | n => n

/-- Whether the value of a node is a collection, which can be no key. -/
def isCollection (n : Node) : Bool :=
  ["seq", "map", "set", "omap", "pairs"].any fun k => n.tag == Plain.tagOf k

/-- The items of ordered pairs. -/
def pairEntries (n : Node) : Except Fault (List (Node × Node)) :=
  match n with
  | .sequence _ items _ =>
    items.mapM fun item =>
      match item with
      | .mapping _ [e] _ => .ok e
      | .mapping _ es p =>
        .error (.problem ("expected a single mapping item, but found " ++ toString es.length ++ " items") p)
      | item => .error (.problem ("expected a mapping of length 1, but found " ++ item.kind) item.place)
  | n => .error (.problem ("expected a sequence, but found " ++ n.kind) n.place)

/-- The value of a node that is no collection. -/
def scalarValue (n : Node) : Except Fault Value :=
  let tag := n.tag
  if tag == Plain.tagOf "null" then n.text?.map fun _ => .null
  else if tag == Plain.tagOf "bool" then do return .bool (← Scalar.truth (← n.text?))
  else if tag == Plain.tagOf "int" then do return .int (← Scalar.integer (← n.text?))
  else if tag == Plain.tagOf "float" then do return .float (← Scalar.real (← n.text?))
  else if tag == Plain.tagOf "binary" then do return .bytes (← Scalar.bytes (← n.text?) n.place)
  else if tag == Plain.tagOf "timestamp" then do return .date (← Scalar.date (← n.text?))
  else if tag == Plain.tagOf "str" then do return .text (← n.text?)
  else
    .error (.problem ("could not determine a constructor for the tag " ++ Text.quoted tag) n.place)

/-- Look at a node from outside: a scalar must have a value. -/
def surface (n : Node) : Except Fault Unit :=
  match n with
  | .cycle _ => .ok ()
  | n => if n.isCollection then .ok () else n.scalarValue.map fun _ => ()

/-- Look at the insides of a collection, and give the collections in it. -/
def inside (n : Node) : Except Fault (List Node) := do
  if !n.isCollection then return []
  else if n.tag == Plain.tagOf "seq" then
    match n with
    | .sequence _ items _ =>
      let _ ← items.mapM surface
      return items.filter isCollection
    | n => throw (.problem ("expected a sequence node, but found " ++ n.kind) n.place)
  else if n.tag == Plain.tagOf "omap" || n.tag == Plain.tagOf "pairs" then
    let entries ← n.pairEntries
    let _ ← entries.mapM fun (k, v) => do
      surface k
      surface v
    return (entries.flatMap fun (k, v) => [k, v]).filter isCollection
  else
    match n with
    | .mapping _ _ _ =>
      let entries ← n.merged mergeDepth
      let _ ← entries.mapM fun (k, v) => do
        surface k.asKey
        if k.isCollection then throw (.problem "found unhashable key" k.place)
        surface v
      return (entries.map (·.2)).filter isCollection
    | n => throw (.problem ("expected a mapping node, but found " ++ n.kind) n.place)

/-- Look at collections level by level. -/
def sound (fuel : Nat) (level : List Node) : Except Fault Unit :=
  match fuel, level with
  | 0, _ | _, [] => .ok ()
  | fuel + 1, level => do
    let deeper ← level.mapM inside
    sound fuel deeper.flatten

/-- The value of a node that was looked at; what has none stands for nothing. -/
def value (fuel : Nat) (n : Node) : Value :=
  match fuel, n with
  | 0, _ => .null
  | fuel + 1, n =>
    if !n.isCollection then
      match n with
      | .cycle _ => .null
      | n => n.scalarValue.toOption.getD .null
    else if n.tag == Plain.tagOf "omap" || n.tag == Plain.tagOf "pairs" then
      .pairs ((n.pairEntries.toOption.getD []).map fun (k, v) => (value fuel k, value fuel v))
    else
      match n with
      | .sequence _ items _ => .list (items.map (value fuel))
      | .mapping tag _ _ =>
        let entries := ((n.merged mergeDepth).toOption.getD []).map fun (k, v) =>
          (value fuel k.asKey, value fuel v)
        let distinct := entries.foldl (fun es (k, v) => Value.put k v es) []
        if tag == Plain.tagOf "set" then .set (distinct.map (·.1)) else .map distinct
      | _ => .null

end Node

/-- How deep collections may be nested. -/
def maxDepth : Nat := 1000

/-- The value of a text with at most one document; none stands for nothing. -/
def Value.ofChars (cs : List Char) : Except Fault Value := do
  match ← Node.ofChars? cs with
  | none => return .null
  | some n =>
    n.surface
    Node.sound maxDepth [n]
    return n.value maxDepth

end TypeWeave.Yaml
