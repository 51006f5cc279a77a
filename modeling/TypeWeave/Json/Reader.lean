import TypeWeave.Json.Value
import TypeWeave.Number.Reading
import TypeWeave.Text.Search

/-!
# Reading JSON

A reader of JSON values that returns what follows each of them. A number without fraction and
exponent is an integer; the names of infinities and of what is no number are read too. When a key is
written twice the last value wins.
-/

namespace TypeWeave.Json.Reader

/-- White space between tokens. -/
def isSpace (c : Char) : Bool := c == ' ' || c == '\t' || c == '\n' || c == '\r'

/-- Skip white space. -/
def skip (cs : List Char) : List Char := cs.dropWhile isSpace

/-- Four hexadecimal digits. -/
def codeUnit? (cs : List Char) : Option (Nat × List Char) :=
  match cs with
  | a :: b :: c :: d :: rest => do
    let digits ← [a, b, c, d].mapM fun ch => do
      let v ← Number.digitValue? ch
      if v < 16 && ch.toNat < 128 then some v else none
    some (digits.foldl (fun acc v => 16 * acc + v) 0, rest)
  | _ => none

/-- The character of an escape by code units; half of a pair stands for an unknown character. -/
def escapedUnit? (cs : List Char) : Option (Char × List Char) := do
  let (high, rest) ← codeUnit? cs
  if 0xD800 ≤ high && high < 0xDC00 then
    match rest with
    | '\\' :: 'u' :: more =>
      match codeUnit? more with
      | some (low, after) =>
        if 0xDC00 ≤ low && low < 0xE000 then
          some (Char.ofNat (0x10000 + (high - 0xD800) * 0x400 + (low - 0xDC00)), after)
        else some ('\uFFFD', rest)
      | none => some ('\uFFFD', rest)
    | _ => some ('\uFFFD', rest)
  else if 0xDC00 ≤ high && high < 0xE000 then some ('\uFFFD', rest)
  else some (Char.ofNat high, rest)

/-- The character that an escape of one letter stands for. -/
def escaped? : Char → Option Char
  | '"' => some '"'
  | '\\' => some '\\'
  | '/' => some '/'
  | 'b' => some '\x08'
  | 'f' => some '\x0c'
  | 'n' => some '\n'
  | 'r' => some '\r'
  | 't' => some '\t'
  | _ => none

/-- The rest of a string behind its opening quote. -/
def stringRest (fuel : Nat) (acc : List Char) (cs : List Char) : Option (String × List Char) :=
  match fuel, cs with
  | 0, _ => none
  | _, [] => none
  | _, '"' :: rest => some (String.ofList acc.reverse, rest)
  | fuel + 1, '\\' :: 'u' :: rest => do
    let (c, rest) ← escapedUnit? rest
    stringRest fuel (c :: acc) rest
  | fuel + 1, '\\' :: e :: rest => do stringRest fuel ((← escaped? e) :: acc) rest
  | fuel + 1, c :: rest => if c.toNat < 0x20 then none else stringRest fuel (c :: acc) rest

/-- ASCII digits. -/
def digits (cs : List Char) : List Char × List Char := cs.span Char.isDigit

/-- The fraction of a number, if it has one. -/
def fraction (cs : List Char) : List Char × List Char :=
  match cs with
  | '.' :: rest =>
    match digits rest with
    | ([], _) => ([], cs)
    | r => r
  | _ => ([], cs)

/-- The exponent of a number, if it has one. -/
def exponent? (cs : List Char) : Option (Int × List Char) :=
  match cs with
  | e :: rest =>
    if e == 'e' || e == 'E' then
      let (negative, rest) := Number.sign rest
      match digits rest with
      | ([], _) => none
      | (ds, rest) =>
        let n : Int := Number.digitsValue ds
        some (if negative then -n else n, rest)
    else none
  | [] => none

/-- A number. -/
def number? (cs : List Char) : Option (Value × List Char) :=
  let (negative, body) := match cs with
    | '-' :: rest => (true, rest)
    | _ => (false, cs)
  let (whole, rest) := match body with
    | '0' :: rest => (['0'], rest)
    | _ => digits body
  if whole.isEmpty then none
  else
    let (places, rest) := fraction rest
    let value := Number.digitsValue (whole ++ places)
    match places, exponent? rest with
    | [], none =>
      if Number.maxDigitsRead < whole.length then none
      else some (.int (if negative then -(value : Int) else value), rest)
    | places, some (e, rest) =>
      some (.float (Number.readDecimal negative value (e - places.length)), rest)
    | places, none => some (.float (Number.readDecimal negative value (-places.length)), rest)

/-- The values that are written as words. -/
def words : List (String × Value) :=
  [("null", .null), ("true", .bool true), ("false", .bool false),
    ("NaN", .float (Float.ofBits 0x7FF8000000000000)), ("Infinity", .float (1.0 / 0.0)),
    ("-Infinity", .float (-1.0 / 0.0))]

/-- A value that is written as a word. -/
def word? (cs : List Char) : Option (Value × List Char) :=
  words.findSome? fun (w, v) => (Text.dropPrefix? w.toList cs).map fun rest => (v, rest)

/-- Put an entry into an object; a key keeps its place. -/
def put (entries : List (String × Value)) (k : String) (v : Value) : List (String × Value) :=
  if (entries.lookup k).isSome then entries.map fun e => if e.1 == k then (k, v) else e
  else entries ++ [(k, v)]

/-- An object whose keys may repeat. -/
def objectOf (entries : List (String × Value)) : Value :=
  if (entries.map (·.1)).eraseDups.length = entries.length then .object entries
  else .object (entries.foldl (fun acc e => put acc e.1 e.2) [])

mutual

/-- A value at the start of a text. -/
def value? (fuel : Nat) (cs : List Char) : Option (Value × List Char) :=
  match fuel with
  | 0 => none
  | fuel + 1 =>
    match skip cs with
    | '"' :: rest => (stringRest (rest.length + 1) [] rest).map fun (s, rest) => (.text s, rest)
    | '[' :: rest =>
      match skip rest with
      | ']' :: rest => some (.list [], rest)
      | rest => do
        let (vs, rest) ← items? fuel rest
        some (.list vs, rest)
    | '\x7b' :: rest =>
      match skip rest with
      | '\x7d' :: rest => some (.object [], rest)
      | rest => do
        let (es, rest) ← entries? fuel rest
        some (objectOf es, rest)
    | cs => (word? cs).orElse fun _ => number? cs

/-- The items of a list up to its end. -/
def items? (fuel : Nat) (cs : List Char) : Option (List Value × List Char) :=
  match fuel with
  | 0 => none
  | fuel + 1 => do
    let (v, rest) ← value? fuel cs
    match skip rest with
    | ',' :: rest =>
      let (vs, rest) ← items? fuel rest
      some (v :: vs, rest)
    | ']' :: rest => some ([v], rest)
    | _ => none

/-- The entries of an object up to its end. -/
def entries? (fuel : Nat) (cs : List Char) : Option (List (String × Value) × List Char) :=
  match fuel with
  | 0 => none
  | fuel + 1 =>
    match skip cs with
    | '"' :: rest => do
      let (k, rest) ← stringRest (rest.length + 1) [] rest
      match skip rest with
      | ':' :: rest => do
        let (v, rest) ← value? fuel rest
        match skip rest with
        | ',' :: rest =>
          let (es, rest) ← entries? fuel rest
          some ((k, v) :: es, rest)
        | '\x7d' :: rest => some ([(k, v)], rest)
        | _ => none
      | _ => none
    | _ => none

end

/-- The value that a whole text writes. -/
def read? (cs : List Char) : Option Value := do
  let (v, rest) ← value? (cs.length + 1) cs
  if (skip rest).isEmpty then some v else none

end TypeWeave.Json.Reader
