import TypeWeave.Number.Layout
import TypeWeave.Template.Percent
import TypeWeave.Template.Signature

/-!
# Layouts

How a field of a format lays its value out: fill and alignment, sign, width, grouping, precision and
a letter for the way to write numbers.
-/

namespace TypeWeave.Template

open Eval

/-- A requested layout. -/
structure Layout where
  fill : Char := ' '
  align : Option Char := none
  sign : Option Char := none
  /-- A number that rounds to zero loses its sign. -/
  unsignedZero : Bool := false
  alternate : Bool := false
  width : Nat := 0
  separator : Option Char := none
  precision : Option Nat := none
  kind : Option Char := none

namespace Layout

/-- The characters that align. -/
def isAlign (c : Char) : Bool := c == '<' || c == '>' || c == '=' || c == '^'

/-- A fault of a layout. -/
def refused {α : Type} (message : String) : Except Fault α := .error ⟨.value, message⟩

/-- A letter as messages show it. -/
def shownKind (k : Char) : String :=
  if 0x20 < k.toNat && k.toNat < 0x80 then k.toString
  else "\\x" ++ String.ofList (Number.digitsIn 16 k.toNat)

/-- A number in a layout; none means no digits. -/
def measure (cs : List Char) : Except Fault (Option Nat × List Char) :=
  let (n, rest) := Percent.digits cs
  if rest.length = cs.length then .ok (none, cs)
  else if maxCount < n then refused "Too many decimal digits in format string"
  else .ok (some n, rest)

/-- Fill and alignment. -/
def readAlign (l : Layout) (cs : List Char) : Layout × Bool × List Char :=
  match cs with
  | f :: a :: rest =>
    if isAlign a then ({ l with fill := f, align := some a }, true, rest)
    else if isAlign f then ({ l with align := some f }, false, a :: rest)
    else (l, false, cs)
  | [a] => if isAlign a then ({ l with align := some a }, false, []) else (l, false, cs)
  | [] => (l, false, cs)

/-- Sign, treatment of zero, and the mark for the alternate way. -/
def readMarks (l : Layout) (cs : List Char) : Layout × List Char :=
  let (l, cs) := match cs with
    | c :: rest => if "+- ".toList.contains c then ({ l with sign := some c }, rest) else (l, cs)
    | [] => (l, cs)
  let (l, cs) := match cs with
    | 'z' :: rest => ({ l with unsignedZero := true }, rest)
    | _ => (l, cs)
  match cs with
  | '#' :: rest => ({ l with alternate := true }, rest)
  | _ => (l, cs)

/-- The separator of groups. -/
def readSeparator (l : Layout) (cs : List Char) : Except Fault (Layout × List Char) :=
  match cs with
  | ',' :: '_' :: _ | '_' :: ',' :: _ => refused "Cannot specify both ',' and '_'."
  | ',' :: rest => .ok ({ l with separator := some ',' }, rest)
  | '_' :: rest => .ok ({ l with separator := some '_' }, rest)
  | _ => .ok (l, cs)

/-- The precision. -/
def readPrecision (l : Layout) (cs : List Char) : Except Fault (Layout × List Char) :=
  match cs with
  | '.' :: rest => do
    match ← measure rest with
    | (none, _) => refused "Format specifier missing precision"
    | (some p, rest) => .ok ({ l with precision := some p }, rest)
  | _ => .ok (l, cs)

/-- Whether groups suit the way to write a number. -/
def checkSeparator (l : Layout) (kind : Option Char) : Except Fault Unit :=
  match l.separator, kind with
  | some s, some k =>
    if "deEfFgG%".toList.contains k || (s == '_' && "boxX".toList.contains k) then .ok ()
    else refused ("Cannot specify '" ++ s.toString ++ "' with '" ++ shownKind k ++ "'.")
  | _, _ => .ok ()

/-- Read a layout for a value of a type, which has a kind of its own when none is given. Zeros in
front of the width fill numbers behind their sign. -/
def read (typeName : String) (own : Option Char) (cs : List Char) : Except Fault Layout := do
  let (l, filled, rest) := readAlign {} cs
  let (l, rest) := readMarks l rest
  let (l, rest) := match filled, rest with
    | false, '0' :: after =>
      let align := if l.align.isNone && own != some 's' then some '=' else l.align
      ({ l with fill := '0', align := align }, after)
    | _, rest => (l, rest)
  let (width, rest) ← measure rest
  let (l, rest) ← readSeparator { l with width := width.getD 0 } rest
  let (l, rest) ← readPrecision l rest
  let l ← match rest with
    | [] => .ok l
    | [k] => .ok { l with kind := some k }
    | _ => refused ("Invalid format specifier '" ++ String.ofList cs ++ "' for object of type '" ++
        typeName ++ "'")
  checkSeparator l (l.kind.or own)
  return l

/-- Fill a text to the width. -/
def place (l : Layout) (normal : Char) (sign body : List Char) : List Char :=
  let gap := l.width - (sign.length + body.length)
  let fill (n : Nat) : List Char := List.replicate n l.fill
  match l.align.getD normal with
  | '<' => sign ++ body ++ fill gap
  | '^' => fill (gap / 2) ++ sign ++ body ++ fill (gap - gap / 2)
  | '=' => sign ++ fill gap ++ body
  | _ => fill gap ++ sign ++ body

/-- The sign in front of digits. -/
def signText (l : Layout) (negative : Bool) : List Char :=
  if negative then ['-']
  else
    match l.sign with
    | some '+' => ['+']
    | some ' ' => [' ']
    | _ => []

/-- Lay out a number: its whole digits, which are grouped, and what follows them. Zeros that fill
it behind its sign are grouped too. -/
def number (l : Layout) (size : Nat) (sign body : List Char) : List Char :=
  let isWhole (c : Char) : Bool := c.isAlphanum
  let rest := body.dropWhile isWhole
  match l.separator with
  | none => l.place '>' sign body
  | some s =>
    let least := if l.fill == '0' && l.align == some '=' then
      l.width - (sign.length + rest.length) else 0
    l.place '>' sign (Number.groupPadded s size least (body.takeWhile isWhole) ++ rest)

/-- The fault of a layout that does not suit a type. -/
def unsuited {α : Type} (k : Char) (typeName : String) : Except Fault α :=
  refused ("Unknown format code '" ++ shownKind k ++ "' for object of type '" ++ typeName ++ "'")

/-- Lay out a text. -/
def text (l : Layout) (s : String) : Except Fault (List Char) :=
  let notAllowed (what : String) : Except Fault (List Char) :=
    refused (what ++ " not allowed in string format specifier")
  match l.kind with
  | none | some 's' =>
    match l.sign with
    | some ' ' => notAllowed "Space"
    | some _ => notAllowed "Sign"
    | none =>
      if l.unsignedZero then notAllowed "Negative zero coercion (z)"
      else if l.alternate then notAllowed "Alternate form (#)"
      else if l.align == some '=' then notAllowed "'=' alignment"
      else
        let cs := s.toList
        .ok (l.place '<' [] (match l.precision with
          | some p => cs.take p
          | none => cs))
  | some k => unsuited k "str"

/-- Lay out a float. -/
def float (l : Layout) (typeName : String) (x : Float) : Except Fault (List Char) :=
  let finish (written : Bool × List Char) : Except Fault (List Char) :=
    let isZero := written.2.all fun c => !c.isDigit || c == '0'
    let negative := written.1 && !(l.unsignedZero && isZero)
    .ok (l.number 3 (l.signText negative) written.2)
  let styled (style : Number.FloatStyle) (x : Float) : Bool × List Char :=
    Number.floatText style l.alternate (l.precision.getD 6) x
  let cased (k : Char) (written : Bool × List Char) : Bool × List Char :=
    (written.1, if k.isUpper then written.2.map Char.toUpper else written.2)
  match l.kind with
  | none =>
    match l.precision with
    | none =>
      finish (match (Number.printed.text x).toList with
        | '-' :: rest => (true, rest)
        | s => (false, s))
    | some _ => finish (styled .pointed x)
  | some k =>
    match k.toLower with
    | 'f' => finish (cased k (styled .fixed x))
    | 'e' => finish (cased k (styled .exponent x))
    | 'g' => finish (cased k (styled .general x))
    | 'n' => if k == 'n' then finish (styled .general x) else unsuited k typeName
    | '%' =>
      let (negative, body) := styled .fixed (x * 100)
      finish (negative, body ++ ['%'])
    | _ => unsuited k typeName

/-- The character of a number. -/
def character (l : Layout) (i : Int) : Except Fault (List Char) :=
  if l.sign.isSome then refused "Sign not allowed with integer format specifier 'c'"
  else if l.alternate then
    refused "Alternate form (#) not allowed with integer format specifier 'c'"
  else if maxCount < i || i < -maxCount - 1 then
    .error ⟨.overflow, "Python int too large to convert to C long"⟩
  else if 0 ≤ i && i < 0x110000 then .ok (l.place '>' [] [Char.ofNat i.toNat])
  else .error ⟨.overflow, "%c arg not in range(0x110000)"⟩

/-- Lay out an integer. -/
def integer (l : Layout) (typeName : String) (i : Int) : Except Fault (List Char) :=
  let notAllowed (what : String) : Except Fault (List Char) :=
    refused (what ++ " not allowed in integer format specifier")
  let whole (write : Unit → Except Fault (List Char)) : Except Fault (List Char) :=
    if l.precision.isSome then notAllowed "Precision"
    else if l.unsignedZero then notAllowed "Negative zero coercion (z)"
    else write ()
  let based (base : Nat) (mark : List Char) (size : Nat) (upper : Bool) : Except Fault (List Char) :=
    whole fun _ =>
      let ds := Number.digitsIn base i.natAbs
      let ds := if upper then ds.map Char.toUpper else ds
      .ok (l.number size (l.signText (i < 0) ++ (if l.alternate then mark else [])) ds)
  match l.kind with
  | none | some 'd' | some 'n' => do
    let _ ← integerText i
    based 10 [] 3 false
  | some 'b' => based 2 ['0', 'b'] 4 false
  | some 'o' => based 8 ['0', 'o'] 4 false
  | some 'x' => based 16 ['0', 'x'] 4 false
  | some 'X' => based 16 ['0', 'X'] 4 true
  | some 'c' => whole fun _ => l.character i
  | some k =>
    if "eEfFgG%".toList.contains k then
      match Number.ofInt? i with
      | some x => l.float typeName x
      | none => .error ⟨.overflow, "int too large to convert to float"⟩
    else unsuited k typeName

/-- Lay out a value. Values other than texts and numbers have no layouts. -/
def ofValue (spec : List Char) (v : Value) : Eval (List Char) := do
  let liftFault {α : Type} (r : Except Fault α) : Eval α := match r with
    | .ok a => return a
    | .error f => throw f
  if spec.isEmpty then return (← display v).toList
  match v with
  | .text s _ => liftFault (do (← read "str" (some 's') spec).text s)
  | .int i => liftFault (do (← read "int" (some 'd') spec).integer "int" i)
  | .bool b => liftFault (do (← read "bool" (some 'd') spec).integer "bool" (if b then 1 else 0))
  | .float x => liftFault (do (← read "float" none spec).float "float" x)
  | .undefined message _ => fault .undefined message
  | v => typeFault ("unsupported format string passed to " ++ v.typeName ++ ".__format__")

end Layout

end TypeWeave.Template
