import TypeWeave.Number.Layout
import TypeWeave.Template.Printing

/-!
# Percent formats

A text with `%` directives takes its arguments from a tuple, from a dictionary by name, or is given
a single value.
-/

namespace TypeWeave.Template.Percent

open Eval

/-- One directive: the name of its argument, its flags, width, precision and conversion. A width or
precision of `*` comes from the arguments. -/
structure Directive where
  key : Option String
  flags : List Char
  width : Option (Option Nat)
  precision : Option (Option Nat)
  conversion : Char

/-- Read digits. -/
def digits (cs : List Char) : Nat × List Char :=
  ((cs.takeWhile Char.isDigit).foldl (fun acc c => 10 * acc + (c.toNat - '0'.toNat)) 0,
    cs.dropWhile Char.isDigit)

/-- The name in brackets, which may hold balanced brackets. -/
def keyFrom (depth : Nat) : List Char → Option (List Char × List Char)
  | [] => none
  | ')' :: cs =>
    match depth with
    | 0 => some ([], cs)
    | depth + 1 => (keyFrom depth cs).map fun (k, rest) => (')' :: k, rest)
  | '(' :: cs => (keyFrom (depth + 1) cs).map fun (k, rest) => ('(' :: k, rest)
  | c :: cs => (keyFrom depth cs).map fun (k, rest) => (c :: k, rest)

/-- Read a number or a star. -/
def measure? (cs : List Char) : Option (Option Nat) × List Char :=
  match cs with
  | '*' :: cs => (some none, cs)
  | c :: _ => if c.isDigit then let (n, rest) := digits cs; (some (some n), rest) else (none, cs)
  | [] => (none, [])

/-- Read the directive after a percent sign. -/
def directive? (cs : List Char) : Except String (Directive × List Char) := do
  let (key, cs) ← match cs with
    | '(' :: rest =>
      match keyFrom 0 rest with
      | some (k, rest) => .ok (some (String.ofList k), rest)
      | none => .error "incomplete format key"
    | _ => .ok (none, cs)
  let isFlag (c : Char) : Bool := "-+ #0".toList.contains c
  let flags := cs.takeWhile isFlag
  let (width, cs) := measure? (cs.dropWhile isFlag)
  let (precision, cs) := match cs with
    | '.' :: rest =>
      match measure? rest with
      | (none, rest) => (some (some 0), rest)
      | (some p, rest) => (some p, rest)
    | _ => (none, cs)
  let cs := match cs with
    | 'h' :: rest | 'l' :: rest | 'L' :: rest => rest
    | _ => cs
  match cs with
  | [] => .error "incomplete format"
  | c :: rest => .ok (⟨key, flags, width, precision, c⟩, rest)

/-- The arguments that are left: those of a tuple, a single value, or a value taken by name. -/
structure Supply where
  items : List Value
  single : Option Value
  named : Option Value
  used : Bool

/-- What a format is given. -/
def Supply.of : Value → Supply
  | .tuple items => ⟨items, none, none, false⟩
  | v@(.dict _) => ⟨[], some v, some v, false⟩
  | v@(.list _) | v@(.view ..) | v@(.range ..) | v@(.undefined ..) => ⟨[], some v, some v, false⟩
  | v => ⟨[], some v, none, false⟩

/-- Take the next argument. -/
def Supply.next (s : Supply) : Eval (Value × Supply) :=
  match s.items, s.single with
  | v :: items, _ => return (v, { s with items := items })
  | [], some v =>
    if s.used then typeFault "not enough arguments for format string"
    else return (v, { s with used := true })
  | [], none => typeFault "not enough arguments for format string"

/-- The sign in front of digits. -/
def signText (flags : List Char) (negative : Bool) : List Char :=
  if negative then ['-']
  else if flags.contains '+' then ['+']
  else if flags.contains ' ' then [' ']
  else []

/-- Fill a number to a width, with zeros behind its sign or with blanks. -/
def fillNumber (flags : List Char) (width : Nat) (sign body : List Char) : List Char :=
  let gap := width - (sign.length + body.length)
  if flags.contains '-' then sign ++ body ++ List.replicate gap ' '
  else if flags.contains '0' then sign ++ List.replicate gap '0' ++ body
  else List.replicate gap ' ' ++ sign ++ body

/-- Fill a text to a width with blanks. -/
def fillText (flags : List Char) (width : Nat) (body : List Char) : List Char :=
  let gap := width - body.length
  if flags.contains '-' then body ++ List.replicate gap ' ' else List.replicate gap ' ' ++ body

/-- The integer for a conversion. -/
def integerFor (conversion : Char) (v : Value) : Eval Int :=
  match v.int?, v with
  | some i, _ => return i
  | none, .float x =>
    if "diu".toList.contains conversion then
      match Number.truncate? x with
      | some i => return i
      | none =>
        if x != x then fault .value "cannot convert float NaN to integer"
        else fault .overflow "cannot convert float infinity to integer"
    else typeFault ("%" ++ conversion.toString ++ " format: an integer is required, not float")
  | none, .undefined message _ => fault .undefined message
  | none, v =>
    if "diu".toList.contains conversion then
      typeFault ("%" ++ conversion.toString ++ " format: a real number is required, not " ++
        v.typeName)
    else
      typeFault ("%" ++ conversion.toString ++ " format: an integer is required, not " ++
        v.typeName)

/-- The float for a conversion. -/
def floatFor (v : Value) : Eval Float :=
  match v, v.int? with
  | .float x, _ => return x
  | _, some i =>
    match Number.ofInt? i with
    | some x => return x
    | none => fault .overflow "int too large to convert to float"
  | .undefined message _, _ => fault .undefined message
  | v, none => typeFault ("must be real number, not " ++ v.typeName)

/-- The text of an integer that has one. -/
def writtenInteger (i : Int) : Eval String :=
  match integerText i with
  | .ok s => return s
  | .error f => throw f

/-- Lay out an integer. -/
def integerLayout (d : Directive) (width : Nat) (precision : Option Nat) (i : Int) : List Char :=
  let base := match d.conversion with
    | 'x' | 'X' => 16
    | 'o' => 8
    | _ => 10
  let ds := Number.digitsIn base i.natAbs
  let ds := List.replicate (precision.getD 0 - ds.length) '0' ++ ds
  let ds := if d.conversion == 'X' then ds.map Char.toUpper else ds
  let mark : List Char :=
    if d.flags.contains '#' && base != 10 then ['0', d.conversion] else []
  fillNumber d.flags width (signText d.flags (i < 0) ++ mark) ds

/-- Lay out a float. -/
def floatLayout (d : Directive) (width : Nat) (precision : Option Nat) (x : Float) : List Char :=
  let style := match d.conversion.toLower with
    | 'f' => Number.FloatStyle.fixed
    | 'e' => .exponent
    | _ => .general
  let (negative, body) := Number.floatText style (d.flags.contains '#') (precision.getD 6) x
  let body := if d.conversion.isUpper then body.map Char.toUpper else body
  fillNumber d.flags width (signText d.flags negative) body

/-- The character for a conversion. -/
def characterFor (v : Value) : Eval (List Char) :=
  match v, v.int? with
  | .text s _, _ =>
    if s.length = 1 then return s.toList else typeFault "%c requires int or char"
  | _, some i =>
    if 0 ≤ i && i < 0x110000 then return [Char.ofNat i.toNat]
    else fault .overflow "%c arg not in range(0x110000)"
  | _, none => typeFault "%c requires int or char"

/-- Escape the characters outside ASCII. -/
def asciiOnly (s : String) : String :=
  String.ofList (s.toList.flatMap fun c =>
    if c.toNat < 0x80 then [c] else Text.escapeUnprintable c)

/-- What a width or a precision is called, its largest value, and the name of the range that one from
the arguments is in. -/
structure Measure where
  name : String
  largest : Int
  range : String

/-- The width of a directive. -/
def Measure.width : Measure := ⟨"width", maxCount, "C ssize_t"⟩

/-- The precision of a directive. -/
def Measure.precision : Measure := ⟨"precision", maxSmallCount, "C int"⟩

/-- A width or precision, from the directive or from the arguments. -/
def measured (kind : Measure) (m : Option (Option Nat)) (s : Supply) :
    Eval (Option Int × Supply) := do
  let (n, s) ← match m with
    | none => return (none, s)
    | some (some n) =>
      if kind.largest < n then fault .value (kind.name ++ " too big")
      pure ((n : Int), s)
    | some none =>
      let (v, s) ← s.next
      match v.int? with
      | some i =>
        if kind.largest < i || i < -kind.largest - 1 then
          fault .overflow ("Python int too large to convert to " ++ kind.range)
        pure (i, s)
      | none => typeFault "* wants int"
  if maxRoom < n.natAbs then fault .memory ""
  return (some n, s)

/-- The value that a directive formats. -/
def argument (lookup : Value → Value → Eval Value) (d : Directive) (s : Supply) :
    Eval (Value × Supply) := do
  match d.key, s.named with
  | some k, some v => return (← lookup v (.ofString k), { s with used := true })
  | some _, none => typeFault "format requires a mapping"
  | none, _ => s.next

/-- Format one directive. -/
def expand (lookup : Value → Value → Eval Value) (d : Directive) (place : Nat) (s : Supply) :
    Eval (List Char × Supply) := do
  let (width, s) ← measured .width d.width s
  let (precision, s) ← measured .precision d.precision s
  let d := match width with
    | some (.negSucc _) => { d with flags := '-' :: d.flags }
    | _ => d
  let width := (width.map Int.natAbs).getD 0
  let precision := precision.map Int.toNat
  let (v, s) ← argument lookup d s
  let cut (t : String) : List Char := match precision with
    | some p => t.toList.take p
    | none => t.toList
  match d.conversion with
  | 's' => return (fillText d.flags width (cut (← display v)), s)
  | 'r' => return (fillText d.flags width (cut (← inspect v)), s)
  | 'a' => return (fillText d.flags width (cut (asciiOnly (← inspect v))), s)
  | 'c' => return (fillText d.flags width (← characterFor v), s)
  | 'd' | 'i' | 'u' =>
    let i ← integerFor d.conversion v
    let _ ← writtenInteger i
    return (integerLayout d width precision i, s)
  | 'o' | 'x' | 'X' => return (integerLayout d width precision (← integerFor d.conversion v), s)
  | 'e' | 'E' | 'f' | 'F' | 'g' | 'G' => return (floatLayout d width precision (← floatFor v), s)
  | c =>
    fault .value ("unsupported format character '" ++ c.toString ++ "' (0x" ++
      String.ofList (Number.digitsIn 16 c.toNat) ++ ") at index " ++ toString place)

/-- Format the rest of a text, with `fuel` bounding its characters. -/
def formatFrom (lookup : Value → Value → Eval Value) (fuel place : Nat) (cs : List Char)
    (s : Supply) : Eval (List Char) :=
  match fuel, cs with
  | 0, _ => return []
  | _, [] =>
    if !s.items.isEmpty || (s.single.isSome && s.named.isNone && !s.used) then
      typeFault "not all arguments converted during string formatting"
    else return []
  | fuel + 1, '%' :: '%' :: cs => do return '%' :: (← formatFrom lookup fuel (place + 2) cs s)
  | fuel + 1, '%' :: cs => do
    match directive? cs with
    | .error message => fault .value message
    | .ok (d, rest) =>
      let after := place + 1 + (cs.length - rest.length)
      let (out, s) ← expand lookup d (after - 1) s
      return out ++ (← formatFrom lookup fuel after rest s)
  | fuel + 1, c :: cs => do return c :: (← formatFrom lookup fuel (place + 1) cs s)

/-- Format a text; `lookup` finds a named argument. -/
def format (lookup : Value → Value → Eval Value) (template : String) (arguments : Value) :
    Eval String := do
  let cs := template.toList
  return String.ofList (← formatFrom lookup (cs.length + 1) 0 cs (Supply.of arguments))

end TypeWeave.Template.Percent
