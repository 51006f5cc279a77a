import TypeWeave.Number.Decimal
import TypeWeave.Text.Blank
import TypeWeave.Text.Category

/-!
# Reading numbers

Digits may be parted by single underscores. A number that stands for itself may have blanks around
it and a sign; an integer may be written in any base up to 36 and a float may be infinite or not a
number.
-/

namespace TypeWeave.Number

/-- A decimal digit of any script. -/
def isDecimalDigit (c : Char) : Bool := (Text.decimalValue? c).isSome

/-- Digits of a class in groups joined by single underscores, without the underscores. -/
def digitGroups (p : Char → Bool) (cs : List Char) : List Char × List Char :=
  match cs with
  | '_' :: c :: rest =>
    if p c then
      let (ds, rest) := digitGroups p rest
      (c :: ds, rest)
    else ([], cs)
  | c :: rest =>
    if p c then
      let (ds, rest) := digitGroups p rest
      (c :: ds, rest)
    else ([], cs)
  | [] => ([], [])

/-- Digits with single underscores between them, starting with a digit. -/
def groupedDigits? (cs : List Char) : Option (List Char × List Char) :=
  match cs with
  | c :: _ => if isDecimalDigit c then some (digitGroups isDecimalDigit cs) else none
  | [] => none

/-- The number that decimal digits write. -/
def digitsValue (ds : List Char) : Nat :=
  ds.foldl (fun acc d => 10 * acc + (Text.decimalValue? d).getD 0) 0

/-- A sign, which may be left out, and what follows it. -/
def sign (cs : List Char) : Bool × List Char :=
  match cs with
  | '-' :: r => (true, r)
  | '+' :: r => (false, r)
  | r => (false, r)

/-- An exponent at the start of a text. -/
def exponent? (cs : List Char) : Option (Int × List Char) :=
  match cs with
  | e :: rest =>
    if e == 'e' || e == 'E' then
      let (negative, rest) := sign rest
      (groupedDigits? rest).map fun (ds, rest) =>
        ((if negative then - (digitsValue ds : Int) else digitsValue ds), rest)
    else none
  | [] => none

/-- The value of a digit in bases up to 36. -/
def digitValue? (c : Char) : Option Nat :=
  match Text.decimalValue? c with
  | some d => some d
  | none =>
    if 'a' ≤ c && c ≤ 'z' then some (c.toNat - 'a'.toNat + 10)
    else if 'A' ≤ c && c ≤ 'Z' then some (c.toNat - 'A'.toNat + 10)
    else none

/-- The base that a mark after a zero stands for. -/
def markedBase? : Char → Option Nat
  | 'x' | 'X' => some 16
  | 'o' | 'O' => some 8
  | 'b' | 'B' => some 2
  | _ => none

/-- The most digits of an integer that is read; in a base that is a power of two there is no limit. -/
def maxDigitsRead : Nat := 4300

/-- Whether a base is a power of two. -/
def isPowerOfTwo (base : Nat) : Bool := [2, 4, 8, 16, 32].contains base

/-- The digits of an integer in a base, which take the whole text. -/
def wholeDigits? (base : Nat) (cs : List Char) : Option Nat :=
  let isDigitOf (c : Char) : Bool := match digitValue? c with
    | some d => d < base
    | none => false
  match cs with
  | c :: _ =>
    if isDigitOf c then
      match digitGroups isDigitOf cs with
      | (ds, []) =>
        if maxDigitsRead < ds.length && !isPowerOfTwo base then none
        else some (ds.foldl (fun acc d => base * acc + (digitValue? d).getD 0) 0)
      | _ => none
    else none
  | [] => none

/-- The magnitude of an integer; base 0 means that a mark tells the base. -/
def magnitude? (base : Nat) (cs : List Char) : Option Nat :=
  let marked := match cs with
    | '0' :: m :: rest =>
      match markedBase? m with
      | some b =>
        if base == 0 || base == b then
          some (b, match rest with
            | '_' :: r => r
            | r => r)
        else none
      | none => none
    | _ => none
  match marked with
  | some (b, rest) => wholeDigits? b rest
  | none =>
    if base == 0 then
      match wholeDigits? 10 cs with
      | some n => if cs.head? == some '0' && n != 0 then none else some n
      | none => none
    else wholeDigits? base cs

/-- The integer that a whole text writes in a base. -/
def readInt? (base : Nat) (cs : List Char) : Option Int :=
  if base == 1 || 36 < base then none
  else
    let (negative, cs) := sign (Text.stripBlank cs)
    (magnitude? base cs).map fun n => if negative then -(n : Int) else n

/-- The magnitude of a finite float. -/
def readFinite? (negative : Bool) (cs : List Char) : Option Float :=
  let (whole, rest) := (groupedDigits? cs).getD ([], cs)
  let (fraction, rest) := match rest with
    | '.' :: r => (groupedDigits? r).getD ([], r)
    | r => ([], r)
  if whole.isEmpty && fraction.isEmpty then none
  else
    let digits := digitsValue (whole ++ fraction)
    match rest, exponent? rest with
    | [], _ => some (readDecimal negative digits (-fraction.length))
    | _, some (e, []) => some (readDecimal negative digits (e - fraction.length))
    | _, _ => none

/-- The float that a whole text writes. -/
def readFloat? (cs : List Char) : Option Float :=
  let (negative, cs) := sign (Text.stripBlank cs)
  let signed (x : Float) : Float := if negative then -x else x
  match String.ofList (cs.map Char.toLower) with
  | "inf" | "infinity" => some (signed (1.0 / 0.0))
  | "nan" => some (Float.ofBits 0x7FF8000000000000)
  | _ => readFinite? negative cs

end TypeWeave.Number
