import TypeWeave.Number.Binary

/-!
# Decimal text of floats

The fewest digits that read back as the same float, and rounding to a fixed number of places.
The shortest text is found on the decimal grids of one to seventeen digits: the first grid with
a point that rounds to the float wins.
-/

namespace TypeWeave.Number

/-- Decimal digits `d₁d₂…` with a point after the first `point` of them. -/
structure Decimal where
  digits : Nat
  /-- The power of ten that scales `digits`. -/
  exponent : Int
  deriving DecidableEq, Repr

/-- The floor of the decimal logarithm of a positive ratio, from an estimate of its size. -/
def log10Floor (num den : Nat) : Int :=
  let estimate : Int := ((Int.ofNat num.log2 - Int.ofNat den.log2) * 30103).fdiv 100000
  let atLeast (e : Int) : Bool :=
    match e with
    | .ofNat e => den * Nat.pow 10 e ≤ num
    | .negSucc e => den ≤ num * Nat.pow 10 (e + 1)
  if atLeast (estimate + 2) then estimate + 2
  else if atLeast (estimate + 1) then estimate + 1
  else if atLeast estimate then estimate
  else if atLeast (estimate - 1) then estimate - 1
  else estimate - 2

/-- `num / den` in units of `10 ^ e`, as a quotient of naturals. -/
def inUnits (num den : Nat) (e : Int) : Nat × Nat :=
  match e with
  | .ofNat e => (num, den * Nat.pow 10 e)
  | .negSucc e => (num * Nat.pow 10 (e + 1), den)

/-- The shortest decimal that rounds to `m * 2 ^ q`, with the bounds of the interval given as
multiples of `2 ^ (q - 2)`. -/
def shortestFrom (m : Nat) (q : Int) : Nat → Option Decimal
  | 0 => none
  | tries + 1 =>
    let digits := 17 - tries
    let (num, den) := dyadicRatio (4 * m) (q - 2)
    let boundary := m == Nat.pow 2 52 && q != -1074
    let (loNum, loDen) := dyadicRatio (4 * m - if boundary then 1 else 2) (q - 2)
    let (hiNum, hiDen) := dyadicRatio (4 * m + 2) (q - 2)
    let e := log10Floor num den - Int.ofNat digits + 1
    let (un, ud) := inUnits num den e
    let (ln, ld) := inUnits loNum loDen e
    let (hn, hd) := inUnits hiNum hiDen e
    let closed := m % 2 == 0
    let inside (k : Nat) : Bool :=
      (if closed then ln ≤ k * ld else ln < k * ld) && if closed then k * hd ≤ hn else k * hd < hn
    let down := un / ud
    let up := down + 1
    let downCloser := 2 * (un - down * ud) < ud || (2 * (un - down * ud) == ud && down % 2 == 0)
    match inside down, inside up with
    | true, true => some ⟨if downCloser then down else up, e⟩
    | true, false => some ⟨down, e⟩
    | false, true => some ⟨up, e⟩
    | false, false => shortestFrom m q tries

/-- Remove the zeros at the end of the digits, at most `fuel` of them. -/
def Decimal.trim (fuel : Nat) (d : Decimal) : Decimal :=
  match fuel with
  | 0 => d
  | fuel + 1 =>
    if d.digits != 0 && d.digits % 10 == 0 then Decimal.trim fuel ⟨d.digits / 10, d.exponent + 1⟩
    else d

/-- The shortest decimal that rounds to a positive float. -/
def shortest (m : Nat) (q : Int) : Decimal :=
  ((shortestFrom m q 17).getD ⟨m, q⟩).trim 20

/-- Where exponents begin and how they are written. -/
structure FloatFormat where
  /-- Positional below this power of ten. -/
  positionalBelow : Int
  /-- Positional from this power of ten on. -/
  positionalFrom : Int
  exponentMark : Char
  /-- The least number of digits in an exponent. -/
  exponentDigits : Nat
  nan : String
  infinity : String

/-- Printed floats are positional from `10 ^ -4` to below `10 ^ 16`, keep a fractional digit, and
write exponents with a sign and two digits. -/
def printed : FloatFormat := ⟨16, -4, 'e', 2, "nan", "inf"⟩

/-- An exponent with its sign. -/
def FloatFormat.exponentText (f : FloatFormat) (e : Int) : List Char :=
  let ds := (Nat.repr e.natAbs).toList
  f.exponentMark :: (if e < 0 then '-' else '+') ::
    (List.replicate (f.exponentDigits - ds.length) '0' ++ ds)

/-- Positional text of digits times a power of ten, always with a fractional digit. -/
def positional (digits : Nat) (exponent : Int) : List Char :=
  let ds := (Nat.repr digits).toList
  match exponent with
  | .ofNat e => ds ++ List.replicate e '0' ++ ['.', '0']
  | .negSucc e =>
    let places := e + 1
    let padded := List.replicate (places + 1 - ds.length) '0' ++ ds
    padded.take (padded.length - places) ++ '.' :: padded.drop (padded.length - places)

/-- One digit, the others after a point, and an exponent. -/
def scientific (f : FloatFormat) (digits : Nat) (exponent : Int) : List Char :=
  let ds := (Nat.repr digits).toList
  let power := exponent + Int.ofNat ds.length - 1
  match ds with
  | [] => []
  | [d] => d :: f.exponentText power
  | d :: rest => d :: '.' :: rest ++ f.exponentText power

/-- The text of a float. -/
def FloatFormat.text (f : FloatFormat) (x : Float) : String :=
  match Binary.ofFloat x with
  | .nan => f.nan
  | .infinite negative => if negative then "-" ++ f.infinity else f.infinity
  | .finite negative m q =>
    let body :=
      if m == 0 then ['0', '.', '0']
      else
        let d := shortest m q
        let power := d.exponent + Int.ofNat (Nat.repr d.digits).length - 1
        if f.positionalFrom ≤ power && power < f.positionalBelow then positional d.digits d.exponent
        else scientific f d.digits d.exponent
    String.ofList (if negative then '-' :: body else body)

/-- The digits of a finite float at `places` after the point, the point left out. -/
def fixedDigits (m : Nat) (q : Int) (places : Int) : Nat :=
  let (num, den) := dyadicRatio m q
  let (n, d) := inUnits num den (-places)
  roundDiv .even n d

/-- Positional text with a fixed number of places. -/
def fixedText (digits places : Nat) : List Char :=
  let ds := (Nat.repr digits).toList
  let padded := List.replicate (places + 1 - ds.length) '0' ++ ds
  let whole := padded.take (padded.length - places)
  if places == 0 then whole else whole ++ '.' :: padded.drop (padded.length - places)

/-- Round a finite float to a number of places, which may be negative. -/
def roundPlaces (x : Float) (places : Int) : Option Float :=
  match Binary.ofFloat x with
  | .finite negative m q =>
    let k := fixedDigits m q places
    match places with
    | .ofNat p => nearest? negative k (Nat.pow 10 p)
    | .negSucc p => nearest? negative (k * Nat.pow 10 (p + 1)) 1
  | _ => some x

/-- The float nearest to `digits * 10 ^ exponent`; the infinite one beyond the largest. -/
def readDecimal (negative : Bool) (digits : Nat) (exponent : Int) : Float :=
  let r :=
    if exponent > 400 && digits != 0 then none
    else if exponent < -2000 - Int.ofNat digits.log2 then some (assemble negative 0 (-1074))
    else
      match exponent with
      | .ofNat e => nearest? negative (digits * Nat.pow 10 e) 1
      | .negSucc e => nearest? negative digits (Nat.pow 10 (e + 1))
  r.getD (Float.ofBits (if negative then 0xFFF0000000000000 else 0x7FF0000000000000))

end TypeWeave.Number
