/-!
# Binary floating point

A finite float is a dyadic rational, and every operation that must be exact is done on the
rational: rounding a quotient to the nearest float, remainders, and comparison with integers.
-/

namespace TypeWeave.Number

/-- What a float is. -/
inductive Binary where
  | nan
  | infinite (negative : Bool)
  /-- The number `mantissa * 2 ^ exponent` with a sign. -/
  | finite (negative : Bool) (mantissa : Nat) (exponent : Int)
  deriving DecidableEq, Repr

/-- Read the fields of a float. -/
def Binary.ofFloat (x : Float) : Binary :=
  let bits := x.toBits.toNat
  let negative := bits / Nat.pow 2 63 == 1
  let e := bits / Nat.pow 2 52 % 2048
  let m := bits % Nat.pow 2 52
  if e == 2047 then if m == 0 then .infinite negative else .nan
  else if e == 0 then .finite negative m (-1074)
  else .finite negative (m + Nat.pow 2 52) (Int.ofNat e - 1075)

/-- Which neighbour a tie goes to. -/
inductive Tie where
  | even
  | away
  deriving DecidableEq, Repr

/-- The integer nearest to `num / den`. -/
def roundDiv (tie : Tie) (num den : Nat) : Nat :=
  let q := num / den
  let r := num % den
  if 2 * r < den then q
  else if 2 * r > den then q + 1
  else
    match tie with
    | .even => q + q % 2
    | .away => q + 1

/-- The numerator and the denominator of `mantissa * 2 ^ exponent`. -/
def dyadicRatio (mantissa : Nat) (exponent : Int) : Nat × Nat :=
  match exponent with
  | .ofNat e => (mantissa * Nat.pow 2 e, 1)
  | .negSucc e => (mantissa, Nat.pow 2 (e + 1))

/-- The float with the given fields; the mantissa is below `2 ^ 53`. -/
def assemble (negative : Bool) (mantissa : Nat) (exponent : Int) : Float :=
  let sign := if negative then Nat.pow 2 63 else 0
  let body :=
    if mantissa < Nat.pow 2 52 then mantissa
    else (exponent + 1075).toNat * Nat.pow 2 52 + (mantissa - Nat.pow 2 52)
  Float.ofBits (sign + body).toUInt64

/-- The float nearest to `num / den`, ties to even; none when it is beyond the largest one. -/
def nearest? (negative : Bool) (num den : Nat) : Option Float :=
  if num == 0 then some (assemble negative 0 (-1074))
  else
    let size : Int := Int.ofNat num.log2 - Int.ofNat den.log2
    let guess : Int := max (size - 53) (-1074)
    let scaled (e : Int) : Nat :=
      match e with
      | .ofNat e => roundDiv .even num (den * Nat.pow 2 e)
      | .negSucc e => roundDiv .even (num * Nat.pow 2 (e + 1)) den
    let pick (e : Int) : Option (Nat × Int) :=
      let m := scaled e
      if m < Nat.pow 2 53 then some (m, e)
      else if m == Nat.pow 2 53 then some (Nat.pow 2 52, e + 1)
      else none
    let found := (pick guess).orElse fun _ => (pick (guess + 1)).orElse fun _ => pick (guess + 2)
    match found with
    | none => none
    | some (m, e) => if e > 971 then none else some (assemble negative m e)

/-- The float nearest to an integer; none beyond the largest one. -/
def ofInt? (i : Int) : Option Float := nearest? (i < 0) i.natAbs 1

/-- The integer part of a finite float, toward zero. -/
def truncate? (x : Float) : Option Int :=
  match Binary.ofFloat x with
  | .finite negative m e =>
    let (num, den) := dyadicRatio m e
    let n : Int := Int.ofNat (num / den)
    some (if negative then -n else n)
  | _ => none

/-- The largest integer not above a finite float. -/
def floor? (x : Float) : Option Int :=
  match Binary.ofFloat x with
  | .finite negative m e =>
    let (num, den) := dyadicRatio m e
    some (if negative then -Int.ofNat ((num + den - 1) / den) else Int.ofNat (num / den))
  | _ => none

/-- Whether a float is an integer. -/
def isIntegral (x : Float) : Bool :=
  match Binary.ofFloat x with
  | .finite _ m e => let (num, den) := dyadicRatio m e; num % den == 0
  | _ => false

/-- The remainder of two finite floats with the sign of the first, which is exact. -/
def remainder (x y : Float) : Float :=
  match Binary.ofFloat x, Binary.ofFloat y with
  | .finite negative m e, .finite _ m' e' =>
    let low := min e e'
    let a := m * Nat.pow 2 (e - low).toNat
    let b := m' * Nat.pow 2 (e' - low).toNat
    let (num, den) := dyadicRatio (a % b) low
    (nearest? negative num den).getD x
  | .finite .., .infinite _ => x
  | _, _ => Float.ofBits 0x7FF8000000000000

/-- Compare a float with an integer; a NaN compares with nothing. -/
def compareInt? (x : Float) (i : Int) : Option Ordering :=
  match Binary.ofFloat x with
  | .nan => none
  | .infinite negative => some (if negative then .lt else .gt)
  | .finite negative m e =>
    let (num, den) := dyadicRatio m e
    let n : Int := if negative then -Int.ofNat num else Int.ofNat num
    some (compare n (i * Int.ofNat den))

end TypeWeave.Number
