import TypeWeave.Number.Decimal

/-!
# Numbers laid out by request

Numbers written as a format asks for: with a fixed number of places, with an exponent, with a
number of significant digits, in another base, with groups of digits, and filled to a width.
-/

namespace TypeWeave.Number

/-- Digits in a base up to 16, in lower case. -/
def digitsIn (base n : Nat) : List Char := Nat.toDigits base n

/-- Digits in groups from the right, reversed, with zeros in front of them until they take `least`
characters, and the text of the groups that are done; `fuel` bounds the groups. -/
def paddedGroups (separator : Char) (size fuel : Nat) (reversed : List Char) (least : Nat)
    (done : List Char) : List Char :=
  match fuel with
  | 0 => reversed.reverse ++ done
  | fuel + 1 =>
    let n := min size (max (max reversed.length least) 1)
    let group := reversed.take n
    let text := List.replicate (n - group.length) '0' ++ group.reverse ++ done
    let rest := reversed.drop n
    let missing := least - n
    if rest.isEmpty && missing == 0 then text
    else paddedGroups separator size fuel rest (missing - 1) (separator :: text)

/-- Put a separator between groups of digits and of the zeros in front of them, which fill the whole
to a least width. -/
def groupPadded (separator : Char) (size least : Nat) (ds : List Char) : List Char :=
  paddedGroups separator size (ds.length + least + 1) ds.reverse least []

/-- Round a positive ratio to `places + 1` significant digits: the digits and the power of ten of
the first one. -/
def significant (num den places : Nat) : Nat × Int :=
  let e := log10Floor num den
  let (n, d) := inUnits num den (e - places)
  let k := roundDiv .even n d
  if k = Nat.pow 10 (places + 1) then (k / 10, e + 1) else (k, e)

/-- The ways to write a fraction. -/
inductive FloatStyle where
  | fixed
  | exponent
  | general
  /-- The general way, with a digit behind the point of a number that is written without an
  exponent. -/
  | pointed
  deriving DecidableEq, Repr

/-- Drop the zeros that end a fraction, and the point if nothing follows it. -/
def dropFractionZeros (cs : List Char) : List Char :=
  if cs.contains '.' then
    let rec dropEnd : List Char → List Char
      | '0' :: cs => dropEnd cs
      | '.' :: cs => cs
      | cs => cs
    (dropEnd cs.reverse).reverse
  else cs

/-- Digits with a point after the first one; the point is written only before other digits unless
`pointed` is set. -/
def mantissaText (pointed : Bool) (ds : List Char) : List Char :=
  match ds with
  | [] => []
  | [d] => if pointed then [d, '.'] else [d]
  | d :: rest => d :: '.' :: rest

/-- The digits of a finite float without its sign. `alternate` keeps the point and the zeros that
end a fraction. -/
def finiteText (style : FloatStyle) (alternate : Bool) (places m : Nat) (q : Int) : List Char :=
  let (num, den) := dyadicRatio m q
  match style with
  | .fixed =>
    let body := fixedText (fixedDigits m q places) places
    if alternate && places == 0 then body ++ ['.'] else body
  | .exponent =>
    let (ds, e) := if m == 0 then (0, 0) else significant num den places
    let text := (Nat.repr ds).toList
    let text := if m == 0 then List.replicate (places + 1) '0' else text
    mantissaText alternate text ++ printed.exponentText e
  | .general | .pointed =>
    let p := if places == 0 then 1 else places
    let (ds, e) := if m == 0 then (0, 0) else significant num den (p - 1)
    let limit : Int := if style == .pointed then p - 1 else p
    if -4 ≤ e && e < limit then
      let shown := ((p : Int) - 1 - e).toNat
      let body := fixedText (fixedDigits m q shown) shown
      if alternate then (if shown == 0 then body ++ ['.'] else body)
      else
        let body := dropFractionZeros body
        if style == .pointed && !body.contains '.' then body ++ ['.', '0'] else body
    else
      let text := (Nat.repr ds).toList
      let mantissa := mantissaText alternate text
      (if alternate then mantissa else dropFractionZeros mantissa) ++ printed.exponentText e

/-- The digits of a float without its sign, and whether it is negative. -/
def floatText (style : FloatStyle) (alternate : Bool) (places : Nat) (x : Float) :
    Bool × List Char :=
  match Binary.ofFloat x with
  | .nan => (false, ['n', 'a', 'n'])
  | .infinite negative => (negative, ['i', 'n', 'f'])
  | .finite negative m q => (negative, finiteText style alternate places m q)

end TypeWeave.Number
