import PlanarMesh.Number.Double

/-!
# Decimal text of doubles

A double is written with the fewest digits that still read back as the same double, always
positionally: no exponent, and no point after a whole number.

The reals that read back as a given double form an interval around it that ends half way to
each neighbour; the ends belong to it when the mantissa is even.  The text is a point of
that interval on the coarsest power-of-ten grid that has one, namely the grid point nearest
to the double, the upper one of two that are equally near.
-/

namespace PlanarMesh

namespace Decimal

/-- The positive decimal `digits * 10 ^ exponent`. -/
structure Positive where
  digits : Nat
  exponent : Int

/-- The reals that round to one double, in quarters of the distance to the next larger
double; that quarter is `2 ^ scale` units of `2 ^ -1076`. -/
structure Interval where
  low : Nat
  value : Nat
  high : Nat
  closed : Bool
  scale : Nat

/-- The interval of a positive double.  Below a power of two the neighbour is only half as
far away. -/
def Interval.of (mantissa scale : Nat) : Interval where
  low := if mantissa = 1 <<< 52 ∧ 0 < scale then 4 * mantissa - 1 else 4 * mantissa - 2
  value := 4 * mantissa
  high := 4 * mantissa + 2
  closed := mantissa % 2 == 0
  scale := scale

/-- Whether the fraction `numerator / denominator` lies in the interval. -/
def Interval.contains (i : Interval) (numerator denominator : Nat) : Bool :=
  if i.closed then
    i.low * denominator ≤ numerator && numerator ≤ i.high * denominator
  else
    i.low * denominator < numerator && numerator < i.high * denominator

/-- The point of the grid `10 ^ exponent` that lies in the interval and is nearest to its
double, if the grid has a point there. -/
def Interval.gridPoint? (i : Interval) (exponent : Int) : Option Positive :=
  -- A grid step is `step / unit` quarters.
  let step := Nat.pow 10 exponent.toNat <<< 1076
  let unit := Nat.pow 10 (-exponent).toNat <<< i.scale
  let below := i.value * unit / step
  let above := below + 1
  let belowFits := i.contains (below * step) unit
  let aboveFits := i.contains (above * step) unit
  if belowFits && aboveFits then
    if i.value * unit - below * step < above * step - i.value * unit then
      some ⟨below, exponent⟩
    else some ⟨above, exponent⟩
  else if belowFits then some ⟨below, exponent⟩
  else if aboveFits then some ⟨above, exponent⟩
  else none

/-- The shortest decimal of a positive double.  No double reaches `10 ^ 309`, and every
double is a multiple of `10 ^ -1074`, so the search finds a grid. -/
def shortest (mantissa scale : Nat) : Positive :=
  let interval := Interval.of mantissa scale
  ((List.range 1384).findSome? fun (i : Nat) => interval.gridPoint? (309 - i)).getD ⟨0, 0⟩

/-- The positional text of a positive decimal. -/
def Positive.text (d : Positive) : String :=
  let digits := toString d.digits
  if 0 ≤ d.exponent then
    digits.pushn '0' d.exponent.toNat
  else
    let places := (-d.exponent).toNat
    let padded := ("".pushn '0' (places + 1 - digits.length)) ++ digits
    let whole := padded.length - places
    String.ofList (padded.toList.take whole) ++ "." ++ String.ofList (padded.toList.drop whole)

/-- The text of a double. -/
def text (x : Float) : String :=
  match DoubleValue.ofFloat x with
  | .notANumber => "NaN"
  | .infinite negative => if negative then "-inf" else "inf"
  | .finite negative mantissa scale =>
    let magnitude := if mantissa = 0 then "0" else (shortest mantissa scale).text
    if negative then "-" ++ magnitude else magnitude

end Decimal

end PlanarMesh
