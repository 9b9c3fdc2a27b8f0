import PlanarMesh.Geometry.Expansion
import PlanarMesh.Geometry.Orientation

/-!
# The adaptive orientation kernel

The orientation determinant is estimated with growing precision until the estimate exceeds
a bound on its error: first in plain double arithmetic, then with the products expanded,
then with the rounding errors of the coordinate differences added, and last as an exact
expansion.  Unless a product of differences overflows or underflows, the sign is exact.
-/

namespace PlanarMesh

namespace Adaptive

/-- Half the distance from one to the next larger double. -/
def unitRoundoff : Float :=
  1 / 9007199254740992

/-- The relative error bound of the determinant in plain double arithmetic. -/
def plainBound : Float :=
  (3 + 16 * unitRoundoff) * unitRoundoff

/-- The relative error bound once the products are expanded. -/
def productBound : Float :=
  (2 + 12 * unitRoundoff) * unitRoundoff

/-- The relative error bound once the errors of the differences are added. -/
def tailBound : Float :=
  (9 + 64 * unitRoundoff) * unitRoundoff * unitRoundoff

/-- The relative error of summing the components of an expansion. -/
def estimateBound : Float :=
  (3 + 8 * unitRoundoff) * unitRoundoff

/-- The estimate is at least as far from zero as its error bound. -/
def settles (estimate bound : Float) : Bool :=
  decide (bound ≤ estimate) || decide (bound ≤ -estimate)

/-- The stages after the plain estimate, given the sum of the magnitudes of the two
products. -/
def refine (a b c : Point) (magnitude : Float) : Float :=
  let acx := a.x - c.x
  let bcx := b.x - c.x
  let acy := a.y - c.y
  let bcy := b.y - c.y
  let products := Expansion.productDifference acx bcy acy bcx
  let estimate := products.estimate
  if settles estimate (productBound * magnitude) then estimate else
  let acxTail := Expansion.differenceTail a.x c.x acx
  let bcxTail := Expansion.differenceTail b.x c.x bcx
  let acyTail := Expansion.differenceTail a.y c.y acy
  let bcyTail := Expansion.differenceTail b.y c.y bcy
  if acxTail == 0 && acyTail == 0 && bcxTail == 0 && bcyTail == 0 then estimate else
  let bound := tailBound * magnitude + estimateBound * estimate.abs
  let estimate := estimate + ((acx * bcyTail + bcy * acxTail) - (acy * bcxTail + bcx * acyTail))
  if settles estimate bound then estimate else
  products
    |>.add (Expansion.productDifference acxTail bcy acyTail bcx)
    |>.add (Expansion.productDifference acx bcyTail acy bcxTail)
    |>.add (Expansion.productDifference acxTail bcyTail acyTail bcxTail)
    |>.leading

/-- A double with the sign of the orientation determinant of `a`, `b` and `c`. -/
def orientation (a b c : Point) : Float :=
  let left := (a.x - c.x) * (b.y - c.y)
  let right := (a.y - c.y) * (b.x - c.x)
  let plain := left - right
  if 0 < left then
    if right ≤ 0 then plain else finish plain (left + right)
  else if left < 0 then
    if 0 ≤ right then plain else finish plain (-left - right)
  else plain
where
  /-- Both products have the same sign, so that the difference may cancel. -/
  finish (plain magnitude : Float) : Float :=
    if settles plain (plainBound * magnitude) then plain else refine a b c magnitude

end Adaptive

/-- The adaptive kernel. -/
def Kernel.adaptive : Kernel where
  orientedSide p₁ p₂ q := OrientedSide.ofDeterminant (Adaptive.orientation p₁ p₂ q)

end PlanarMesh
