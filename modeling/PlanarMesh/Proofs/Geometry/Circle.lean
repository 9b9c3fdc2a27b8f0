import PlanarMesh.Proofs.Geometry.Plane
import Mathlib.Algebra.Order.Field.Rat
import Mathlib.Tactic.FieldSimp

/-!
# Circles through three points

A point lies inside, on or outside of the circle through the corners of a counter-clockwise
triangle as `inCircle` is positive, zero or negative.  Scaled by the area of the triangle, this is
the `power` of the point with respect to the circle, and powers of one point can be compared between
circles: the circles of two triangles with a common side agree on the line of that side, and to the
right of it the circle of the neighbour has the lesser power if the far corner of the neighbour lies
outside of the first circle (`power_lt_of_right`).
-/

namespace PlanarMesh

/-- The squared distance of two points, in units of the squared smallest positive double. -/
def squaredGap (p q : Point) : Int :=
  (unitsOf p.x - unitsOf q.x) ^ 2 + (unitsOf p.y - unitsOf q.y) ^ 2

/-- Positive when `q` lies inside the circle through the corners of the counter-clockwise triangle,
zero when it lies on the circle and negative when it lies outside. -/
def inCircle (a b c q : Point) : Int :=
  squaredGap a q * determinant b c q + squaredGap b q * determinant c a q +
    squaredGap c q * determinant a b q

/-- The power of `q` with respect to the circle through three points. -/
def power (a b c q : Point) : ℚ :=
  -inCircle a b c q / determinant a b c

variable {a b c d q : Point}

theorem inCircle_rotate : inCircle b c a q = inCircle a b c q := by
  unfold inCircle
  ring

theorem power_rotate : power b c a q = power a b c q := by
  rw [power, power, inCircle_rotate, determinant_rotate]

/-- How the circles of two triangles with the common side from `a` to `b` differ: not at all on the
line of the side, and at other points as far as these are from it. -/
theorem inCircle_neighbour :
    inCircle b a d q * determinant a b c - inCircle a b c q * determinant b a d =
      inCircle a b c d * determinant a b q := by
  unfold inCircle squaredGap determinant
  ring

section Neighbours

variable (positive : 0 < determinant a b c) (positive' : 0 < determinant b a d)

include positive positive'

theorem power_sub_power :
    power a b c q - power b a d q =
      (inCircle a b c d * determinant a b q : ℤ) / (determinant a b c * determinant b a d : ℤ) := by
  have area : (determinant a b c : ℚ) ≠ 0 := Int.cast_ne_zero.2 positive.ne'
  have area' : (determinant b a d : ℚ) ≠ 0 := Int.cast_ne_zero.2 positive'.ne'
  rw [← inCircle_neighbour, power, power]
  push_cast
  field_simp
  ring

theorem power_eq_of_line (line : determinant a b q = 0) : power b a d q = power a b c q := by
  have gap := power_sub_power (q := q) positive positive'
  rw [line, mul_zero, Int.cast_zero, zero_div, sub_eq_zero] at gap
  exact gap.symm

theorem power_lt_of_right (outside : inCircle a b c d < 0) (right : determinant a b q < 0) :
    power b a d q < power a b c q := by
  rw [← sub_pos, power_sub_power positive positive']
  apply div_pos
  · exact Int.cast_pos.2 (mul_pos_of_neg_of_neg outside right)
  · exact Int.cast_pos.2 (mul_pos positive positive')

end Neighbours

/-! ## Two lines -/

/-- The lines of two sides of a triangle meet at their common corner only. -/
theorem place_eq_of_lines (positive : 0 < determinant a b c) (first : determinant a b q = 0)
    (second : determinant b c q = 0) : q.place = b.place := by
  have weights := turn_smul_eq a.place b.place c.place q.place
  have total := turn_add_turn_add_turn a.place b.place c.place q.place
  simp only [turn_place, first, second, Int.cast_zero, zero_smul, zero_add, add_zero]
    at weights total
  rw [total] at weights
  exact smul_right_injective _ (Int.cast_ne_zero.2 positive.ne') weights

end PlanarMesh
