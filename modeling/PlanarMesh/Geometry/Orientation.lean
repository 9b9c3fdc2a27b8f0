import PlanarMesh.Geometry.Point

/-!
# Orientation

On which side of a directed line does a point lie?  Point location and the winding checks
ask nothing else of the geometry, so they take the answer as a parameter: a `Kernel`.

The side is the sign of a determinant.  `determinant` is that determinant computed without
rounding, in units of the squared smallest positive double; a kernel `IsExact` when it
answers with its sign on finite points.  `Kernel.integral` is exact by construction.
`Kernel.float` rounds, and is reliable only away from degenerate positions.
-/

namespace PlanarMesh

/-- The side of a directed line on which a point lies. -/
inductive OrientedSide where
  /-- Strictly to the left. -/
  | positive
  /-- Strictly to the right. -/
  | negative
  /-- On the line. -/
  | onBoundary
deriving DecidableEq

namespace OrientedSide

/-- The side as it is written. -/
def name : OrientedSide → String
  | positive => "Positive"
  | negative => "Negative"
  | onBoundary => "OnBoundary"

/-- The side that a rounded determinant points to; a NaN points nowhere. -/
def ofDeterminant (determinant : Float) : OrientedSide :=
  if 0 < determinant then positive
  else if determinant < 0 then negative
  else onBoundary

/-- The side that an exact determinant points to. -/
def ofSign (determinant : Int) : OrientedSide :=
  if 0 < determinant then positive
  else if determinant < 0 then negative
  else onBoundary

theorem ofSign_eq_positive_iff {determinant : Int} :
    ofSign determinant = positive ↔ 0 < determinant := by
  unfold ofSign
  split
  · simp [*]
  · split <;> simp [*]

end OrientedSide

/-- The determinant of `p₂ - p₁` and `q - p₁`, without rounding, as a multiple of the square
of the smallest positive double. -/
def determinant (p₁ p₂ q : Point) : Int :=
  (unitsOf p₂.x - unitsOf p₁.x) * (unitsOf q.y - unitsOf p₁.y) -
    (unitsOf p₂.y - unitsOf p₁.y) * (unitsOf q.x - unitsOf p₁.x)

/-- A provider of orientation tests. -/
structure Kernel where
  /-- The side of the directed line from the first to the second point on which the third
  point lies. -/
  orientedSide : Point → Point → Point → OrientedSide

namespace Kernel

/-- The orientation of a triangle: positive when its corners run counter-clockwise. -/
def triangleOrientation (kernel : Kernel) (a b c : Point) : OrientedSide :=
  kernel.orientedSide a b c

/-- The kernel answers with the sign of the exact determinant on finite points. -/
def IsExact (kernel : Kernel) : Prop :=
  ∀ p₁ p₂ q : Point, p₁.isFinite → p₂.isFinite → q.isFinite →
    kernel.orientedSide p₁ p₂ q = OrientedSide.ofSign (determinant p₁ p₂ q)

/-- The determinant in whole numbers. -/
def integral : Kernel where
  orientedSide p₁ p₂ q := OrientedSide.ofSign (determinant p₁ p₂ q)

theorem integral_isExact : integral.IsExact :=
  fun _ _ _ _ _ _ => rfl

/-- The determinant in plain double arithmetic. -/
def float : Kernel where
  orientedSide p₁ p₂ q := OrientedSide.ofDeterminant ((p₂ - p₁).cross (q - p₁))

end Kernel

end PlanarMesh
