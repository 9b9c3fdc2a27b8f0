import PlanarMesh.Geometry.Point

/-!
# Bounding boxes

Axis-parallel boxes given by their least and greatest corners.  The inverted box, whose
least corner is at plus infinity, contains nothing and is where collecting points starts.
-/

namespace PlanarMesh

/-- An axis-parallel box, by its least and its greatest corner. -/
structure BoundingBox where
  min : Point
  max : Point

namespace BoundingBox

/-- The empty box, from plus infinity to minus infinity. -/
def inverse : BoundingBox :=
  ⟨⟨1 / 0, 1 / 0⟩, ⟨-1 / 0, -1 / 0⟩⟩

/-- Grow the box so that it contains `p`. -/
def expand (box : BoundingBox) (p : Point) : BoundingBox :=
  ⟨box.min.lower p, box.max.upper p⟩

/-- The smallest box that contains all the points. -/
def ofPoints (points : List Point) : BoundingBox :=
  points.foldl expand inverse

/-- The least corner lies beyond the greatest along some axis. -/
def isEmpty (box : BoundingBox) : Bool :=
  decide (box.max.x < box.min.x) || decide (box.max.y < box.min.y)

/-- Whether `p` lies in the box; the box is closed. -/
def contains (box : BoundingBox) (p : Point) : Bool :=
  decide (box.min.x ≤ p.x) && decide (p.x ≤ box.max.x) &&
    decide (box.min.y ≤ p.y) && decide (p.y ≤ box.max.y)

/-- The extents along the axes, zero for an empty box. -/
def size (box : BoundingBox) : Point :=
  if box.isEmpty then Point.zero else box.max - box.min

end BoundingBox

end PlanarMesh
