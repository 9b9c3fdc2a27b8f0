import PlanarMesh.Number.Decimal

/-!
# Points

Points of the plane with double coordinates, and vectors between them.  Arithmetic is done
coordinate by coordinate in plain double arithmetic.
-/

namespace PlanarMesh

/-- A point of the plane, or the vector to it from the origin. -/
structure Point where
  x : Float
  y : Float
deriving DecidableEq

/-- The lesser of two doubles; a NaN gives way to the other operand, and of two equal ones
the first is taken. -/
def lesser (a b : Float) : Float :=
  if a.isNaN then b else if b < a then b else a

/-- The greater of two doubles; a NaN gives way to the other operand, and of two equal ones
the first is taken. -/
def greater (a b : Float) : Float :=
  if a.isNaN then b else if a < b then b else a

namespace Point

/-- The origin. -/
def zero : Point :=
  ⟨0, 0⟩

instance : Add Point :=
  ⟨fun p q => ⟨p.x + q.x, p.y + q.y⟩⟩

instance : Sub Point :=
  ⟨fun p q => ⟨p.x - q.x, p.y - q.y⟩⟩

/-- Divide both coordinates by `c`. -/
def scaleDown (p : Point) (c : Float) : Point :=
  ⟨p.x / c, p.y / c⟩

/-- The signed area of the parallelogram that `u` and `v` span, rounded. -/
def cross (u v : Point) : Float :=
  u.x * v.y - u.y * v.x

/-- Whether `p` and `q` have equal coordinates as numbers: zeros of both signs are equal and
a NaN equals nothing. -/
def coincides (p q : Point) : Bool :=
  p.x == q.x && p.y == q.y

/-- Neither coordinate is infinite or a NaN. -/
def isFinite (p : Point) : Bool :=
  p.x.isFinite && p.y.isFinite

/-- The corner of the smallest axis-parallel box around `p` and `q` with least
coordinates. -/
def lower (p q : Point) : Point :=
  ⟨lesser p.x q.x, lesser p.y q.y⟩

/-- The corner of the smallest axis-parallel box around `p` and `q` with greatest
coordinates. -/
def upper (p q : Point) : Point :=
  ⟨greater p.x q.x, greater p.y q.y⟩

instance : ToString Point :=
  ⟨fun p => "[" ++ Decimal.text p.x ++ ", " ++ Decimal.text p.y ++ "]"⟩

end Point

end PlanarMesh
