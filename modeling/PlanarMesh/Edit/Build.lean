import PlanarMesh.Corners
import PlanarMesh.Edit.Euler

/-!
# Building from triangle lists

A triangle list names the corners of each triangle by their places in a point list.  Building
adds a node for each point and then the triangles in order, so that common sides become
common edges.  A rectangle of cells, each cut along its rising diagonal, is such a list.
-/

namespace PlanarMesh

/-- Points and triangles between them, given by places in the list of points. -/
structure TriangleList where
  points : List Point
  triangles : List (Corners Nat)

namespace TriangleList

/-- What is wrong with the `place`-th triangle: the first corner that is no point, or
corners that are not three different points. -/
def defect? (points place : Nat) (t : Corners Nat) : Option InputError :=
  match t.toList.find? fun v => points ≤ v with
  | some v => some (.missingVertex place v)
  | none =>
    if t.a = t.b ∨ t.b = t.c ∨ t.c = t.a then some (.repeatedVertex place t.a t.b t.c)
    else none

/-- What is wrong with the first triangle with which something is wrong. -/
def firstDefect? (list : TriangleList) : Option InputError :=
  list.triangles.zipIdx.findSome? fun entry => defect? list.points.length entry.2 entry.1

/-- The `i`-th of `cells + 1` points that cut the interval into equal cells; the last one is
the end of the interval exactly. -/
def gridCoordinate (low high : Float) (cells i : Nat) : Float :=
  if i = cells then high else low + (high - low) / Float.ofNat cells * Float.ofNat i

/-- The two triangles of the cell in column `i` and row `j` of a grid with `nx` columns, on
either side of the diagonal from its lower left to its upper right corner. -/
def cellTriangles (nx i j : Nat) : List (Corners Nat) :=
  let v₀ := j * (nx + 1) + i
  let v₁ := v₀ + 1
  let v₃ := v₀ + (nx + 1)
  let v₂ := v₃ + 1
  [⟨v₀, v₁, v₂⟩, ⟨v₀, v₂, v₃⟩]

/-- A rectangle of `nx` times `ny` cells, row by row from its least corner. -/
def rectangle (nx ny : Nat) (min max : Point) : Except InputError TriangleList :=
  if nx = 0 ∨ ny = 0 then .error .noCells
  else if min.x < max.x ∧ min.y < max.y then
    .ok {
      points := (List.range (ny + 1)).flatMap fun j =>
        (List.range (nx + 1)).map fun i =>
          ⟨gridCoordinate min.x max.x nx i, gridCoordinate min.y max.y ny j⟩
      triangles := (List.range ny).flatMap fun j =>
        (List.range nx).flatMap fun i => cellTriangles nx i j }
  else .error (.emptyRectangle min max)

end TriangleList

namespace Edit

/-- Add the points and triangles of a list, and answer the nodes in the order of the
points. -/
def build (list : TriangleList) : Edit (List NodeId) := do
  if let some defect := list.firstDefect? then refuse (.invalidInput defect)
  let nodes ← list.points.mapM addNode
  let nodeAt (v : Nat) : NodeId := nodes.getD v Key.null
  list.triangles.forM fun t => do
    let _ ← addTriangle (nodeAt t.a) (nodeAt t.b) (nodeAt t.c)
  record (.build list.points.length list.triangles.length)
  return nodes

/-- Replace the mesh by one that is built from a list alone. -/
def rebuild (list : TriangleList) : Edit Unit :=
  replacing do
    let _ ← build list

/-- Replace the mesh by a rectangle of cells. -/
def rebuildRectangle (nx ny : Nat) (min max : Point) : Edit Unit := do
  match TriangleList.rectangle nx ny min max with
  | .ok list => rebuild list
  | .error cause => refuse (.invalidInput cause)

end Edit

end PlanarMesh
