import PlanarMesh.Corners
import PlanarMesh.Mesh.Basic

/-!
# Local walks

The half-edges around a node, along a loop and around a face, and what is read off them.

A walk follows a partial step from half-edge to half-edge.  It ends on return to its start,
at a half-edge that does not resolve, or after as many half-edges as the mesh has; on a mesh
whose records fit together only the first of the three happens.
-/

namespace PlanarMesh

namespace Mesh

/-- The half-edges from `h` on along `step`, up to the return to `start`; at most as many as
the fuel allows. -/
def walkFrom (step : HalfedgeId → Option HalfedgeId) (start : HalfedgeId) :
    Nat → HalfedgeId → List HalfedgeId
  | 0, _ => []
  | fuel + 1, h =>
    h :: match step h with
      | some g => if g = start then [] else walkFrom step start fuel g
      | none => []

/-- The half-edge after `h` on its loop. -/
def next? (m : Mesh) (h : HalfedgeId) : Option HalfedgeId :=
  (m.halfedge? h).map Halfedge.next

/-- The half-edge after `h` around the node at which `h` starts. -/
def around? (m : Mesh) (h : HalfedgeId) : Option HalfedgeId :=
  m.next? h.pair

/-! ## Around a node -/

/-- The half-edges that start at `n`, in their order around it. -/
def outgoing (m : Mesh) (n : NodeId) : Except MeshError (List HalfedgeId) :=
  return match (← m.node n).halfedge with
    | none => []
    | some start => walkFrom m.around? start m.halfedgeCount start

/-- The half-edges that end at `n`. -/
def incoming (m : Mesh) (n : NodeId) : Except MeshError (List HalfedgeId) :=
  return (← m.outgoing n).map HalfedgeId.pair

/-- The number of edges at `n`. -/
def degree (m : Mesh) (n : NodeId) : Except MeshError Nat :=
  return (← m.outgoing n).length

/-- The nodes that share an edge with `n`, in the order of their edges around `n`. -/
def neighbors (m : Mesh) (n : NodeId) : Except MeshError (List NodeId) := do
  (← m.outgoing n).mapM m.target

/-- The faces at `n`, each once for every corner that it has here. -/
def incidentFaces (m : Mesh) (n : NodeId) : Except MeshError (List FaceId) := do
  return (← (← m.outgoing n).mapM m.faceOf).filterMap id

/-- Whether some half-edge at `n`, in either direction, borders no face.  An isolated node
is not on the boundary. -/
def isOnBoundary (m : Mesh) (n : NodeId) : Except MeshError Bool := do
  (← m.outgoing n).anyM fun h => do
    if ← m.isBoundary h then return true else m.isBoundary h.pair

/-- The first half-edge around `n₁` that ends at `n₂`. -/
def findHalfedge (m : Mesh) (n₁ n₂ : NodeId) : Except MeshError (Option HalfedgeId) := do
  (← m.outgoing n₁).findM? fun h => return (← m.target h) = n₂

/-! ## Along a loop -/

/-- The loop through `h`, from `h` on. -/
def loop (m : Mesh) (h : HalfedgeId) : Except MeshError (List HalfedgeId) := do
  let _ ← m.halfedge h
  return walkFrom m.next? h m.halfedgeCount h

/-! ## Around a face -/

/-- The half-edges of a face, the one that its record names first. -/
def faceHalfedges (m : Mesh) (f : FaceId) : Except MeshError (Corners HalfedgeId) := do
  let h₁ := (← m.face f).halfedge
  let h₂ ← m.next h₁
  let h₃ ← m.next h₂
  return ⟨h₁, h₂, h₃⟩

/-- The corner nodes of a face in loop order. -/
def faceNodes (m : Mesh) (f : FaceId) : Except MeshError (Corners NodeId) := do
  (← m.faceHalfedges f).mapM m.origin

/-- The corner positions of a face in loop order. -/
def facePositions (m : Mesh) (f : FaceId) : Except MeshError (Corners Point) := do
  (← m.faceNodes f).mapM m.position

/-- The faces on the other side of the edges of a face. -/
def faceNeighbors (m : Mesh) (f : FaceId) : Except MeshError (List FaceId) := do
  let opposite ← (← m.faceHalfedges f).mapM fun h => m.faceOf h.pair
  return opposite.toList.filterMap id

/-- The mean of the corner positions of a face. -/
def faceCentroid (m : Mesh) (f : FaceId) : Except MeshError Point := do
  let t ← m.facePositions f
  return (t.a + t.b + t.c).scaleDown 3

end Mesh

end PlanarMesh
