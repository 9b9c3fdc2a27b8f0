import PlanarMesh.Handle

/-!
# Point locations

The answers that locating a point can have, and the moves of the walk that finds them.
-/

namespace PlanarMesh

/-- Where a point lies relative to a mesh. -/
inductive PointLocation where
  /-- Strictly inside the face. -/
  | inFace (f : FaceId)
  /-- In the interior of the segment of the edge. -/
  | onEdge (e : EdgeId)
  /-- At the position of the node. -/
  | onNode (n : NodeId)
  /-- Outside of the mesh, beyond the boundary edge. -/
  | outsideMesh (e : EdgeId)
deriving DecidableEq

/-- The location with the handle it names, `InFace(FaceId(1v1))`. -/
def PointLocation.tagged : PointLocation → String
  | inFace f => s!"InFace({f.tagged})"
  | onEdge e => s!"OnEdge({e.tagged})"
  | onNode n => s!"OnNode({n.tagged})"
  | outsideMesh e => s!"OutsideMesh({e.tagged})"

/-- What a point-location walk does at a half-edge. -/
inductive Transition where
  /-- The point is to the left: go on along the loop. -/
  | advance
  /-- The point is to the right: cross to the other side of the edge. -/
  | cross
  /-- The point is on the line through the half-edge but beyond its ends: cross as well. -/
  | collinearOutside
  | found (location : PointLocation)
deriving DecidableEq

/-- The transition as the journal writes it. -/
def Transition.tagged : Transition → String
  | advance => "Advance"
  | cross => "Cross"
  | collinearOutside => "CollinearOutside"
  | found location => s!"Found({location.tagged})"

end PlanarMesh
