import PlanarMesh.Mesh.Incidence

/-!
# The boundary

A half-edge without a face is on the boundary.  Boundary half-edges follow each other, so
the boundary falls into closed loops; a lone edge is a loop of its two sides.
-/

namespace PlanarMesh

/-- The nodes of a mesh by their place, each list sorted. -/
structure NodeClasses where
  /-- Nodes at which some half-edge borders no face. -/
  boundary : List NodeId
  /-- Nodes at which every half-edge borders a face. -/
  interior : List NodeId
  /-- Nodes without edges. -/
  isolated : List NodeId

/-- The place of a node. -/
inductive NodeClass where
  | boundary
  | interior
  | isolated
deriving DecidableEq

namespace Mesh

/-- The place of one node; being isolated is asked first. -/
def classifyNode (m : Mesh) (n : NodeId) : Except MeshError NodeClass := do
  if ← m.isIsolated n then return .isolated
  if ← m.isOnBoundary n then return .boundary
  return .interior

/-- The place of every node. -/
def classifyNodes (m : Mesh) : Except MeshError NodeClasses := do
  let classes ← m.nodeIds.mapM fun n => return (n, ← m.classifyNode n)
  let select (wanted : NodeClass) : List NodeId :=
    classes.filterMap fun entry => if entry.2 = wanted then some entry.1 else none
  return ⟨select .boundary, select .interior, select .isolated⟩

/-- The edges with a side that borders no face, in slot order. -/
def boundaryEdges (m : Mesh) : Except MeshError (List EdgeId) :=
  m.edgeIds.filterM m.isBoundaryEdge

/-- The loop through a boundary half-edge, which must not meet a face. -/
def boundaryLoop (m : Mesh) (h : HalfedgeId) : Except MeshError (List HalfedgeId) := do
  unless ← m.isBoundary h do throw (.invalidInput (.facedHalfedge h))
  let around ← m.loop h
  around.forM fun g => do
    unless ← m.isBoundary g do throw (.invariantViolation (.boundaryLoopFaced h g))
  return around

/-- The loops through those of the given half-edges that are on the boundary and not on an
earlier loop. -/
def boundaryLoopsFrom (m : Mesh) (seen : List HalfedgeId) :
    List HalfedgeId → Except MeshError (List (List HalfedgeId))
  | [] => return []
  | h :: rest => do
    if h ∈ seen then boundaryLoopsFrom m seen rest
    else if ← m.isBoundary h then
      let around ← m.boundaryLoop h
      return around :: (← boundaryLoopsFrom m (around ++ seen) rest)
    else boundaryLoopsFrom m seen rest

/-- All boundary loops, each from its first half-edge on, in the order of these. -/
def boundaryLoops (m : Mesh) : Except MeshError (List (List HalfedgeId)) :=
  m.boundaryLoopsFrom [] m.halfedgeIds

end Mesh

end PlanarMesh
