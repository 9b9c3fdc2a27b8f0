import PlanarMesh.Error
import PlanarMesh.Geometry.BoundingBox
import PlanarMesh.Storage.SlotStore.View

/-!
# Meshes of half-edges

A mesh stores nodes, edges and triangular faces.  An edge record holds the edge's two
directed sides; a half-edge knows where it starts, which half-edges follow and precede it on
its loop, and the face that it borders, if any.

Reading through a handle is checked: a handle that no longer resolves is an error that names
the handle.  The `?` forms answer with an `Option` instead and are what statements about
records are made of; the checked forms are their images under `orInvalid`.

Nothing here says that the records fit together.  What a mesh made of sound records
satisfies is in `PlanarMesh.Mesh.Validity`.
-/

namespace PlanarMesh

/-- A node: a position and some half-edge that starts here, none when the node is
isolated. -/
structure Node where
  position : Point
  halfedge : Option HalfedgeId
deriving DecidableEq

/-- One directed side of an edge. -/
structure Halfedge where
  origin : NodeId
  next : HalfedgeId
  prev : HalfedgeId
  /-- The face on the left, none on the boundary of the mesh. -/
  face : Option FaceId
deriving DecidableEq

/-- An edge: its two directed sides. -/
structure Edge where
  first : Halfedge
  second : Halfedge
deriving DecidableEq

/-- A triangular face: some half-edge of its loop. -/
structure Face where
  halfedge : HalfedgeId
deriving DecidableEq

/-- No half-edge starts at the node. -/
def Node.isIsolated (n : Node) : Bool :=
  n.halfedge.isNone

/-- The half-edge borders no face. -/
def Halfedge.isBoundary (h : Halfedge) : Bool :=
  h.face.isNone

namespace Edge

/-- The side of an edge. -/
def halfedge (e : Edge) : Side → Halfedge
  | .first => e.first
  | .second => e.second

/-- Replace one side of the edge. -/
def modifySide (e : Edge) (f : Halfedge → Halfedge) : Side → Edge
  | .first => { e with first := f e.first }
  | .second => { e with second := f e.second }

/-- At least one side borders no face. -/
def isBoundary (e : Edge) : Bool :=
  e.first.isBoundary || e.second.isBoundary

/-- A fresh edge between two nodes: each side is followed and preceded by the other, and
neither borders a face. -/
def between (e : EdgeId) (n₁ n₂ : NodeId) : Edge where
  first := ⟨n₁, e.second, e.second, none⟩
  second := ⟨n₂, e.first, e.first, none⟩

theorem halfedge_modifySide (e : Edge) (f : Halfedge → Halfedge) (side side' : Side) :
    (e.modifySide f side).halfedge side' =
      if side' = side then f (e.halfedge side) else e.halfedge side' := by
  cases side <;> cases side' <;> simp [modifySide, halfedge]

end Edge

/-- A planar triangulated mesh. -/
structure Mesh where
  nodes : SlotStore .node Node
  edges : SlotStore .edge Edge
  faces : SlotStore .face Face
  /-- The bounding box, once it was asked for and as long as it stays right. -/
  cachedBox : Option BoundingBox

namespace Mesh

/-- The mesh without records. -/
def empty : Mesh :=
  ⟨.empty, .empty, .empty, none⟩

/-! ## Counts and handles -/

/-- The number of live nodes. -/
def nodeCount (m : Mesh) : Nat :=
  m.nodes.size

/-- The number of live edges. -/
def edgeCount (m : Mesh) : Nat :=
  m.edges.size

/-- The number of live half-edges, two for each edge. -/
def halfedgeCount (m : Mesh) : Nat :=
  2 * m.edgeCount

/-- The number of live faces. -/
def faceCount (m : Mesh) : Nat :=
  m.faces.size

/-- The live nodes in slot order. -/
def nodeIds (m : Mesh) : List NodeId :=
  m.nodes.keys

/-- The live edges in slot order. -/
def edgeIds (m : Mesh) : List EdgeId :=
  m.edges.keys

/-- The live half-edges, edge by edge, first sides first. -/
def halfedgeIds (m : Mesh) : List HalfedgeId :=
  m.edgeIds.flatMap Key.halfedges

/-- The live faces in slot order. -/
def faceIds (m : Mesh) : List FaceId :=
  m.faces.keys

/-! ## Records -/

/-- The record of a node, if the handle resolves. -/
def node? (m : Mesh) (n : NodeId) : Option Node :=
  m.nodes.get? n

/-- The record of an edge, if the handle resolves. -/
def edge? (m : Mesh) (e : EdgeId) : Option Edge :=
  m.edges.get? e

/-- The record of a half-edge, if the handle of its edge resolves. -/
def halfedge? (m : Mesh) (h : HalfedgeId) : Option Halfedge :=
  (m.edge? h.edge).map fun e => e.halfedge h.side

/-- The record of a face, if the handle resolves. -/
def face? (m : Mesh) (f : FaceId) : Option Face :=
  m.faces.get? f

/-- The record of a live node. -/
def node (m : Mesh) (n : NodeId) : Except MeshError Node :=
  orInvalid (.invalidNode n) (m.node? n)

/-- The record of a live edge. -/
def edge (m : Mesh) (e : EdgeId) : Except MeshError Edge :=
  orInvalid (.invalidEdge e) (m.edge? e)

/-- The record of a live half-edge. -/
def halfedge (m : Mesh) (h : HalfedgeId) : Except MeshError Halfedge :=
  orInvalid (.invalidHalfedge h) (m.halfedge? h)

/-- The record of a live face. -/
def face (m : Mesh) (f : FaceId) : Except MeshError Face :=
  orInvalid (.invalidFace f) (m.face? f)

/-- The node is live. -/
def containsNode (m : Mesh) (n : NodeId) : Bool :=
  (m.node? n).isSome

/-- The edge is live. -/
def containsEdge (m : Mesh) (e : EdgeId) : Bool :=
  (m.edge? e).isSome

/-- The edge of the half-edge is live. -/
def containsHalfedge (m : Mesh) (h : HalfedgeId) : Bool :=
  (m.halfedge? h).isSome

/-- The face is live. -/
def containsFace (m : Mesh) (f : FaceId) : Bool :=
  (m.face? f).isSome

theorem node_eq_ok_iff {m : Mesh} {n : NodeId} {record : Node} :
    m.node n = .ok record ↔ m.node? n = some record :=
  orInvalid_eq_ok_iff

theorem edge_eq_ok_iff {m : Mesh} {e : EdgeId} {record : Edge} :
    m.edge e = .ok record ↔ m.edge? e = some record :=
  orInvalid_eq_ok_iff

theorem halfedge_eq_ok_iff {m : Mesh} {h : HalfedgeId} {record : Halfedge} :
    m.halfedge h = .ok record ↔ m.halfedge? h = some record :=
  orInvalid_eq_ok_iff

theorem face_eq_ok_iff {m : Mesh} {f : FaceId} {record : Face} :
    m.face f = .ok record ↔ m.face? f = some record :=
  orInvalid_eq_ok_iff

/-- The two sides of an edge are live together. -/
@[simp]
theorem containsHalfedge_pair (m : Mesh) (h : HalfedgeId) :
    m.containsHalfedge h.pair = m.containsHalfedge h := by
  simp [containsHalfedge, halfedge?]

/-! ## Navigation -/

/-- Where a node lies. -/
def position (m : Mesh) (n : NodeId) : Except MeshError Point :=
  return (← m.node n).position

/-- The half-edge after `h` on its loop. -/
def next (m : Mesh) (h : HalfedgeId) : Except MeshError HalfedgeId :=
  return (← m.halfedge h).next

/-- The half-edge before `h` on its loop. -/
def prev (m : Mesh) (h : HalfedgeId) : Except MeshError HalfedgeId :=
  return (← m.halfedge h).prev

/-- The node at which `h` starts. -/
def origin (m : Mesh) (h : HalfedgeId) : Except MeshError NodeId :=
  return (← m.halfedge h).origin

/-- The node at which the half-edge ends: where its twin starts. -/
def target (m : Mesh) (h : HalfedgeId) : Except MeshError NodeId :=
  m.origin h.pair

/-- The face that `h` borders, none on the boundary. -/
def faceOf (m : Mesh) (h : HalfedgeId) : Except MeshError (Option FaceId) :=
  return (← m.halfedge h).face

/-- Whether `h` borders no face. -/
def isBoundary (m : Mesh) (h : HalfedgeId) : Except MeshError Bool :=
  return (← m.halfedge h).isBoundary

/-- Whether some side of `e` borders no face. -/
def isBoundaryEdge (m : Mesh) (e : EdgeId) : Except MeshError Bool :=
  return (← m.edge e).isBoundary

/-- Whether no half-edge represents `n`. -/
def isIsolated (m : Mesh) (n : NodeId) : Except MeshError Bool :=
  return (← m.node n).isIsolated

/-- The positions of the ends of a half-edge. -/
def segment (m : Mesh) (h : HalfedgeId) : Except MeshError (Point × Point) :=
  return (← m.position (← m.origin h), ← m.position (← m.target h))

/-- The first half-edge without a face, in edge order. -/
def boundaryHalfedge? (m : Mesh) : Option HalfedgeId :=
  m.halfedgeIds.find? fun h => (m.halfedge? h).any Halfedge.isBoundary

/-! ## The bounding box -/

/-- The smallest box around all nodes, collected afresh. -/
def collectBox (m : Mesh) : BoundingBox :=
  BoundingBox.ofPoints (m.nodes.toList.map fun entry => entry.2.position)

/-- The bounding box, from the cache when it is filled. -/
def boundingBox (m : Mesh) : BoundingBox :=
  m.cachedBox.getD m.collectBox

/-- Fill the cache of the bounding box. -/
def cacheBox (m : Mesh) : Mesh :=
  { m with cachedBox := some m.boundingBox }

/-- Drop what is derived from node positions. -/
def invalidateCache (m : Mesh) : Mesh :=
  { m with cachedBox := none }

/-! ## Writing records -/

/-- Change the record of a node, if it is live. -/
def modifyNode (m : Mesh) (n : NodeId) (f : Node → Node) : Mesh :=
  { m with nodes := m.nodes.modify n f }

/-- Change the record of a half-edge, if it is live. -/
def modifyHalfedge (m : Mesh) (h : HalfedgeId) (f : Halfedge → Halfedge) : Mesh :=
  { m with edges := m.edges.modify h.edge fun e => e.modifySide f h.side }

/-- Change the record of a face, if it is live. -/
def modifyFace (m : Mesh) (f : FaceId) (g : Face → Face) : Mesh :=
  { m with faces := m.faces.modify f g }

/-! ## The view of each write -/

@[simp]
theorem node?_modifyHalfedge (m : Mesh) (h : HalfedgeId) (f : Halfedge → Halfedge)
    (n : NodeId) : (m.modifyHalfedge h f).node? n = m.node? n :=
  rfl

@[simp]
theorem face?_modifyHalfedge (m : Mesh) (h : HalfedgeId) (f : Halfedge → Halfedge)
    (g : FaceId) : (m.modifyHalfedge h f).face? g = m.face? g :=
  rfl

@[simp]
theorem halfedge?_modifyNode (m : Mesh) (n : NodeId) (f : Node → Node) (h : HalfedgeId) :
    (m.modifyNode n f).halfedge? h = m.halfedge? h :=
  rfl

@[simp]
theorem face?_modifyNode (m : Mesh) (n : NodeId) (f : Node → Node) (g : FaceId) :
    (m.modifyNode n f).face? g = m.face? g :=
  rfl

theorem node?_modifyNode (m : Mesh) (n n' : NodeId) (f : Node → Node) :
    (m.modifyNode n f).node? n' = if n' = n then (m.node? n).map f else m.node? n' :=
  m.nodes.get?_modify n n' f

theorem halfedge?_modifyHalfedge (m : Mesh) (h h' : HalfedgeId) (f : Halfedge → Halfedge) :
    (m.modifyHalfedge h f).halfedge? h' =
      if h' = h then (m.halfedge? h).map f else m.halfedge? h' := by
  cases h with
  | mk e side =>
  cases h' with
  | mk e' side' =>
  simp only [halfedge?, edge?, modifyHalfedge, SlotStore.get?_modify, HalfedgeId.mk.injEq]
  by_cases same : e' = e
  · subst same
    cases m.edges.get? e' <;> simp [Edge.halfedge_modifySide]
    split <;> rfl
  · simp [same]

end Mesh

end PlanarMesh
