import PlanarMesh.Storage.Key

/-!
# Handles

Nodes, edges and faces are named by keys.  Half-edges have no store of their own: an edge
record holds both of its directed sides, and a half-edge is named by the edge and the side.
The twin of a half-edge is the other side of its edge, so `pair` is an involution without
fixed points whatever the records say.
-/

namespace PlanarMesh

/-- A handle of a node. -/
abbrev NodeId := Key .node

/-- A handle of an edge. -/
abbrev EdgeId := Key .edge

/-- A handle of a face. -/
abbrev FaceId := Key .face

/-- One of the two directed sides of an edge; the first leaves the endpoint that was given
first when the edge was added. -/
inductive Side where
  | first
  | second
deriving DecidableEq

namespace Side

/-- The other side. -/
def flip : Side → Side
  | first => second
  | second => first

/-- The place of a side in its edge. -/
def index : Side → Nat
  | first => 0
  | second => 1

/-- The side as it is written. -/
def name : Side → String
  | first => "First"
  | second => "Second"

@[simp]
theorem flip_flip (side : Side) : side.flip.flip = side := by
  cases side <;> rfl

theorem flip_ne (side : Side) : side.flip ≠ side := by
  cases side <;> simp [flip]

end Side

/-- A directed side of an edge. -/
structure HalfedgeId where
  edge : EdgeId
  side : Side
deriving DecidableEq

/-- The side that leaves the edge's first endpoint. -/
def Key.first (e : EdgeId) : HalfedgeId :=
  ⟨e, .first⟩

/-- The side that leaves the edge's second endpoint. -/
def Key.second (e : EdgeId) : HalfedgeId :=
  ⟨e, .second⟩

/-- Both sides of an edge, the first one first. -/
def Key.halfedges (e : EdgeId) : List HalfedgeId :=
  [e.first, e.second]

namespace HalfedgeId

/-- The twin: the same edge in the other direction. -/
def pair (h : HalfedgeId) : HalfedgeId :=
  ⟨h.edge, h.side.flip⟩

@[simp]
theorem pair_pair (h : HalfedgeId) : h.pair.pair = h := by
  cases h
  simp [pair]

theorem pair_ne (h : HalfedgeId) : h.pair ≠ h := fun same =>
  h.side.flip_ne (congrArg HalfedgeId.side same)

theorem pair_injective {g h : HalfedgeId} (same : g.pair = h.pair) : g = h := by
  rw [← pair_pair g, same, pair_pair]

@[simp]
theorem edge_pair (h : HalfedgeId) : h.pair.edge = h.edge :=
  rfl

/-- An edge has no more than two sides. -/
theorem eq_or_eq_pair {g h : HalfedgeId} (same : g.edge = h.edge) : g = h ∨ g = h.pair := by
  rcases g with ⟨e, _ | _⟩ <;> rcases h with ⟨e', _ | _⟩ <;> cases same <;> simp [pair, Side.flip]

/-- Half-edges are ordered by edge, the first side before the second. -/
instance : LE HalfedgeId :=
  ⟨fun g h => g.edge < h.edge ∨ g.edge = h.edge ∧ g.side.index ≤ h.side.index⟩

instance : LT HalfedgeId :=
  ⟨fun g h => g.edge < h.edge ∨ g.edge = h.edge ∧ g.side.index < h.side.index⟩

instance (g h : HalfedgeId) : Decidable (g ≤ h) :=
  inferInstanceAs (Decidable (g.edge < h.edge ∨ g.edge = h.edge ∧ g.side.index ≤ h.side.index))

instance (g h : HalfedgeId) : Decidable (g < h) :=
  inferInstanceAs (Decidable (g.edge < h.edge ∨ g.edge = h.edge ∧ g.side.index < h.side.index))

/-- The edge and the index of the side, `3v1:0`. -/
instance : ToString HalfedgeId :=
  ⟨fun h => s!"{h.edge}:{h.side.index}"⟩

/-- The half-edge with the name of its type, `HalfedgeId(3v1:0)`. -/
def tagged (h : HalfedgeId) : String :=
  s!"HalfedgeId({h})"

end HalfedgeId

@[simp]
theorem Key.pair_first (e : EdgeId) : e.first.pair = e.second :=
  rfl

@[simp]
theorem Key.pair_second (e : EdgeId) : e.second.pair = e.first :=
  rfl

theorem HalfedgeId.mem_halfedges_edge (h : HalfedgeId) : h ∈ h.edge.halfedges := by
  cases h with
  | mk edge side => cases side <;> simp [Key.halfedges, Key.first, Key.second]

end PlanarMesh
