import PlanarMesh.Edit.Euler
import PlanarMesh.Proofs.Splice.Attach

/-!
# Records of edges

What putting an edge record into the mesh and taking it out does to the fields of half-edges.  A
new edge is attached to neither of its nodes: each of its sides follows itself alone.
-/

namespace PlanarMesh

namespace Mesh

/-- The mesh with the record of a new edge, attached to neither of its nodes. -/
def withEdge (m : Mesh) (n₁ n₂ : NodeId) : Mesh :=
  { m with edges := m.edges.insert (.between m.edges.nextKey n₁ n₂) }

/-- The mesh without the record of an edge. -/
def withoutEdge (m : Mesh) (e : EdgeId) : Mesh :=
  { m with edges := m.edges.erase e }

section Records

variable {m : Mesh} {n₁ n₂ : NodeId}

theorem halfedge?_withEdge (h : HalfedgeId) : (m.withEdge n₁ n₂).halfedge? h =
    if h.edge = m.edges.nextKey then
      some ((Edge.between m.edges.nextKey n₁ n₂).halfedge h.side)
    else m.halfedge? h := by
  rw [halfedge?, edge?, withEdge, SlotStore.get?_insert]
  split <;> rfl

theorem halfedge?_withoutEdge (e : EdgeId) (h : HalfedgeId) :
    (m.withoutEdge e).halfedge? h = if h.edge = e then none else m.halfedge? h := by
  rw [halfedge?, edge?, withoutEdge, SlotStore.get?_erase]
  split <;> rfl

@[simp]
theorem node?_withoutEdge (e : EdgeId) (n : NodeId) : (m.withoutEdge e).node? n = m.node? n :=
  rfl

@[simp]
theorem edges_withoutEdge (e : EdgeId) : (m.withoutEdge e).edges = m.edges.erase e :=
  rfl

@[simp]
theorem faces_withoutEdge (e : EdgeId) : (m.withoutEdge e).faces = m.faces :=
  rfl

theorem halfedge?_of_fresh {h : HalfedgeId} (fresh : h.edge = m.edges.nextKey) :
    m.halfedge? h = none := by
  rw [halfedge?, edge?, fresh, SlotStore.get?_nextKey]
  rfl

/-- A half-edge belongs to an edge exactly as one of its two sides. -/
theorem edge_eq_iff {h : HalfedgeId} {e : EdgeId} : h.edge = e ↔ h = e.first ∨ h = e.second := by
  constructor
  · rintro rfl
    simpa [Key.halfedges] using h.mem_halfedges_edge
  · rintro (rfl | rfl) <;> rfl

theorem first_ne_second (e : EdgeId) : e.first ≠ e.second := by
  simp [Key.first, Key.second]

theorem origin?_withEdge (h : HalfedgeId) : (m.withEdge n₁ n₂).origin? h =
    if h = m.edges.nextKey.first then some n₁
    else if h = m.edges.nextKey.second then some n₂ else m.origin? h := by
  rw [origin?, halfedge?_withEdge, origin?]
  by_cases first : h = m.edges.nextKey.first
  · rw [if_pos (edge_eq_iff.2 (.inl first)), if_pos first, first]
    rfl
  by_cases second : h = m.edges.nextKey.second
  · rw [if_pos (edge_eq_iff.2 (.inr second)), if_neg first, if_pos second, second]
    rfl
  · rw [if_neg fun same => (edge_eq_iff.1 same).elim first second, if_neg first, if_neg second]

theorem faceOf?_withEdge (h : HalfedgeId) : (m.withEdge n₁ n₂).faceOf? h =
    if h.edge = m.edges.nextKey then some none else m.faceOf? h := by
  rw [faceOf?, halfedge?_withEdge, faceOf?]
  split
  · cases h.side <;> rfl
  · rfl

theorem free_withEdge {h : HalfedgeId} (old : h.edge ≠ m.edges.nextKey) :
    (m.withEdge n₁ n₂).Free h ↔ m.Free h := by
  rw [Free, faceOf?_withEdge, if_neg old, Free]

theorem edge_ne_nextKey {h : HalfedgeId} (live : m.containsHalfedge h = true) :
    h.edge ≠ m.edges.nextKey := fun fresh => by
  simp [containsHalfedge, halfedge?_of_fresh fresh] at live

theorem Follows.withEdge {g h : HalfedgeId} (follows : m.Follows g h) :
    (m.withEdge n₁ n₂).Follows g h := by
  have gOld : g.pair.edge ≠ m.edges.nextKey :=
    show g.edge ≠ _ from edge_ne_nextKey follows.live_left
  have hOld := edge_ne_nextKey follows.live_right
  rw [Follows, next?, halfedge?_withEdge, if_neg gOld, prev?, halfedge?_withEdge, if_neg hOld]
  exact follows

theorem Follows.withoutEdge {e : EdgeId} {g h : HalfedgeId} (follows : m.Follows g h)
    (left : g.edge ≠ e) (right : h.edge ≠ e) : (m.withoutEdge e).Follows g h := by
  rw [Follows, next?, halfedge?_withoutEdge, if_neg (show g.pair.edge ≠ e from left), prev?,
    halfedge?_withoutEdge, if_neg right]
  exact follows

/-- Each side of a new edge stands alone. -/
theorem follows_self_withEdge {h : HalfedgeId} (new : h.edge = m.edges.nextKey) :
    (m.withEdge n₁ n₂).Follows h h := by
  rcases edge_eq_iff.1 new with rfl | rfl
  · constructor
    · rw [next?, halfedge?_withEdge, if_pos (by rfl)]
      rfl
    · rw [prev?, halfedge?_withEdge, if_pos (by rfl)]
      rfl
  · constructor
    · rw [next?, halfedge?_withEdge, if_pos (by rfl)]
      rfl
    · rw [prev?, halfedge?_withEdge, if_pos (by rfl)]
      rfl

end Records

end Mesh

end PlanarMesh
