import PlanarMesh.Proofs.Edit.Growth
import PlanarMesh.Proofs.Splice.Spoke

/-!
# Hubs

The new node of a refinement is the hub of its spokes.  It is represented by the first spoke,
and as long as no face stands on that one, every further spoke comes right behind it (`Hub`).
At the other end a spoke is attached behind the first free place of the corner
(`AddedEdge.loose_end`), and the corners where it does not end do not notice it.
-/

namespace PlanarMesh

namespace Mesh

/-- The hub `x` is represented by its first spoke `e`, behind which there is room; the other
spokes are those of `l`. -/
structure Hub (m : Mesh) (x : NodeId) (e : EdgeId) (l : List HalfedgeId) : Prop where
  represented : ∃ record, m.node? x = some record ∧ record.halfedge = some e.first
  ring : m.Ring x ↑(e.first :: l)
  free : m.Free e.second

/-- A half-edge is docked right behind a representative with a free twin. -/
theorem Docked.ring_cons {m m' : Mesh} {h r : HalfedgeId} {n : NodeId} {record : Node}
    {l : List HalfedgeId} (docked : m.Docked h n m') (found : m.node? n = some record)
    (chosen : record.halfedge = some r) (around : m.Ring n ↑(r :: l)) (free : m.Free r.pair) :
    m'.Ring n ↑(r :: h :: l) :=
  docked.ring record r (r :: l) [] r l found chosen around rfl ⟨rfl, by simp, free⟩

namespace AddedEdge

variable {m m' : Mesh} {n₁ n₂ : NodeId} {e : EdgeId} (added : m.AddedEdge n₁ n₂ e m')

include added

theorem free_of_free {h : HalfedgeId} (free : m.Free h) : m'.Free h :=
  (added.free_iff (added.edge_ne (containsHalfedge_iff_faceOf?.2 ⟨none, free⟩))).2 free

/-- At a node, the same half-edges that arrive are free. -/
theorem free_pair_iff {a : HalfedgeId} {n : NodeId} (start : m.origin? a = some n) :
    m'.Free a.pair ↔ m.Free a.pair :=
  added.free_iff (added.edge_ne (h := a) (containsHalfedge_of_origin? start))

section Corners

variable {n : NodeId} {l : List HalfedgeId} {p : HalfedgeId}

theorem loose_of_ne (other₁ : n ≠ n₁) (other₂ : n ≠ n₂) (loose : m.Loose n l p) :
    m'.Loose n l p :=
  loose.of_ring (fun ring => added.ring_of_ne n ring other₁ other₂)
    fun _ mem => added.free_pair_iff (loose.starts mem)

theorem shifted_of_ne (other₁ : n ≠ n₁) (other₂ : n ≠ n₂) (shifted : m.Shifted n l p) :
    m'.Shifted n l p :=
  shifted.of_ring (fun ring => added.ring_of_ne n ring other₁ other₂)
    fun _ mem => added.free_pair_iff (shifted.starts mem)

theorem loose_end (sound : m.Sound) (around : m.Ring n₂ ↑l) (room : ∃ a ∈ l, m.Free a.pair) :
    m'.Loose n₂ l e.second :=
  added.docked₂.loose sound around room fun a mem =>
    added.free_pair_iff ((around.mem_iff a).1 mem)

/-- At an isolated node there is only one place. -/
theorem seated_of_nil (sound : m.Sound) (around : m.Ring n₂ ↑([] : List HalfedgeId))
    (live : m.containsNode n₂ = true) : m'.Seated n₂ [] e.second := by
  have isolated : ∀ h, m.origin? h ≠ some n₂ := fun h start => by
    simpa using (around.mem_iff h).2 start
  rcases added.docked₂.exists_ring_concat sound live (not_interior_of_isolated isolated) with
    ⟨l, around', docked⟩
  cases l with
  | nil => exact docked
  | cons a l => exact absurd ((around'.mem_iff a).1 (by simp)) (isolated a)

end Corners

/-- The first spoke makes an isolated node a hub. -/
theorem hub {record : Node} (found : m.node? n₁ = some record)
    (isolated : record.halfedge = none) : m'.Hub n₁ e [] where
  represented := by
    refine ⟨record.adopt (some e.first), ?_, ?_⟩
    · rw [added.node?, found, if_pos rfl]
      rfl
    · simp [Node.adopt, isolated]
  ring := added.docked₁.ring_of_isolated record found isolated
  free := added.free_new rfl

end AddedEdge

/-- A new node becomes a hub with its first spoke. -/
theorem AddedNode.hub {m m₁ m₂ : Mesh} {position : Point} {x n : NodeId} {e : EdgeId}
    (node : m.AddedNode position x m₁) (spoke : m₁.AddedEdge x n e m₂) : m₂.Hub x e [] :=
  spoke.hub (by rw [node.node?, if_pos rfl]) rfl

namespace Hub

variable {m m' : Mesh} {x n : NodeId} {e e' : EdgeId} {l : List HalfedgeId} (hub : m.Hub x e l)

include hub

theorem starts : m.origin? e.first = some x :=
  (hub.ring.mem_iff e.first).1 (by simp)

theorem contains : m.containsNode x = true := by
  rcases hub.represented with ⟨record, found, -⟩
  exact Option.isSome_iff_exists.2 ⟨record, found⟩

/-- There is room at the hub for a spoke to a node with room. -/
theorem connectable (ne : x ≠ n) (live : m.containsNode n = true) (room : ¬ m.Interior n) :
    m.Connectable x n where
  live₁ := hub.contains
  live₂ := live
  ne := ne
  room₁ := not_interior_of_free hub.starts hub.free
  room₂ := room

/-- A further spoke comes right behind the first. -/
theorem of_added (added : m.AddedEdge x n e' m') : m'.Hub x e (e'.first :: l) where
  represented := by
    rcases hub.represented with ⟨record, found, chosen⟩
    exact ⟨record, added.node?_of_represented found chosen, chosen⟩
  ring := by
    rcases hub.represented with ⟨record, found, chosen⟩
    exact added.docked₁.ring_cons found chosen hub.ring hub.free
  free := added.free_of_free hub.free

end Hub

end Mesh

end PlanarMesh
