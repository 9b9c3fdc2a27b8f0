import Mathlib.Combinatorics.SimpleGraph.Metric
import PlanarMesh.Proofs.Edit.Clear
import PlanarMesh.Proofs.Flood.Sorting
import PlanarMesh.Proofs.Incidence

/-!
# Adjacent faces

Two faces are neighbours across an edge that has one of them on either side (`Adjacent`), or around
a node that is a corner of both (`Touching`).  Both relations make the faces of a mesh the vertices
of a graph (`faceGraph`), and with it come paths of faces, their length and the parts of the mesh
that they connect.

On a sound mesh the neighbours of a face can always be listed, and the list holds exactly the
faces that are adjacent to it in the graph (`Sound.exists_adjacentFaces`).
-/

namespace PlanarMesh

namespace Mesh

/-- The faces have an edge in common. -/
def Adjacent (m : Mesh) (f g : FaceId) : Prop :=
  ∃ h, m.faceOf? h = some (some f) ∧ m.faceOf? h.pair = some (some g)

/-- The node is a corner of the face. -/
def HasCorner (m : Mesh) (n : NodeId) (f : FaceId) : Prop :=
  ∃ t, m.faceNodes f = .ok t ∧ n ∈ t.toList

/-- The faces have a corner in common. -/
def Touching (m : Mesh) (f g : FaceId) : Prop :=
  ∃ n, m.HasCorner n f ∧ m.HasCorner n g

variable {m : Mesh} {f g : FaceId}

theorem Adjacent.symm (adjacent : m.Adjacent f g) : m.Adjacent g f := by
  rcases adjacent with ⟨h, here, there⟩
  exact ⟨h.pair, there, by rwa [HalfedgeId.pair_pair]⟩

instance : Std.Symm m.Adjacent :=
  ⟨fun _ _ => Adjacent.symm⟩

instance (f g : FaceId) : Decidable (m.Adjacent f g) :=
  decidable_of_iff (∃ h ∈ m.halfedgeIds, m.faceOf? h = some (some f) ∧
      m.faceOf? h.pair = some (some g)) <| by
    constructor
    · rintro ⟨h, -, here, there⟩
      exact ⟨h, here, there⟩
    · rintro ⟨h, here, there⟩
      exact ⟨h, mem_halfedgeIds.2 (containsHalfedge_iff_faceOf?.2 ⟨_, here⟩), here, there⟩

/-- The graph of the faces, in which the neighbours of the given kind are adjacent. -/
def faceGraph (m : Mesh) (adjacency : Adjacency) : SimpleGraph FaceId where
  Adj f g := f ≠ g ∧ match adjacency with
    | .edge => m.Adjacent f g
    | .vertex => m.Touching f g
  symm := by
    constructor
    rintro f g ⟨differ, near⟩
    refine ⟨differ.symm, ?_⟩
    cases adjacency with
    | edge => exact near.symm
    | vertex => exact near.imp fun n common => common.symm
  loopless := ⟨fun _ near => near.1 rfl⟩

/-- The corners of a live face are where its sides start. -/
theorem Sound.exists_corners (sound : m.Sound) {f : FaceId} (live : m.containsFace f = true) :
    ∃ h₁ h₂ h₃ a b c, m.Triangle f ⟨h₁, h₂, h₃⟩ ∧ m.Chain h₁ h₂ h₃ a b c ∧
      m.faceNodes f = .ok ⟨a, b, c⟩ := by
  rcases Option.isSome_iff_exists.1 live with ⟨record, found⟩
  rcases sound.triangle f record found with ⟨⟨h₁, h₂, h₃⟩, first, triangle⟩
  rcases triangle.chain sound with ⟨a, b, c, chain⟩
  exact ⟨h₁, h₂, h₃, a, b, c, triangle, chain, faceNodes_of_triangle found first triangle
    chain.side₁.start chain.side₂.start chain.side₃.start⟩

theorem HasCorner.live {n : NodeId} {f : FaceId} (corner : m.HasCorner n f) :
    m.containsFace f = true := by
  rcases corner with ⟨t, told, -⟩
  rcases bind_eq_ok_iff.1 told with ⟨sides, walked, -⟩
  exact Option.isSome_iff_exists.2 ⟨_, (faceHalfedges_eq_ok_iff.1 walked).1⟩

/-- The walk around a node lists the faces there in the order of its half-edges. -/
theorem Tour.incidentFaces {n : NodeId} {l : List HalfedgeId} (tour : m.Tour n l) :
    m.incidentFaces n = .ok (l.filterMap fun h => (m.faceOf? h).join) := by
  have answers : l.mapM m.faceOf = .ok (l.map fun h => (m.faceOf? h).join) := by
    apply mapM_eq_ok
    intro h mem
    obtain ⟨face, reported⟩ := containsHalfedge_iff_faceOf?.1 (tour.ring.live mem)
    rw [faceOf_eq_ok_iff, reported]
    rfl
  rw [Mesh.incidentFaces, tour.lists]
  simp only [bind, Except.bind, answers, pure, Except.pure, List.filterMap_map, Function.comp_def,
    id_eq]

namespace Sound

variable (sound : m.Sound)

include sound

/-- The corners of a face are the nodes at which the half-edges start that report it. -/
theorem hasCorner_iff {n : NodeId} :
    m.HasCorner n f ↔ ∃ h, m.origin? h = some n ∧ m.faceOf? h = some (some f) := by
  have starts {h₁ h₂ h₃ : HalfedgeId} {a b c : NodeId} (chain : m.Chain h₁ h₂ h₃ a b c) :
      n ∈ Corners.toList ⟨a, b, c⟩ ↔
        ∃ h ∈ Corners.toList ⟨h₁, h₂, h₃⟩, m.origin? h = some n := by
    simp [chain.side₁.start, chain.side₂.start, chain.side₃.start, eq_comm]
  constructor
  · intro corner
    rcases sound.exists_corners corner.live with
      ⟨h₁, h₂, h₃, a, b, c, triangle, chain, corners⟩
    rcases corner with ⟨t, told, mem⟩
    cases corners.symm.trans told
    rcases (starts chain).1 mem with ⟨h, side, start⟩
    exact ⟨h, start, (triangle.reports_iff h).2 side⟩
  · rintro ⟨h, start, reports⟩
    rcases sound.exists_corners (sound.face_live h f reports) with
      ⟨h₁, h₂, h₃, a, b, c, triangle, chain, corners⟩
    exact ⟨_, corners, (starts chain).2 ⟨h, (triangle.reports_iff h).1 reports, start⟩⟩

/-- The two sides of an edge do not report the same face. -/
theorem ne_of_adjacent (adjacent : m.Adjacent f g) : f ≠ g := by
  rcases adjacent with ⟨h, here, there⟩
  rcases sound.exists_triangle here with ⟨⟨h, next, prev⟩, rfl, triangle⟩
  rcases triangle.chain sound with ⟨a, b, c, chain⟩
  rintro rfl
  exact (Flanked.faced triangle chain).pair_apart f (by simp) there

theorem face_live_of_adj {adjacency : Adjacency} (near : (m.faceGraph adjacency).Adj f g) :
    m.containsFace g = true := by
  rcases near with ⟨-, near⟩
  cases adjacency with
  | edge =>
    rcases near with ⟨h, -, there⟩
    exact sound.face_live h.pair g there
  | vertex =>
    rcases near with ⟨n, -, corner⟩
    exact corner.live

/-- Paths of faces lead from live faces to live faces. -/
theorem face_live_of_reachable {adjacency : Adjacency}
    (reachable : (m.faceGraph adjacency).Reachable f g) (live : m.containsFace f = true) :
    m.containsFace g = true := by
  rw [SimpleGraph.reachable_iff_reflTransGen] at reachable
  rcases Relation.ReflTransGen.cases_tail reachable with rfl | ⟨e, -, near⟩
  · exact live
  · exact sound.face_live_of_adj near

/-! ## The lists of neighbours -/

/-- The faces across the edges of a face are those that have an edge in common with it. -/
theorem exists_faceNeighbors (live : m.containsFace f = true) :
    ∃ l, m.faceNeighbors f = .ok l ∧ ∀ g, g ∈ l ↔ (m.faceGraph .edge).Adj f g := by
  rcases Option.isSome_iff_exists.1 live with ⟨record, found⟩
  rcases sound.triangle f record found with ⟨t, first, triangle⟩
  have twin {h k : HalfedgeId} (next : m.next? h = some k) :
      ∃ face, m.faceOf? h.pair = some face := by
    apply containsHalfedge_iff_faceOf?.1
    rw [containsHalfedge_pair]
    exact containsHalfedge_iff_next?.2 ⟨k, next⟩
  rcases twin triangle.next_a with ⟨a, acrossA⟩
  rcases twin triangle.next_b with ⟨b, acrossB⟩
  rcases twin triangle.next_c with ⟨c, acrossC⟩
  refine ⟨[a, b, c].filterMap id, ?_, fun g => ?_⟩
  · rw [faceNeighbors, faceHalfedges_of_triangle found first triangle]
    simp only [bind, Except.bind, pure, Except.pure, Corners.mapM, faceOf_eq_orInvalid, acrossA,
      acrossB, acrossC, orInvalid, Corners.toList]
  · have listed : g ∈ [a, b, c].filterMap id ↔
        ∃ h ∈ t.toList, m.faceOf? h.pair = some (some g) := by
      simp [acrossA, acrossB, acrossC, eq_comm]
    rw [listed]
    constructor
    · rintro ⟨h, mem, there⟩
      have adjacent : m.Adjacent f g := ⟨h, (triangle.reports_iff h).2 mem, there⟩
      exact ⟨sound.ne_of_adjacent adjacent, adjacent⟩
    · rintro ⟨-, h, here, there⟩
      exact ⟨h, (triangle.reports_iff h).1 here, there⟩

/-- The faces at a node are those of which it is a corner. -/
theorem exists_incidentFaces {n : NodeId} (live : m.containsNode n = true) :
    ∃ l, m.incidentFaces n = .ok l ∧ ∀ g, g ∈ l ↔ m.HasCorner n g := by
  rcases sound.exists_tour live with ⟨l, tour⟩
  have starts : ∀ h, h ∈ l ↔ m.origin? h = some n := tour.ring.mem_iff
  refine ⟨_, tour.incidentFaces, fun g => ?_⟩
  simp only [List.mem_filterMap, starts, Option.join_eq_some_iff, sound.hasCorner_iff]

/-- The neighbours of a live face are listed. -/
theorem exists_adjacentFaces (adjacency : Adjacency) (live : m.containsFace f = true) :
    ∃ l, m.adjacentFaces adjacency f = .ok l ∧ ∀ g, g ∈ l ↔ (m.faceGraph adjacency).Adj f g := by
  cases adjacency with
  | edge => exact sound.exists_faceNeighbors live
  | vertex =>
    rcases sound.exists_corners live with ⟨h₁, h₂, h₃, a, b, c, -, chain, corners⟩
    rcases sound.exists_incidentFaces (sound.origin_live _ _ chain.side₁.start) with
      ⟨as, aroundA, memA⟩
    rcases sound.exists_incidentFaces (sound.origin_live _ _ chain.side₂.start) with
      ⟨bs, aroundB, memB⟩
    rcases sound.exists_incidentFaces (sound.origin_live _ _ chain.side₃.start) with
      ⟨cs, aroundC, memC⟩
    refine ⟨(sortKeys [as, bs, cs].flatten).filter (· ≠ f), ?_, fun g => ?_⟩
    · rw [adjacentFaces, corners]
      simp only [bind, Except.bind, pure, Except.pure, Corners.mapM, aroundA, aroundB, aroundC,
        Corners.toList]
    · have common : g ∈ [as, bs, cs].flatten ↔ m.Touching f g := by
        have corner (n : NodeId) : m.HasCorner n f ↔ n ∈ Corners.toList ⟨a, b, c⟩ := by
          simp [HasCorner, corners]
        simp [Touching, corner, memA, memB, memC, or_and_right, exists_or]
      rw [List.mem_filter, mem_sortKeys, common, decide_eq_true_eq, and_comm, ne_comm]
      exact Iff.rfl

end Sound

end Mesh

end PlanarMesh
