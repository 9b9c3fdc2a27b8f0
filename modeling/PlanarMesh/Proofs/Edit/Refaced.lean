import PlanarMesh.Proofs.Edit.Bridge
import PlanarMesh.Proofs.Incidence

/-!
# Faces in place of faces

When an edge is split, the faces at its sides make room for two faces each at the new node
(`Refaced`).  Together with what clearing and connecting the edge does this is the whole effect of
the split (`splitsEdge_of_refaced`).  `SplitsEdge` says what the mesh is like afterwards; what
becomes of the rings of the ends is left open unless there was a face on both sides.
-/

namespace PlanarMesh

namespace Mesh

/-- The half-edge borders one of the given faces. -/
def Beside (m : Mesh) (flanks : List (FaceId × Corners NodeId)) (h : HalfedgeId) : Prop :=
  ∃ flank ∈ flanks, m.faceOf? h = some (some flank.1)

/-- `m'` is `m` with the edge `e` from `n₁` to `n₂` split by a new node; `flanks` are the faces
that it had at its sides. -/
structure SplitsEdge (m : Mesh) (e : EdgeId) (n₁ n₂ : NodeId)
    (flanks : List (FaceId × Corners NodeId)) (position : Point) (x : NodeId) (m' : Mesh) :
    Prop where
  nodeCount : m'.nodeCount = m.nodeCount + 1
  edgeCount : m'.edgeCount = m.edgeCount + (1 + flanks.length)
  faceCount : m'.faceCount = m.faceCount + flanks.length
  edge_gone : m'.containsEdge e = false
  faces_gone : ∀ flank ∈ flanks, m'.containsFace flank.1 = false
  new_node : m.containsNode x = false
  position : m'.position x = .ok position
  degree : m'.degree x = .ok (2 + flanks.length)
  surrounded : m'.Surrounded x (n₁ :: n₂ :: flanks.map fun flank => flank.2.c)
  faces : ∃ news : List (FaceId × FaceId),
    List.Forall₂ (fun flank new => m'.faceNodes new.1 = .ok ⟨x, flank.2.b, flank.2.c⟩ ∧
      m'.faceNodes new.2 = .ok ⟨x, flank.2.c, flank.2.a⟩) flanks news ∧
    ∀ g, m'.containsFace g = true ↔ (∃ new ∈ news, g = new.1 ∨ g = new.2) ∨
      m.containsFace g = true ∧ ∀ flank ∈ flanks, g ≠ flank.1
  old_position : ∀ n, m.containsNode n = true → m'.position n = m.position n
  origin? : ∀ h, m.containsHalfedge h = true → h.edge ≠ e → m'.origin? h = m.origin? h
  face? : ∀ g, m.containsFace g = true → (∀ flank ∈ flanks, g ≠ flank.1) →
    m'.face? g = m.face? g ∧ m'.faceHalfedges g = m.faceHalfedges g
  halfedge? : flanks.length = 2 → ∀ h, m.containsHalfedge h = true → ¬ m.Beside flanks h →
    m'.halfedge? h = m.halfedge? h

/-! ## Faces in place of faces -/

/-- `m'` is `m` with two faces at `x` for each of the given corners, and the spokes that these
need. -/
structure Refaced (m : Mesh) (x : NodeId) (flanks : List (FaceId × Corners NodeId))
    (news : List (FaceId × FaceId)) (m' : Mesh) : Prop where
  sound : m'.Sound
  grown : m.Grown m'
  nodeCount : m'.nodeCount = m.nodeCount
  edgeCount : m'.edgeCount = m.edgeCount + flanks.length
  faceCount : m'.faceCount = m.faceCount + 2 * flanks.length
  containsFace : ∀ g, m'.containsFace g = true ↔
    (∃ new ∈ news, g = new.1 ∨ g = new.2) ∨ m.containsFace g = true
  faceNodes : List.Forall₂ (fun flank new => m'.faceNodes new.1 = .ok ⟨x, flank.2.b, flank.2.c⟩ ∧
    m'.faceNodes new.2 = .ok ⟨x, flank.2.c, flank.2.a⟩) flanks news

namespace Refaced

variable {m m' m'' : Mesh} {x : NodeId} {flanks flanks' : List (FaceId × Corners NodeId)}
  {news news' : List (FaceId × FaceId)}

theorem refl (sound : m.Sound) (x : NodeId) : m.Refaced x [] [] m where
  sound := sound
  grown := .refl m
  nodeCount := rfl
  edgeCount := rfl
  faceCount := rfl
  containsFace g := by simp
  faceNodes := .nil

theorem trans (first : m.Refaced x flanks news m') (second : m'.Refaced x flanks' news' m'') :
    m.Refaced x (flanks ++ flanks') (news ++ news') m'' where
  sound := second.sound
  grown := first.grown.trans second.grown
  nodeCount := second.nodeCount.trans first.nodeCount
  edgeCount := by
    rw [second.edgeCount, first.edgeCount, List.length_append]
    omega
  faceCount := by
    rw [second.faceCount, first.faceCount, List.length_append]
    omega
  containsFace g := by
    rw [second.containsFace, first.containsFace]
    simp only [List.mem_append, or_and_right, exists_or]
    rw [or_assoc, or_left_comm]
  faceNodes := by
    refine List.rel_append (first.faceNodes.imp fun flank new corners => ?_) second.faceNodes
    exact corners.imp (second.grown.faceNodes first.sound) (second.grown.faceNodes first.sound)

end Refaced

theorem Folded.refaced {m m' : Mesh} {x u v w : NodeId} {s t h₁ h₂ : HalfedgeId}
    {lu lv k : List HalfedgeId} {e : EdgeId} {f₁ f₂ : FaceId}
    (folded : m.Folded x u v w s t h₁ h₂ lu lv k e f₁ f₂ m') (f : FaceId) :
    m.Refaced x [(f, ⟨u, v, w⟩)] [(f₁, f₂)] m' where
  sound := folded.sound
  grown := folded.grown
  nodeCount := folded.nodeCount
  edgeCount := folded.edgeCount
  faceCount := folded.faceCount
  containsFace g := by
    rw [folded.containsFace]
    simp [or_assoc]
  faceNodes := .cons ⟨folded.faceNodes₁, folded.faceNodes₂⟩ .nil

/-! ## The whole effect -/

section Effect

variable {m₀ m m₁ m₂ m₃ m₄ m₅ : Mesh} {e eA eB : EdgeId} {n₁ n₂ x : NodeId} {position : Point}
  {flanks : List (FaceId × Corners NodeId)} {news : List (FaceId × FaceId)} (sound : m₀.Sound)
  (live : m₀.containsEdge e = true) (cleared : m₀.Cleared (flanks.map Prod.fst) m)
  (free : ∀ h : HalfedgeId, h.edge = e → m.Free h) (dropped : m.DroppedEdge e m₁)
  (node : m₁.AddedNode position x m₂) (spoke₁ : m₂.AddedEdge x n₁ eA m₃)
  (spoke₂ : m₃.AddedEdge x n₂ eB m₄) (refaced : m₄.Refaced x flanks news m₅)

include cleared dropped in
/-- The faces that are neither new nor at the edge. -/
theorem containsFace_of_cleared (g : FaceId) : m₁.containsFace g = true ↔
    m₀.containsFace g = true ∧ ∀ flank ∈ flanks, g ≠ flank.1 := by
  have same : m₁.containsFace g = m.containsFace g := by
    rw [containsFace, face?, dropped.faces]
    rfl
  rw [same, cleared.containsFace]
  apply and_congr_right
  intro _
  simp only [List.mem_map, not_exists, not_and]
  exact forall₂_congr fun _ _ => ⟨fun other same => other same.symm,
    fun other same => other same.symm⟩

include node spoke₁ spoke₂ refaced in
theorem grown_of_refaced (sound : m₁.Sound) : m₁.Grown m₅ :=
  (((node.grown sound).trans (spoke₁.grown node.sound)).trans (spoke₂.grown spoke₁.sound)).trans
    refaced.grown

include sound cleared free dropped node spoke₁ spoke₂ refaced

theorem face?_of_refaced {g : FaceId} (old : m₀.containsFace g = true)
    (apart : ∀ flank ∈ flanks, g ≠ flank.1) :
    m₅.face? g = m₀.face? g ∧ m₅.faceHalfedges g = m₀.faceHalfedges g := by
  rcases Option.isSome_iff_exists.1 old with ⟨record, found⟩
  rcases sound.triangle g record found with ⟨t, first, triangle⟩
  have grown := grown_of_refaced node spoke₁ spoke₂ refaced dropped.sound
  have other : g ∉ flanks.map Prod.fst := by
    intro mem
    rcases List.mem_map.1 mem with ⟨flank, mem, same⟩
    exact apart flank mem same.symm
  have found₁ : m₁.face? g = some record := by
    rw [face?, dropped.faces]
    exact (cleared.face? g).trans ((if_neg other).trans found)
  have triangle₁ := dropped.triangle cleared.sound free (cleared.triangle other triangle)
  have found₅ := grown.face? g record found₁
  have triangle₅ := grown.triangle g t (Option.isSome_iff_exists.2 ⟨record, found₁⟩) triangle₁
  exact ⟨found₅.trans found.symm, (faceHalfedges_of_triangle found₅ first triangle₅).trans
    (faceHalfedges_of_triangle found first triangle).symm⟩

include live in
theorem splitsEdge_of_refaced
    (hub : ∃ (l : List HalfedgeId) (ends : List NodeId), m₅.Ring x ↑l ∧
      List.Forall₂ (fun h n => m₅.Leads h x n) l ends ∧
      ends.Perm (n₁ :: n₂ :: flanks.map fun flank => flank.2.c))
    (kept : flanks.length = 2 → ∀ h, m₀.containsHalfedge h = true → ¬ m₀.Beside flanks h →
      m₅.halfedge? h = m₀.halfedge? h) :
    m₀.SplitsEdge e n₁ n₂ flanks position x m₅ := by
  have grown := grown_of_refaced node spoke₁ spoke₂ refaced dropped.sound
  have placed : m₂.node? x = some ⟨position, none⟩ := by rw [node.node?, if_pos rfl]
  have contained : m₂.containsNode x = true := Option.isSome_iff_exists.2 ⟨_, placed⟩
  have grown₂ := ((spoke₁.grown node.sound).trans (spoke₂.grown spoke₁.sound)).trans refaced.grown
  have contains₁ := containsFace_of_cleared cleared dropped
  have contains₀ : ∀ n, m₁.containsNode n = m₀.containsNode n := fun n => by
    rw [dropped.containsNode, containsNode, node?, cleared.nodes]
    rfl
  have surrounded : m₅.Surrounded x (n₁ :: n₂ :: flanks.map fun flank => flank.2.c) := by
    rcases hub with ⟨l, ends, around, leads, permuted⟩
    have contained₅ := grown₂.containsNode contained
    exact (refaced.sound.surrounded contained₅ around leads).of_perm permuted
  constructor
  case nodeCount =>
    rw [refaced.nodeCount, spoke₂.nodeCount, spoke₁.nodeCount, node.nodeCount]
    exact congrArg (· + 1) (SlotStore.size_eq_of_contains contains₀)
  case edgeCount =>
    have same := edgeCount_eq_of_origin? cleared.origin?
    have fewer := dropped.edgeCount
    rw [refaced.edgeCount, spoke₂.edgeCount, spoke₁.edgeCount, node.edgeCount]
    omega
  case faceCount =>
    have fewer := cleared.faceCount
    rw [List.length_map] at fewer
    rw [refaced.faceCount, spoke₂.faceCount, spoke₁.faceCount, node.faceCount, faceCount,
      dropped.faces, ← faceCount]
    omega
  case edge_gone =>
    have live' : m.edges.contains e = true :=
      (containsEdge_eq_of_origin? cleared.origin? e).trans live
    exact (grown.edge_retired e
      ((SlotStore.retired_erase live').of_generationAt dropped.edgeGenerations)).not_contains
  case faces_gone =>
    intro flank mem
    refine (grown.face_retired flank.1 ?_).not_contains
    rw [dropped.faces]
    exact cleared.retired flank.1 (List.mem_map_of_mem mem)
  case new_node =>
    rw [← contains₀, node.key]
    exact m₁.nodes.contains_nextKey
  case position =>
    rw [position_eq_orInvalid, grown₂.position x contained, placed]
    rfl
  case degree =>
    rw [surrounded.degree, List.length_cons, List.length_cons, List.length_map, Nat.add_comm 2]
  case surrounded => exact surrounded
  case faces =>
    refine ⟨news, refaced.faceNodes, fun g => ?_⟩
    rw [refaced.containsFace, ← contains₁, containsFace, spoke₂.face?, spoke₁.face?, face?,
      node.faces]
    rfl
  case old_position =>
    intro n old
    rw [position_eq_orInvalid, position_eq_orInvalid, grown.position n ((contains₀ n).trans old),
      dropped.position, node?, cleared.nodes]
    rfl
  case origin? =>
    intro h old other
    rcases containsHalfedge_iff_origin?.1 old with ⟨n, start⟩
    have start₁ : m₁.origin? h = some n := by
      rw [dropped.origin?, if_neg other, cleared.origin?, start]
    rw [grown.origin? h n start₁, start]
  case face? =>
    intro g old apart
    exact face?_of_refaced sound cleared free dropped node spoke₁ spoke₂ refaced old apart
  case halfedge? => exact kept

end Effect

end Mesh

end PlanarMesh
