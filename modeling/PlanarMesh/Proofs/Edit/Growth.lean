import PlanarMesh.Proofs.Edit.Node
import PlanarMesh.Proofs.Locality

/-!
# Growth

Adding nodes, edges and faces leaves what was there before: nodes keep their positions,
half-edges their ends and faces their loops, and a handle that was retired stays dead (`Grown`).
Growth composes, so it holds of every sequence of additions.

Each addition changes one of the counts by one.  Where an addition cannot be refused it is
taken as a step that just happens (`addEdge_of_connectable`, `addFace_of_fits`).
-/

namespace PlanarMesh

namespace Mesh

/-- Everything that was in `m` is still there in `m'`. -/
structure Grown (m m' : Mesh) : Prop where
  position : ∀ n, m.containsNode n = true →
    (m'.node? n).map Node.position = (m.node? n).map Node.position
  node? : ∀ h n, m.origin? h = some n → m'.node? n = m.node? n
  origin? : ∀ h n, m.origin? h = some n → m'.origin? h = some n
  face? : ∀ f record, m.face? f = some record → m'.face? f = some record
  triangle : ∀ f t, m.containsFace f = true → m.Triangle f t → m'.Triangle f t
  edge_retired : ∀ e, m.edges.Retired e → m'.edges.Retired e
  face_retired : ∀ f, m.faces.Retired f → m'.faces.Retired f

namespace Grown

variable {m m' m'' : Mesh}

theorem refl (m : Mesh) : m.Grown m :=
  ⟨fun _ _ => rfl, fun _ _ _ => rfl, fun _ _ => id, fun _ _ => id, fun _ _ _ => id, fun _ => id,
    fun _ => id⟩

theorem containsFace (grown : m.Grown m') {f : FaceId} (live : m.containsFace f = true) :
    m'.containsFace f = true := by
  rcases Option.isSome_iff_exists.1 live with ⟨record, found⟩
  exact Option.isSome_iff_exists.2 ⟨record, grown.face? f record found⟩

theorem containsNode (grown : m.Grown m') {n : NodeId} (live : m.containsNode n = true) :
    m'.containsNode n = true := by
  rw [Mesh.containsNode, ← Option.isSome_map (f := Node.position), grown.position n live,
    Option.isSome_map]
  exact live

theorem trans (first : m.Grown m') (second : m'.Grown m'') : m.Grown m'' where
  position n live := (second.position n (first.containsNode live)).trans (first.position n live)
  node? h n start := (second.node? h n (first.origin? h n start)).trans (first.node? h n start)
  origin? h n start := second.origin? h n (first.origin? h n start)
  face? f record found := second.face? f record (first.face? f record found)
  triangle f t live triangle :=
    second.triangle f t (first.containsFace live) (first.triangle f t live triangle)
  edge_retired e retired := second.edge_retired e (first.edge_retired e retired)
  face_retired f retired := second.face_retired f (first.face_retired f retired)

theorem leads (grown : m.Grown m') {h : HalfedgeId} {n n' : NodeId} (leads : m.Leads h n n') :
    m'.Leads h n n' :=
  ⟨grown.origin? h n leads.start, grown.origin? h.pair n' leads.finish⟩

theorem chain (grown : m.Grown m') {h₁ h₂ h₃ : HalfedgeId} {a b c : NodeId}
    (chain : m.Chain h₁ h₂ h₃ a b c) : m'.Chain h₁ h₂ h₃ a b c where
  side₁ := grown.leads chain.side₁
  side₂ := grown.leads chain.side₂
  side₃ := grown.leads chain.side₃
  ab := chain.ab
  bc := chain.bc
  ca := chain.ca

/-- Faces keep their half-edges. -/
theorem faceHalfedges (grown : m.Grown m') (sound : m.Sound) {f : FaceId}
    (live : m.containsFace f = true) : m'.faceHalfedges f = m.faceHalfedges f := by
  rcases Option.isSome_iff_exists.1 live with ⟨record, found⟩
  rcases sound.triangle f record found with ⟨t, first, triangle⟩
  rw [faceHalfedges_of_triangle found first triangle,
    faceHalfedges_of_triangle (grown.face? f record found) first (grown.triangle f t live triangle)]

/-- Faces keep their corners. -/
theorem faceNodes (grown : m.Grown m') (sound : m.Sound) {f : FaceId} {t : Corners NodeId}
    (corners : m.faceNodes f = .ok t) : m'.faceNodes f = .ok t := by
  cases found : m.face? f with
  | none =>
    rw [Mesh.faceNodes, Mesh.faceHalfedges, face, found] at corners
    cases corners
  | some record =>
    rcases sound.triangle f record found with ⟨⟨h₁, h₂, h₃⟩, first, triangle⟩
    have live := triangle.live
    rcases containsHalfedge_iff_origin?.1 (live h₁ (by simp)) with ⟨a, startA⟩
    rcases containsHalfedge_iff_origin?.1 (live h₂ (by simp)) with ⟨b, startB⟩
    rcases containsHalfedge_iff_origin?.1 (live h₃ (by simp)) with ⟨c, startC⟩
    have contained : m.containsFace f = true := Option.isSome_iff_exists.2 ⟨record, found⟩
    rw [← corners, faceNodes_of_triangle found first triangle startA startB startC]
    exact faceNodes_of_triangle (grown.face? f record found) first
      (grown.triangle f _ contained triangle) (grown.origin? h₁ a startA)
      (grown.origin? h₂ b startB) (grown.origin? h₃ c startC)

theorem faceNodes_of_chain (grown : m.Grown m') {f : FaceId} {h₁ h₂ h₃ : HalfedgeId}
    {a b c : NodeId} (found : m.face? f = some ⟨h₁⟩) (triangle : m.Triangle f ⟨h₁, h₂, h₃⟩)
    (start₁ : m.origin? h₁ = some a) (start₂ : m.origin? h₂ = some b)
    (start₃ : m.origin? h₃ = some c) : m'.faceNodes f = .ok ⟨a, b, c⟩ := by
  have live : m.containsFace f = true := Option.isSome_iff_exists.2 ⟨_, found⟩
  exact faceNodes_of_triangle (grown.face? f _ found) rfl (grown.triangle f _ live triangle)
    (grown.origin? h₁ a start₁) (grown.origin? h₂ b start₂) (grown.origin? h₃ c start₃)

end Grown

/-! ## Additions -/

namespace AddedNode

variable {m m' : Mesh} {position : Point} {n : NodeId} (added : m.AddedNode position n m')

include added

theorem ne_of_live {n' : NodeId} (live : m.containsNode n' = true) : n' ≠ n := by
  rintro rfl
  rw [added.key] at live
  simp [containsNode, Mesh.node?] at live

theorem isolated (sound : m.Sound) (h : HalfedgeId) : m'.origin? h ≠ some n := by
  rw [added.origin?]
  exact fun start => added.ne_of_live (sound.origin_live h n start) rfl

theorem grown (sound : m.Sound) : m.Grown m' where
  position n' live := by rw [added.node?, if_neg (added.ne_of_live live)]
  node? h n' start := by rw [added.node?, if_neg (added.ne_of_live (sound.origin_live h n' start))]
  origin? h n' start := by rwa [added.origin?]
  face? f record found := by rwa [Mesh.face?, added.faces]
  triangle f t _ triangle := by
    have next? : ∀ h, m'.next? h = m.next? h := fun h =>
      congrArg (Option.map _) (added.halfedge? h)
    exact ⟨(next? _).trans triangle.next_a, (next? _).trans triangle.next_b,
      (next? _).trans triangle.next_c, fun h => by rw [added.faceOf?, triangle.reports_iff]⟩
  edge_retired e retired := by rwa [added.edges]
  face_retired f retired := by rwa [added.faces]

theorem nodeCount : m'.nodeCount = m.nodeCount + 1 := by
  rw [Mesh.nodeCount, added.nodes, SlotStore.size_insert]
  rfl

theorem edgeCount : m'.edgeCount = m.edgeCount := by
  rw [Mesh.edgeCount, added.edges]
  rfl

theorem faceCount : m'.faceCount = m.faceCount := by
  rw [Mesh.faceCount, added.faces]
  rfl

end AddedNode

namespace AddedEdge

variable {m m' : Mesh} {n₁ n₂ : NodeId} {e : EdgeId} (added : m.AddedEdge n₁ n₂ e m')

include added

theorem leads : m'.Leads e.first n₁ n₂ :=
  ⟨added.origin?_first, added.origin?_second⟩

theorem position (n : NodeId) :
    (m'.node? n).map Node.position = (m.node? n).map Node.position := by
  rw [added.node?, Option.map_map]
  rfl

theorem node?_of_start (sound : m.Sound) {h : HalfedgeId} {n : NodeId}
    (start : m.origin? h = some n) : m'.node? n = m.node? n := by
  rcases sound.exists_representative start with ⟨record, r, -, found, chosen, -⟩
  rw [added.node?_of_represented found chosen, found]

/-- Only an isolated end gets another record. -/
theorem node?_of_end (sound : m.Sound) {h : HalfedgeId} {n : NodeId}
    (start : m.origin? h = some n₂) (other : n ≠ n₁) : m'.node? n = m.node? n := by
  by_cases same : n = n₂
  · subst same
    exact added.node?_of_start sound start
  · exact added.node?_of_ne other same

theorem live_of_live {h : HalfedgeId} (live : m.containsHalfedge h = true) :
    m'.containsHalfedge h = true := by
  rcases containsHalfedge_iff_origin?.1 live with ⟨n, start⟩
  exact containsHalfedge_of_origin? (added.origin?_of_live start)

theorem ne_of_live {h k : HalfedgeId} (live : m.containsHalfedge h = true) (new : k.edge = e) :
    h ≠ k := by
  rintro rfl
  exact added.edge_ne live new

theorem faceOf?_of_live {h : HalfedgeId} (live : m.containsHalfedge h = true) :
    m'.faceOf? h = m.faceOf? h := by
  rw [added.faceOf?, if_neg (added.edge_ne live)]

theorem grown (sound : m.Sound) : m.Grown m' where
  position n _ := added.position n
  node? h n := added.node?_of_start sound
  origin? h n := added.origin?_of_live
  face? f record found := by rwa [added.face?]
  triangle f t _ triangle := by
    apply added.keeps_faced.triangle sound triangle
    intro h
    rw [added.faceOf?]
    split
    · next new =>
      have dead : ¬ m.containsHalfedge h = true := fun live => added.edge_ne live new
      rw [containsHalfedge_iff_faceOf?] at dead
      simpa using fun reports => dead ⟨_, reports⟩
    · rfl
  edge_retired e' retired := retired.of_generationAt added.edgeGenerations
  face_retired f retired := by rwa [added.faces]

theorem nodeCount : m'.nodeCount = m.nodeCount := by
  apply SlotStore.size_eq_of_contains
  intro n
  show (m'.node? n).isSome = (m.node? n).isSome
  rw [added.node?, Option.isSome_map]

theorem faceCount : m'.faceCount = m.faceCount := by
  rw [Mesh.faceCount, added.faces]
  rfl

end AddedEdge

namespace AddedFace

variable {m m' : Mesh} {h₁ h₂ h₃ : HalfedgeId} {f : FaceId} (added : m.AddedFace h₁ h₂ h₃ f m')

include added

theorem not_contains : m.containsFace f = false := by
  rw [added.key]
  exact m.faces.contains_nextKey

theorem ne_of_live {g : FaceId} (live : m.containsFace g = true) : g ≠ f := by
  rintro rfl
  rw [added.not_contains] at live
  cases live

theorem containsFace (g : FaceId) :
    m'.containsFace g = true ↔ g = f ∨ m.containsFace g = true := by
  rw [Mesh.containsFace, added.face?]
  split <;> simp_all [Mesh.containsFace]

theorem found : m'.face? f = some ⟨h₁⟩ := by
  rw [added.face?, if_pos rfl]

theorem faceOf?_of_ne {h : HalfedgeId} (other₁ : h ≠ h₁) (other₂ : h ≠ h₂) (other₃ : h ≠ h₃) :
    m'.faceOf? h = m.faceOf? h := by
  rw [added.faceOf?, if_neg (by simp [other₁, other₂, other₃])]

theorem grown (sound : m.Sound) (fits : m.Fits h₁ h₂ h₃) : m.Grown m' where
  position n _ := by rw [added.node?]
  node? h n _ := added.node? n
  origin? h n start := by rwa [added.origin?]
  face? g record known := by
    have live : m.containsFace g = true := Option.isSome_iff_exists.2 ⟨record, known⟩
    rwa [added.face?, if_neg (added.ne_of_live live)]
  triangle g t live triangle := by
    apply added.keeps_faced.triangle sound triangle
    intro h
    rw [added.faceOf?]
    split
    · next side =>
      have free : m.faceOf? h = some none := by
        rcases side with rfl | rfl | rfl
        · exact fits.free₁
        · exact fits.free₂
        · exact fits.free₃
      simpa [free] using (added.ne_of_live live).symm
    · rfl
  edge_retired e retired := retired.of_generationAt added.edgeGenerations
  face_retired g retired := by
    apply retired.of_generationAt
    rw [added.faces, SlotStore.generationAt_insert]

theorem nodeCount : m'.nodeCount = m.nodeCount := by
  rw [Mesh.nodeCount, added.nodes]
  rfl

theorem edgeCount : m'.edgeCount = m.edgeCount :=
  edgeCount_eq_of_origin? added.origin?

theorem faceCount : m'.faceCount = m.faceCount + 1 := by
  rw [Mesh.faceCount, added.faces, SlotStore.size_insert]
  rfl

end AddedFace

/-! ## Room -/

section Room

variable {m : Mesh} {n : NodeId}

theorem not_interior_of_isolated (isolated : ∀ h, m.origin? h ≠ some n) : ¬ m.Interior n :=
  fun interior => interior.1.elim isolated

theorem not_interior_of_free {h : HalfedgeId} (start : m.origin? h = some n)
    (free : m.Free h.pair) : ¬ m.Interior n :=
  fun interior => interior.2 h start free

end Room

end Mesh

namespace Edit

open Mesh

variable {s : Session}

/-- An edge that can be added is added. -/
theorem addEdge_of_connectable (sound : s.mesh.Sound) {n₁ n₂ : NodeId}
    (able : s.mesh.Connectable n₁ n₂) :
    (addEdge n₁ n₂).Ends s (fun h m => ∃ e, h = e.first ∧ s.mesh.AddedEdge n₁ n₂ e m)
      (fun _ _ => False) :=
  (addEdge_ends sound).mono (fun _ _ ended => ended.2) fun _ _ refused =>
    refused.1.not_connectable able

/-- A face that fits is added. -/
theorem addFace_of_fits (sound : s.mesh.Sound) {h₁ h₂ h₃ : HalfedgeId}
    (fits : s.mesh.Fits h₁ h₂ h₃) :
    (addFace h₁ h₂ h₃).Ends s (fun f m => s.mesh.AddedFace h₁ h₂ h₃ f m) (fun _ _ => False) :=
  (addFace_ends sound).mono (fun _ _ ended => ended.2) fun _ _ refused => refused.1.not_fits fits

end Edit

end PlanarMesh
