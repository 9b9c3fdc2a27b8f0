import PlanarMesh.Proofs.Edit.Growth

/-!
# Ground to draw on

Building starts with a node for each point.  These are new, different and isolated
(`Planted.ground`), and edges and faces between them leave every other record alone (`Spared`).
-/

namespace PlanarMesh

namespace Mesh

/-- Everything in `m` but the given nodes has the same record in `m'`. -/
structure Spared (m : Mesh) (ns : List NodeId) (m' : Mesh) : Prop where
  node? : ∀ n, n ∉ ns → m'.node? n = m.node? n
  halfedge? : ∀ h, m.containsHalfedge h = true → m'.halfedge? h = m.halfedge? h
  face? : ∀ f, m.containsFace f = true → m'.face? f = m.face? f

/-- Different nodes of a sound mesh that are isolated. -/
structure Ground (m : Mesh) (ns : List NodeId) : Prop where
  sound : m.Sound
  nodup : ns.Nodup
  live : ∀ n ∈ ns, m.containsNode n = true
  isolated : ∀ n ∈ ns, ∀ h, m.origin? h ≠ some n

/-- `m'` is `m` with new nodes at the given points. -/
structure Planted (m : Mesh) (points : List Point) (ns : List NodeId) (m' : Mesh) : Prop where
  sound : m'.Sound
  edges : m'.edges = m.edges
  faces : m'.faces = m.faces
  nodup : ns.Nodup
  fresh : ∀ n ∈ ns, m.containsNode n = false
  live : ∀ n ∈ ns, m'.containsNode n = true
  node? : ∀ n, n ∉ ns → m'.node? n = m.node? n
  placed : List.Forall₂ (fun p n => m'.node? n = some ⟨p, none⟩) points ns
  nodeCount : m'.nodeCount = m.nodeCount + points.length

/-! ## Sparing -/

namespace Spared

variable {base m m' : Mesh} {ns : List NodeId}

theorem refl (m : Mesh) (ns : List NodeId) : m.Spared ns m :=
  ⟨fun _ _ => rfl, fun _ _ => rfl, fun _ _ => rfl⟩

theorem containsHalfedge (spared : m.Spared ns m') {h : HalfedgeId}
    (live : m.containsHalfedge h = true) : m'.containsHalfedge h = true := by
  rwa [Mesh.containsHalfedge, spared.halfedge? h live]

theorem containsFace (spared : m.Spared ns m') {f : FaceId} (live : m.containsFace f = true) :
    m'.containsFace f = true := by
  rwa [Mesh.containsFace, spared.face? f live]

theorem trans (first : base.Spared ns m) (second : m.Spared ns m') : base.Spared ns m' where
  node? n other := (second.node? n other).trans (first.node? n other)
  halfedge? h live :=
    (second.halfedge? h (first.containsHalfedge live)).trans (first.halfedge? h live)
  face? f live := (second.face? f (first.containsFace live)).trans (first.face? f live)

/-- Where it was spared, a half-edge starts where it did. -/
theorem origin? (spared : m.Spared ns m') {h : HalfedgeId} (live : m.containsHalfedge h = true) :
    m'.origin? h = m.origin? h :=
  congrArg (Option.map _) (spared.halfedge? h live)

/-- Half-edges off the given nodes are spared where rings and fields at the other nodes stay. -/
theorem halfedges_of_rings (sound : m.Sound)
    (kept : ∀ n ring, n ∉ ns → m.Ring n ring → m'.Ring n ring)
    (fields : ∀ h n, n ∉ ns → m.origin? h = some n →
      m'.origin? h = m.origin? h ∧ m'.faceOf? h = m.faceOf? h) {h : HalfedgeId} {n n' : NodeId}
    (leads : m.Leads h n n') (off : n ∉ ns) (off' : n' ∉ ns) :
    m'.halfedge? h = m.halfedge? h :=
  halfedge?_of_rings sound leads (fun ring => kept n ring off) (fun ring => kept n' ring off')
    (fields h n off leads.start).1 (fields h n off leads.start).2

/-- What is done between isolated nodes spares the rest. -/
theorem of_rings (spared : base.Spared ns m) (ground : base.Ground ns) (sound : m.Sound)
    (kept : ∀ n ring, n ∉ ns → m.Ring n ring → m'.Ring n ring)
    (fields : ∀ h n, n ∉ ns → m.origin? h = some n →
      m'.origin? h = m.origin? h ∧ m'.faceOf? h = m.faceOf? h)
    (node? : ∀ n, n ∉ ns → m'.node? n = m.node? n)
    (face? : ∀ f, m.containsFace f = true → m'.face? f = m.face? f) : base.Spared ns m' where
  node? n other := (node? n other).trans (spared.node? n other)
  halfedge? h live := by
    rcases ground.sound.exists_leads live with ⟨n, n', leads⟩
    have livePair : base.containsHalfedge h.pair = true := leads.pair.live
    have leads' : m.Leads h n n' :=
      ⟨(spared.origin? live).trans leads.start, (spared.origin? livePair).trans leads.finish⟩
    rw [← spared.halfedge? h live]
    exact halfedges_of_rings sound kept fields leads'
      (fun mem => ground.isolated n mem h leads.start)
      fun mem => ground.isolated n' mem h.pair leads.finish
  face? f live := (face? f (spared.containsFace live)).trans (spared.face? f live)

theorem of_addedEdge (spared : base.Spared ns m) (ground : base.Ground ns) (sound : m.Sound)
    {n₁ n₂ : NodeId} {e : EdgeId} (added : m.AddedEdge n₁ n₂ e m') (mem₁ : n₁ ∈ ns)
    (mem₂ : n₂ ∈ ns) : base.Spared ns m' := by
  refine spared.of_rings ground sound (fun n ring off around => ?_) (fun h n off start => ?_)
    (fun n off => ?_) fun f _ => added.face? f
  · exact added.ring_of_ne n ring (ne_of_mem_of_not_mem mem₁ off).symm
      (ne_of_mem_of_not_mem mem₂ off).symm around
  · have live := containsHalfedge_of_origin? start
    exact ⟨added.origin?_of_ne (added.edge_ne live), added.faceOf?_of_live live⟩
  · exact added.node?_of_ne (ne_of_mem_of_not_mem mem₁ off).symm
      (ne_of_mem_of_not_mem mem₂ off).symm

theorem of_addedFace (spared : base.Spared ns m) (ground : base.Ground ns) (sound : m.Sound)
    {h₁ h₂ h₃ : HalfedgeId} {f : FaceId} {a b c : NodeId} (added : m.AddedFace h₁ h₂ h₃ f m')
    (chain : m.Chain h₁ h₂ h₃ a b c) (memA : a ∈ ns) (memB : b ∈ ns) (memC : c ∈ ns) :
    base.Spared ns m' := by
  have apart : ∀ {g : HalfedgeId} {k n : NodeId}, m.origin? g = some k → k ∈ ns → n ∉ ns →
      m.origin? g ≠ some n := by
    rintro g k n start mem off same
    exact off (Option.some.inj (start.symm.trans same) ▸ mem)
  refine spared.of_rings ground sound (fun n ring off around => ?_) (fun h n off start => ?_)
    (fun n _ => added.node? n) fun g live => ?_
  · exact added.ring_of_ne n ring (apart chain.side₁.start memA off)
      (apart chain.side₂.start memB off) (apart chain.side₃.start memC off) around
  · refine ⟨added.origin? h, added.faceOf?_of_ne ?_ ?_ ?_⟩ <;> rintro rfl
    · exact apart chain.side₁.start memA off start
    · exact apart chain.side₂.start memB off start
    · exact apart chain.side₃.start memC off start
  · rw [added.face?, if_neg (added.ne_of_live live)]

end Spared

/-! ## Planting -/

namespace Planted

variable {m m₁ m' : Mesh} {points : List Point} {ns : List NodeId}

theorem nil (sound : m.Sound) : m.Planted [] [] m where
  sound := sound
  edges := rfl
  faces := rfl
  nodup := .nil
  fresh := by simp
  live := by simp
  node? n _ := rfl
  placed := .nil
  nodeCount := rfl

theorem cons {p : Point} {n : NodeId} (added : m.AddedNode p n m₁)
    (planted : m₁.Planted points ns m') : m.Planted (p :: points) (n :: ns) m' := by
  have placed : m₁.node? n = some ⟨p, none⟩ := by rw [added.node?, if_pos rfl]
  have other : n ∉ ns := by
    intro mem
    have dead := planted.fresh n mem
    simp [containsNode, placed] at dead
  have placed' := (planted.node? n other).trans placed
  constructor
  case sound => exact planted.sound
  case edges => rw [planted.edges, added.edges]
  case faces => rw [planted.faces, added.faces]
  case nodup => exact List.nodup_cons.2 ⟨other, planted.nodup⟩
  case fresh =>
    intro k mem
    rcases List.mem_cons.1 mem with rfl | mem
    · rw [added.key]
      exact m.nodes.contains_nextKey
    · have dead := planted.fresh k mem
      have apart : k ≠ n := ne_of_mem_of_not_mem mem other
      rwa [containsNode, added.node?, if_neg apart] at dead
  case live =>
    intro k mem
    rcases List.mem_cons.1 mem with rfl | mem
    · exact Option.isSome_iff_exists.2 ⟨_, placed'⟩
    · exact planted.live k mem
  case node? =>
    intro k off
    rcases List.ne_and_not_mem_of_not_mem_cons off with ⟨apart, off⟩
    rw [planted.node? k off, added.node?, if_neg apart]
  case placed => exact .cons placed' planted.placed
  case nodeCount =>
    rw [planted.nodeCount, added.nodeCount, List.length_cons]
    omega

variable (planted : m.Planted points ns m')

include planted

theorem halfedge? (h : HalfedgeId) : m'.halfedge? h = m.halfedge? h := by
  rw [Mesh.halfedge?, edge?, planted.edges]
  rfl

theorem spared : m.Spared ns m' where
  node? := planted.node?
  halfedge? h _ := planted.halfedge? h
  face? f _ := by rw [Mesh.face?, planted.faces]; rfl

theorem ground (sound : m.Sound) : m'.Ground ns where
  sound := planted.sound
  nodup := planted.nodup
  live := planted.live
  isolated n mem h start := by
    have live := sound.origin_live h n (by rwa [origin?, ← planted.halfedge?])
    rw [planted.fresh n mem] at live
    cases live

end Planted

end Mesh

namespace Edit

open Mesh

variable {s : Session}

/-- Nodes are added for any list of points. -/
theorem mapM_addNode_ends (sound : s.mesh.Sound) {points : List Point} :
    (points.mapM addNode).Ends s (fun ns m => s.mesh.Planted points ns m) (fun _ _ => False) := by
  induction points generalizing s with
  | nil => exact .nil sound
  | cons p points inductionHypothesis =>
    rw [List.mapM_cons]
    refine (addNode_ends sound).bind ?_ fun _ _ => False.elim
    intro n t added
    refine (inductionHypothesis added.sound).bind ?_ fun _ _ => False.elim
    exact fun ns u planted => .cons added planted

end Edit

end PlanarMesh
