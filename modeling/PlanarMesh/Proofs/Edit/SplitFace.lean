import PlanarMesh.Edit.Refinement
import PlanarMesh.Proofs.Edit.Clear
import PlanarMesh.Proofs.Edit.Wheel
import PlanarMesh.Proofs.Incidence

/-!
# Splitting faces

Splitting a face removes it, connects a new node with its corners and adds a face at each side
of the hole.  None of these steps is ever refused, so a face can be split as long as it is live,
and the mesh stays the same everywhere else (`SplitsFace`).
-/

namespace PlanarMesh

namespace Mesh

/-- `m'` is `m` with the face `f`, whose corners were `a`, `b` and `c`, split by a new node. -/
structure SplitsFace (m : Mesh) (f : FaceId) (a b c : NodeId) (position : Point) (x : NodeId)
    (m' : Mesh) : Prop where
  nodeCount : m'.nodeCount = m.nodeCount + 1
  edgeCount : m'.edgeCount = m.edgeCount + 3
  faceCount : m'.faceCount = m.faceCount + 2
  new_node : m.containsNode x = false
  position : m'.position x = .ok position
  surrounded : m'.Surrounded x [a, b, c]
  gone : m'.containsFace f = false
  faces : ∃ f₁ f₂ f₃, m'.faceNodes f₁ = .ok ⟨x, a, b⟩ ∧ m'.faceNodes f₂ = .ok ⟨x, b, c⟩ ∧
    m'.faceNodes f₃ = .ok ⟨x, c, a⟩ ∧ ∀ g, m'.containsFace g = true ↔
      g = f₁ ∨ g = f₂ ∨ g = f₃ ∨ g ≠ f ∧ m.containsFace g = true
  node? : ∀ n, n ≠ x → m'.node? n = m.node? n
  face? : ∀ g, m.containsFace g = true → g ≠ f →
    m'.face? g = m.face? g ∧ m'.faceHalfedges g = m.faceHalfedges g
  origin? : ∀ h, m.containsHalfedge h = true → m'.origin? h = m.origin? h
  halfedge? : ∀ h, m.containsHalfedge h = true → m.faceOf? h ≠ some (some f) →
    m'.halfedge? h = m.halfedge? h

/-! ## The hole of a face -/

section Hole

variable {m m₀ : Mesh} {f : FaceId} {t : Corners HalfedgeId} {h₁ h₂ h₃ : HalfedgeId}

namespace RemovedFace

variable (removed : m.RemovedFace f t m₀)

include removed

theorem hole (sound : m.Sound) (triangle : m.Triangle f ⟨h₁, h₂, h₃⟩) {a b c : NodeId}
    (chain : m.Chain h₁ h₂ h₃ a b c) :
    ∃ la lb lc, m₀.Hole a b c h₁ h₂ h₃ la lb lc := by
  have opened : m.Opened h₁ m₀ := .face triangle.faceOf?_a removed
  have free : ∀ h, m.faceOf? h = some (some f) → m₀.Free h := fun h reports => by
    rw [Free, removed.faceOf?_eq, if_pos reports]
  obtain ⟨la, ringA, firstA, lastA⟩ :=
    sound.exists_gap (sound.follows_of_next? triangle.next_c) chain.side₁.start
  obtain ⟨lb, ringB, firstB, lastB⟩ :=
    sound.exists_gap (sound.follows_of_next? triangle.next_a) chain.side₂.start
  obtain ⟨lc, ringC, firstC, lastC⟩ :=
    sound.exists_gap (sound.follows_of_next? triangle.next_b) chain.side₃.start
  exact ⟨la, lb, lc, removed.sound, chain.of_origin? removed.origin?,
    ⟨firstA, firstB, firstC, lastA, lastB, lastC⟩, opened.ring ringA, opened.ring ringB,
    opened.ring ringC, free h₁ triangle.faceOf?_a, free h₂ triangle.faceOf?_b,
    free h₃ triangle.faceOf?_c⟩

end RemovedFace

theorem AddedNode.hole {m₁ : Mesh} {position : Point} {x : NodeId}
    (added : m₀.AddedNode position x m₁) {a b c : NodeId} {la lb lc : List HalfedgeId}
    (hole : m₀.Hole a b c h₁ h₂ h₃ la lb lc) : m₁.Hole a b c h₁ h₂ h₃ la lb lc where
  sound := added.sound
  chain := hole.chain.of_origin? added.origin?
  gaps := hole.gaps
  ring₁ := added.ring hole.ring₁
  ring₂ := added.ring hole.ring₂
  ring₃ := added.ring hole.ring₃
  free₁ := (added.faceOf? h₁).trans hole.free₁
  free₂ := (added.faceOf? h₂).trans hole.free₂
  free₃ := (added.faceOf? h₃).trans hole.free₃

section SplitsFace

variable {m₁ m₂ : Mesh} {a b c x : NodeId} {position : Point} {f₁ f₂ f₃ : FaceId}
  (sound : m.Sound) (live : m.containsFace f = true) (triangle : m.Triangle f ⟨h₁, h₂, h₃⟩)
  (removed : m.RemovedFace f t m₀) (node : m₀.AddedNode position x m₁)
  (filled : m₁.FilledHole x a b c h₁ h₂ h₃ f₁ f₂ f₃ m₂)

include sound triangle removed node filled

/-- Half-edges off the loop of the face keep their records. -/
theorem halfedge?_of_filledHole {h : HalfedgeId} (old : m.containsHalfedge h = true)
    (off : m.faceOf? h ≠ some (some f)) : m₂.halfedge? h = m.halfedge? h := by
  have side : ∀ k, m.faceOf? k = some (some f) ↔ k = h₁ ∨ k = h₂ ∨ k = h₃ := fun k => by
    rw [triangle.reports_iff, Corners.mem_toList]
  have keeps : m.Keeps m₂ fun g => m.faceOf? g.pair = some (some f) := by
    intro g k still follows
    exact filled.keeps g k (fun sides => still ((side g.pair).2 sides))
      (node.follows.2 (removed.follows follows))
  rcases containsHalfedge_iff_origin?.1 old with ⟨n, start⟩
  have start₁ : m₁.origin? h = some n := by rw [node.origin?, removed.origin?, start]
  refine Keeps.halfedge? (fun k => m.faceOf? k = some (some f)) keeps sound ?_ old off ?_ ?_
  · intro g k next reports
    rw [sound.faceOf?_next? next, reports]
  · rw [filled.grown.origin? h n start₁, start]
  · have others := mt (side h).2 off
    rw [filled.faceOf? h (containsHalfedge_of_origin? start₁) (fun same => others (.inl same))
      (fun same => others (.inr (.inl same))) (fun same => others (.inr (.inr same))),
      node.faceOf?, removed.faceOf?_eq, if_neg off]

include live

theorem splitsFace_of_filledHole : m.SplitsFace f a b c position x m₂ := by
  have placed : m₁.node? x = some ⟨position, none⟩ := by rw [node.node?, if_pos rfl]
  have contained : m₁.containsNode x = true := Option.isSome_iff_exists.2 ⟨_, placed⟩
  have gone : m₂.containsFace f = false := by
    refine (filled.grown.face_retired f ?_).not_contains
    rw [node.faces]
    exact removed.retired live
  have contains₁ : ∀ g, m₁.containsFace g = true ↔ g ≠ f ∧ m.containsFace g = true := fun g => by
    rw [containsFace, face?, node.faces, removed.faces]
    exact SlotStore.contains_erase
  constructor
  case nodeCount =>
    rw [filled.nodeCount, node.nodeCount, nodeCount, removed.nodes]
    rfl
  case edgeCount => rw [filled.edgeCount, node.edgeCount, edgeCount_eq_of_origin? removed.origin?]
  case faceCount =>
    have one := SlotStore.size_erase live
    rw [filled.faceCount, node.faceCount, faceCount, faceCount, removed.faces]
    omega
  case new_node =>
    have fresh := m₀.nodes.contains_nextKey
    rw [removed.nodes] at fresh
    rw [node.key, removed.nodes]
    exact fresh
  case position =>
    rw [position_eq_orInvalid, filled.grown.position x contained, placed]
    rfl
  case surrounded =>
    rcases filled.hub with ⟨l, around, leads⟩
    have contained' := filled.grown.containsNode contained
    exact (filled.sound.surrounded contained' around leads).of_perm (.cons a (.swap b c []))
  case gone => exact gone
  case faces =>
    refine ⟨f₁, f₂, f₃, filled.faceNodes₁, filled.faceNodes₂, filled.faceNodes₃, fun g => ?_⟩
    rw [filled.containsFace, contains₁]
  case node? =>
    intro n other
    rw [filled.node? n other, node.node?, if_neg other, Mesh.node?, removed.nodes]
    rfl
  case face? =>
    intro g old other
    rcases Option.isSome_iff_exists.1 old with ⟨record, found⟩
    rcases sound.triangle g record found with ⟨t', first, triangle'⟩
    have found₀ := (removed.face?_of_ne other).trans found
    have grown := (node.grown removed.sound).trans filled.grown
    have old₀ : m₀.containsFace g = true := Option.isSome_iff_exists.2 ⟨record, found₀⟩
    refine ⟨(grown.face? g record found₀).trans found.symm, ?_⟩
    rw [grown.faceHalfedges removed.sound old₀, faceHalfedges_of_triangle found first triangle',
      faceHalfedges_of_triangle found₀ first (removed.triangle_of_ne other triangle')]
  case origin? =>
    intro h old
    rcases containsHalfedge_iff_origin?.1 old with ⟨n, start⟩
    rw [filled.grown.origin? h n (by rw [node.origin?, removed.origin?, start]), start]
  case halfedge? =>
    intro h old off
    exact halfedge?_of_filledHole sound triangle removed node filled old off

end SplitsFace

end Hole

end Mesh

namespace Edit

open Mesh

variable {s : Session}

/-- Every live face can be split. -/
theorem splitFace_ends (sound : s.mesh.Sound) {f : FaceId} {position : Point} :
    (splitFace f position).Ends s
      (fun x m => m.Sound ∧ ∃ a b c, s.mesh.faceNodes f = .ok ⟨a, b, c⟩ ∧
        s.mesh.SplitsFace f a b c position x m)
      (fun error m => s.mesh.containsFace f = false ∧ m = s.mesh ∧ error = .invalidFace f) := by
  unfold splitFace
  cases live : s.mesh.containsFace f with
  | false =>
    rw [ends_bind_of_refused (query_of_error (face_of_dead live))]
    exact ⟨rfl, rfl, rfl⟩
  | true =>
  rcases Option.isSome_iff_exists.1 live with ⟨record, found⟩
  rcases sound.triangle f record found with ⟨⟨h₁, h₂, h₃⟩, first, triangle⟩
  rcases triangle.chain sound with ⟨a, b, c, chain⟩
  have before := sound.prev?_eq_some_iff.2 triangle.next_c
  have corners := faceNodes_of_triangle found first triangle chain.side₁.start chain.side₂.start
    chain.side₃.start
  rw [ends_bind_of_ok (query_face found), ← first, ends_bind_of_ok (query_next triangle.next_a),
    ends_bind_of_ok (query_prev before), ends_bind_of_ok (query_origin chain.side₁.start),
    ends_bind_of_ok (query_origin chain.side₂.start),
    ends_bind_of_ok (query_origin chain.side₃.start)]
  apply (removeFace_ends sound).bind
  rotate_left
  · rintro error m ⟨dead, -⟩
    cases live.symm.trans dead
  rintro - t₀ ⟨t, removed⟩
  rcases removed.hole sound triangle chain with ⟨la, lb, lc, hole₀⟩
  refine (addNode_ends removed.sound).bind ?_ fun _ _ => False.elim
  rintro x t₁ node
  have hole := node.hole hole₀
  have placed : t₁.mesh.node? x = some ⟨position, none⟩ := by rw [node.node?, if_pos rfl]
  refine (addEdge_of_connectable hole.sound (hole.connectable₁ placed rfl)).bind ?_
    fun _ _ => False.elim
  rintro toA t₂ ⟨eA, rfl, spoke₁⟩
  refine (addEdge_of_connectable spoke₁.sound (hole.connectable₂ placed rfl spoke₁)).bind ?_
    fun _ _ => False.elim
  rintro toB t₃ ⟨eB, rfl, spoke₂⟩
  refine (addEdge_of_connectable spoke₂.sound (hole.connectable₃ placed rfl spoke₁ spoke₂)).bind ?_
    fun _ _ => False.elim
  rintro toC t₄ ⟨eC, rfl, spoke₃⟩
  have empty := hole.emptyWheel placed rfl spoke₁ spoke₂ spoke₃
  refine (addFace_of_fits spoke₃.sound (empty.fits hole.gaps)).bind ?_ fun _ _ => False.elim
  rintro f₁ t₅ face₁
  have started := empty.next hole.gaps face₁
  refine (addFace_of_fits face₁.sound (started.fits hole.gaps)).bind ?_ fun _ _ => False.elim
  rintro f₂ t₆ face₂
  have almost := started.next hole.gaps face₂
  refine (addFace_of_fits face₂.sound (almost.fits hole.gaps)).bind ?_ fun _ _ => False.elim
  rintro f₃ t₇ face₃
  have filled := hole.filledHole placed rfl spoke₁ spoke₂ spoke₃ face₁ face₂ face₃
  rw [ends_bind_of_ok (record_apply _ _)]
  refine (ends_bind_of_ok (checkAfter_of_sound ?_)).2 ?_
  · exact filled.sound
  · exact ⟨filled.sound, a, b, c, corners,
      splitsFace_of_filledHole sound live triangle removed node filled⟩

end Edit

end PlanarMesh
