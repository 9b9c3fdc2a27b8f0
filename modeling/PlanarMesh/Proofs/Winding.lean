import PlanarMesh.Proofs.Geometry.Triangle
import PlanarMesh.Proofs.Handles
import PlanarMesh.Proofs.Locate.Tiling
import PlanarMesh.Proofs.Refinement

/-!
# Splits and orientation

Splitting a face at a point strictly inside of it, and splitting an edge at a point strictly between
its ends, keep all faces counter-clockwise.  No kernel is asked for this.  Each new face has the new
node and one side of a face that is gone as its corners, and the point is strictly to the left of
that side: a point strictly inside is to the left of all sides, and a point between the ends of a
side is to the left of the two others.  All other faces keep their corners.

So a mesh that passes all checks, winding included, still passes them after any sequence of such
splits (`check_splits_of_operations`).
-/

namespace PlanarMesh

namespace Mesh

variable {m m' : Mesh} {kernel : Kernel}

/-! ## The winding check -/

theorem checkFaceWinding_refuse_iff {f : FaceId} :
    m.checkFaceWinding kernel .refuse f = .ok () ↔
      m.faceOrientation kernel f = .ok .positive := by
  rw [checkFaceWinding, bind_eq_ok_iff]
  constructor
  · rintro ⟨side, oriented, required⟩
    rw [require_eq_ok_iff] at required
    simpa [oriented] using required
  · intro oriented
    exact ⟨.positive, oriented, rfl⟩

/-- On a sound mesh all checks pass exactly if all faces are counter-clockwise. -/
theorem Sound.check_all_iff (sound : m.Sound) : m.check kernel .all = .ok () ↔
    ∀ f, m.containsFace f = true → m.faceOrientation kernel f = .ok .positive := by
  have topology : m.checkTopology .all = .ok () := sound.checkInvariants
  have winding : m.check kernel .all = m.checkWinding kernel .refuse := by
    rw [check, topology]
    rfl
  rw [winding, checkWinding, if_neg nofun, forM_eq_ok_iff]
  simp only [mem_faceIds, checkFaceWinding_refuse_iff]

/-! ## Corners of counter-clockwise faces -/

/-- The face runs counter-clockwise around the finite points `c`. -/
structure Upright (m : Mesh) (f : FaceId) (c : Corners Point) : Prop where
  positions : m.facePositions f = .ok c
  finite : ∀ q ∈ c.toList, q.isFinite = true
  positive : 0 < determinant c.a c.b c.c

/-- A face between a new point and a side that has the point to its left is upright. -/
theorem upright_of_left {f : FaceId} {x n₁ n₂ : NodeId} {p q₁ q₂ : Point}
    (nodes : m.faceNodes f = .ok ⟨x, n₁, n₂⟩) (placed : m.position x = .ok p)
    (placed₁ : m.position n₁ = .ok q₁) (placed₂ : m.position n₂ = .ok q₂)
    (finite : p.isFinite = true) (finite₁ : q₁.isFinite = true) (finite₂ : q₂.isFinite = true)
    (left : 0 < determinant q₁ q₂ p) : m.Upright f ⟨p, q₁, q₂⟩ where
  positions := facePositions_eq_ok_iff.2 ⟨_, nodes, placed, placed₁, placed₂⟩
  finite q mem := by
    rcases Corners.mem_toList.1 mem with rfl | rfl | rfl
    · exact finite
    · exact finite₁
    · exact finite₂
  positive := by rwa [determinant_rotate] at left

/-- The places of the nodes are finite, and the point is strictly to the left of the sides from the
second node to the third and from there to the first. -/
structure Overlooks (m : Mesh) (p : Point) (ns : Corners NodeId) (q : Corners Point) : Prop where
  position_a : m.position ns.a = .ok q.a
  position_b : m.position ns.b = .ok q.b
  position_c : m.position ns.c = .ok q.c
  finite : ∀ r ∈ q.toList, r.isFinite = true
  left_b : 0 < determinant q.b q.c p
  left_c : 0 < determinant q.c q.a p

theorem live_of_facePositions {f : FaceId} {c : Corners Point}
    (positions : m.facePositions f = .ok c) : m.containsFace f = true := by
  rcases facePositions_eq_ok_iff.1 positions with ⟨ns, nodes, -⟩
  rcases bind_eq_ok_iff.1 nodes with ⟨t, sides, -⟩
  exact Option.isSome_iff_exists.2 ⟨_, (faceHalfedges_eq_ok_iff.1 sides).1⟩

theorem CounterClockwise.of_upright (exact : kernel.IsExact)
    (upright : ∀ f, m.containsFace f = true → ∃ c, m.Upright f c) : m.CounterClockwise kernel where
  finite f c positions := by
    rcases upright f (live_of_facePositions positions) with ⟨c', upright'⟩
    cases positions.symm.trans upright'.positions
    exact upright'.finite
  positive f live := by
    rcases upright f live with ⟨c, upright'⟩
    exact (faceOrientation_eq_positive_iff exact upright'.positions upright'.finite).2
      upright'.positive

section Wound

variable (wound : m.CounterClockwise kernel) (sound : m.Sound) (exact : kernel.IsExact)

include wound sound exact

theorem CounterClockwise.exists_upright {f : FaceId} (live : m.containsFace f = true) :
    ∃ c, m.Upright f c := by
  rcases sound.exists_facePositions live with ⟨t, ns, c, -, positions, -⟩
  have finite := wound.finite f c positions
  have positive := wound.positive f live
  rw [faceOrientation_eq_positive_iff exact positions finite] at positive
  exact ⟨c, positions, finite, positive⟩

/-- A face that is live before and after keeps its corners. -/
theorem Steady.exists_upright (steady : m.Steady m') (still : m'.Sound) {f : FaceId}
    (live : m.containsFace f = true) (live' : m'.containsFace f = true) :
    ∃ c, m'.Upright f c := by
  rcases wound.exists_upright sound exact live with ⟨c, positions, finite, positive⟩
  rcases facePositions_eq_ok_iff.1 positions with ⟨ns, nodes, first, second, third⟩
  rcases sound.exists_showsFace live with ⟨t, ns', shows⟩
  cases shows.faceNodes.symm.trans nodes
  have shows' := steady.showsFace still shows live'
  rcases still.exists_facePositions live' with ⟨-, -, c', -, positions', -⟩
  rcases facePositions_eq_ok_iff.1 positions' with ⟨ns', nodes', first', second', third'⟩
  cases shows'.faceNodes.symm.trans nodes'
  have same {n : NodeId} {q q' : Point} (here : m.position n = .ok q)
      (there : m'.position n = .ok q') : m'.position n = .ok q :=
    steady.shows_position here (containsNode_of_position there)
  exact ⟨c, facePositions_eq_ok_iff.2 ⟨_, nodes', same first first', same second second',
    same third third'⟩, finite, positive⟩

/-! ## Single splits -/

/-- Splitting a face at a point strictly inside of it. -/
theorem SplitsFace.counterClockwise {f : FaceId} {a b c x : NodeId} {p : Point}
    (split : m.SplitsFace f a b c p x m') (still : m'.Sound)
    (nodes : m.faceNodes f = .ok ⟨a, b, c⟩) (finite : p.isFinite = true)
    (inside : p.place ∈ m.faceInterior f) : m'.CounterClockwise kernel := by
  rcases inside with ⟨q, positions, left₁, left₂, left₃⟩
  rcases facePositions_eq_ok_iff.1 positions with ⟨ns, nodes', first, second, third⟩
  cases nodes'.symm.trans nodes
  have old {n : NodeId} {r : Point} (here : m.position n = .ok r) : m'.position n = .ok r :=
    (split.old_position (containsNode_of_position here)).trans here
  have finite' := wound.finite f q positions
  rcases split.faces with ⟨f₁, f₂, f₃, nodes₁, nodes₂, nodes₃, contains⟩
  apply CounterClockwise.of_upright exact
  intro g live
  rcases (contains g).1 live with rfl | rfl | rfl | ⟨-, survives⟩
  · exact ⟨_, upright_of_left nodes₁ split.position (old first) (old second) finite
      (finite' q.a (by simp)) (finite' q.b (by simp)) (determinant_pos_iff.2 left₁)⟩
  · exact ⟨_, upright_of_left nodes₂ split.position (old second) (old third) finite
      (finite' q.b (by simp)) (finite' q.c (by simp)) (determinant_pos_iff.2 left₂)⟩
  · exact ⟨_, upright_of_left nodes₃ split.position (old third) (old first) finite
      (finite' q.c (by simp)) (finite' q.a (by simp)) (determinant_pos_iff.2 left₃)⟩
  · exact Steady.exists_upright wound sound exact split.steady still survives live

/-- A point between the ends of a half-edge is strictly to the left of the two other sides of the
face there. -/
theorem Flanked.left_of_between {h : HalfedgeId} {flanks : List (FaceId × Corners NodeId)}
    (flanked : m.Flanked h flanks) {a b p : Point} (side : m.segment h = .ok (a, b))
    (between : p.LiesBetween a b) {flank : FaceId × Corners NodeId} (mem : flank ∈ flanks) :
    ∃ q, m.Overlooks p flank.2 q := by
  cases flanked with
  | free => cases mem
  | @faced f next prev u v w triangle chain =>
    cases List.mem_singleton.1 mem
    rcases sound.exists_cornered_of_triangle triangle with ⟨ns, q, cornered⟩
    cases cornered.chain.side₁.eq_start chain.side₁.start
    cases cornered.chain.side₂.eq_start chain.side₂.start
    cases cornered.chain.side₃.eq_start chain.side₃.start
    cases side.symm.trans cornered.segment_a
    have positive := wound.turn_pos sound exact cornered
    rcases turn_pos_of_mem_openSegment positive between.2 with ⟨left, left'⟩
    refine ⟨q, cornered.position_a, cornered.position_b, cornered.position_c, fun r listed => ?_,
      determinant_pos_iff.2 left, determinant_pos_iff.2 left'⟩
    rcases Corners.mem_toList.1 listed with rfl | rfl | rfl
    · exact cornered.finite_a sound wound.finite
    · exact cornered.finite_b sound wound.finite
    · exact cornered.finite_c sound wound.finite

/-- Splitting an edge at a point strictly between its ends. -/
theorem SplitsEdge.counterClockwise {e : EdgeId} {n₁ n₂ x : NodeId}
    {flanks₁ flanks₂ : List (FaceId × Corners NodeId)} {a b p : Point}
    (split : m.SplitsEdge e n₁ n₂ (flanks₁ ++ flanks₂) p x m') (still : m'.Sound)
    (leads : m.Leads e.first n₁ n₂) (first : m.Flanked e.first flanks₁)
    (second : m.Flanked e.second flanks₂) (finite : p.isFinite = true)
    (side : m.segment e.first = .ok (a, b)) (between : p.LiesBetween a b) :
    m'.CounterClockwise kernel := by
  rcases exists_position (sound.origin_live _ _ leads.start) with ⟨a', start⟩
  rcases exists_position (sound.origin_live _ _ leads.finish) with ⟨b', finish⟩
  cases side.symm.trans (leads.segment start finish)
  have side' : m.segment e.second = .ok (b, a) := leads.pair.segment finish start
  have left {flank : FaceId × Corners NodeId} (mem : flank ∈ flanks₁ ++ flanks₂) :
      ∃ q, m.Overlooks p flank.2 q := by
    rcases List.mem_append.1 mem with mem | mem
    · exact Flanked.left_of_between wound sound exact first side between mem
    · exact Flanked.left_of_between wound sound exact second side' between.symm mem
  have old {n : NodeId} {r : Point} (here : m.position n = .ok r) : m'.position n = .ok r :=
    (split.old_position n (containsNode_of_position here)).trans here
  rcases split.faces with ⟨news, corners, contains⟩
  apply CounterClockwise.of_upright exact
  intro g live
  rcases (contains g).1 live with ⟨new, listed, same⟩ | ⟨survives, -⟩
  · rcases exists_related corners listed with ⟨flank, mem, nodes₁, nodes₂⟩
    rcases left mem with ⟨q, overlooks⟩
    rcases same with rfl | rfl
    · exact ⟨_, upright_of_left nodes₁ split.position (old overlooks.position_b)
        (old overlooks.position_c) finite (overlooks.finite q.b (by simp))
        (overlooks.finite q.c (by simp)) overlooks.left_b⟩
    · exact ⟨_, upright_of_left nodes₂ split.position (old overlooks.position_c)
        (old overlooks.position_a) finite (overlooks.finite q.c (by simp))
        (overlooks.finite q.a (by simp)) overlooks.left_c⟩
  · exact Steady.exists_upright wound sound exact split.steady still survives live

end Wound

end Mesh

/-! ## Sequences of splits -/

/-- The operation splits a face at a finite point strictly inside of it, or an edge at a finite
point strictly between its ends. -/
inductive Operation.SplitsWithin (m : Mesh) : Operation → Prop
  | face {f : FaceId} {p : Point} (finite : p.isFinite = true)
      (inside : p.place ∈ m.faceInterior f) : SplitsWithin m (.splitFace f p)
  | edge {e : EdgeId} {p a b : Point} (finite : p.isFinite = true)
      (side : m.segment e.first = .ok (a, b)) (between : p.LiesBetween a b) :
      SplitsWithin m (.splitEdge e p)

namespace Mesh

variable {m : Mesh} {kernel : Kernel}

/-- Each operation splits a face or an edge of the mesh that the ones before it have left. -/
def SplitsWithin (m : Mesh) : List Operation → Prop
  | [] => True
  | operation :: operations =>
    operation.SplitsWithin m ∧ (operation.result m).SplitsWithin operations

section Wound

variable (wound : m.CounterClockwise kernel) (sound : m.Sound) (exact : kernel.IsExact)

include wound sound exact

/-- One split succeeds and keeps the faces counter-clockwise. -/
theorem CounterClockwise.result {operation : Operation} (within : operation.SplitsWithin m) :
    (∃ x, (operation.outcome m).1 = .ok (.node x)) ∧
      (operation.result m).CounterClockwise kernel := by
  have still := operation.sound_result sound
  cases within with
  | @face f p finite inside =>
    rcases Operation.outcome_splitFace sound f p with
      ⟨dead, -⟩ | ⟨a, b, c, x, m', nodes, ended, split⟩
    · rcases inside with ⟨q, positions, -⟩
      rw [live_of_facePositions positions] at dead
      cases dead
    · rw [Operation.result, ended] at still ⊢
      exact ⟨⟨x, rfl⟩, split.counterClockwise wound sound exact still nodes finite inside⟩
  | @edge e p a b finite side between =>
    rcases Operation.outcome_splitEdge sound e p with
      ⟨dead, -⟩ | ⟨n₁, n₂, flanks₁, flanks₂, x, m', leads, first, second, ended, split⟩
    · rcases bind_eq_ok_iff.1 side with ⟨n, start, -⟩
      rw [origin_eq_ok_iff] at start
      have live := containsHalfedge_of_origin? start
      rw [containsHalfedge_eq_containsEdge] at live
      cases dead.symm.trans live
    · rw [Operation.result, ended] at still ⊢
      exact ⟨⟨x, rfl⟩,
        split.counterClockwise wound sound exact still leads first second finite side between⟩

/-- All splits of the sequence succeed, and at the end the faces are still counter-clockwise. -/
theorem CounterClockwise.run {splits : List Operation} (within : m.SplitsWithin splits) :
    (∃ xs : List NodeId, m.replies splits = xs.map fun x => .ok (.node x)) ∧
      (m.run splits).CounterClockwise kernel := by
  induction splits generalizing m with
  | nil => exact ⟨⟨[], rfl⟩, wound⟩
  | cons operation splits inductionHypothesis =>
    obtain ⟨here, rest⟩ := within
    obtain ⟨⟨x, answer⟩, wound'⟩ := wound.result sound exact here
    obtain ⟨⟨xs, answers⟩, final⟩ :=
      inductionHypothesis wound' (operation.sound_result sound) rest
    refine ⟨⟨x :: xs, ?_⟩, final⟩
    rw [replies_cons, answer, answers]
    rfl

end Wound

/-- Whatever operations were run: where the corners of all faces lie at finite places and all checks
pass, winding included, faces may be split strictly inside and edges strictly between their ends,
any number of times.  All of these splits succeed, and all checks pass again. -/
theorem check_splits_of_operations (operations : List Operation) {kernel : Kernel}
    (exact : kernel.IsExact) (finite : (empty.run operations).FiniteCorners)
    (passes : (empty.run operations).check kernel .all = .ok ()) {splits : List Operation}
    (within : (empty.run operations).SplitsWithin splits) :
    let m := empty.run operations
    (∃ xs : List NodeId, m.replies splits = xs.map fun x => .ok (.node x)) ∧
      (m.run splits).FiniteCorners ∧ (m.run splits).check kernel .all = .ok () := by
  intro m
  have sound : m.Sound := sound_empty.run operations
  have wound : m.CounterClockwise kernel := ⟨finite, sound.check_all_iff.1 passes⟩
  obtain ⟨answers, wound'⟩ := wound.run sound exact within
  exact ⟨answers, wound'.finite, (sound.run splits).check_all_iff.2 wound'.positive⟩

/-- The right half of a kite is split at a point inside of it, and then the diagonal in the middle.
There the diagonal has a new face to one side and an old one to the other. -/
theorem check_splits_kite :
    let m := empty.run kite
    let splits : List Operation := [.splitFace ⟨1, 0⟩ ⟨1, 0⟩, .splitEdge ⟨3, 0⟩ ⟨0, 0⟩]
    m.FiniteCorners ∧ m.check .integral .all = .ok () ∧ m.SplitsWithin splits ∧
      (m.run splits).faceCount = 6 ∧ (m.run splits).check .integral .all = .ok () := by
  intro m splits
  have finite : m.FinitePositions := by decide +kernel
  have passes : m.check .integral .all = .ok () := by decide +kernel
  have within : m.SplitsWithin splits := by
    refine ⟨.face (by decide +kernel) (by decide +kernel), ?_, trivial⟩
    apply Operation.SplitsWithin.edge (a := ⟨0, 1⟩) (b := ⟨0, -1⟩)
    · decide +kernel
    · decide +kernel
    · decide +kernel
  have kept := check_splits_of_operations kite Kernel.integral_isExact finite.corners passes within
  exact ⟨finite.corners, passes, within, by decide +kernel, kept.2.2⟩

end Mesh

end PlanarMesh
