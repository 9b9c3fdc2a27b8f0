import PlanarMesh.Proofs.Geometry.Triangle
import PlanarMesh.Proofs.Locate.Soundness

/-!
# Walks on tilings

Where the faces are counter-clockwise triangles that do not overlap, and no node is outside of a
side on the boundary, a point strictly inside a face has one right location only: that face.  A
point on a side of a face would reach from there into two faces at once
(`Tiled.not_liesOn`), and the boundary has the insides of all faces to its left
(`BoundaryConvex.turn_pos`).  So a walk that ends has found the face, from wherever it started.
-/

namespace PlanarMesh

namespace Mesh

/-- The places strictly to the left of the three sides of the face. -/
def faceInterior (m : Mesh) (f : FaceId) : Set (ℝ × ℝ) :=
  {q | ∃ c, m.facePositions f = .ok c ∧ q ∈ openTriangle c.a.place c.b.place c.c.place}

/-- The faces are counter-clockwise triangles between finite places and do not overlap. -/
structure Tiled (m : Mesh) (kernel : Kernel) : Prop extends m.CounterClockwise kernel where
  disjoint : ∀ f g, m.containsFace f = true → m.containsFace g = true → f ≠ g →
    Disjoint (m.faceInterior f) (m.faceInterior g)

/-- No node is to the right of a side of a face with nothing on its other side. -/
def BoundaryConvex (m : Mesh) : Prop :=
  ∀ h a b n q, m.Faced h → m.Free h.pair → m.segment h = .ok (a, b) → m.position n = .ok q →
    0 ≤ determinant a b q

variable {m : Mesh} {kernel : Kernel} {p : Point}

/-! ## Corners of a face -/

section Corners

variable {f : FaceId} {t : Corners HalfedgeId} {ns : Corners NodeId} {c : Corners Point}

theorem Cornered.faceInterior (sound : m.Sound) (cornered : m.Cornered f t ns c) :
    m.faceInterior f = openTriangle c.a.place c.b.place c.c.place := by
  have positions {c' : Corners Point} (found : m.facePositions f = .ok c') :
      m.faceInterior f = openTriangle c'.a.place c'.b.place c'.c.place := by
    ext q
    simp [Mesh.faceInterior, found]
  rcases cornered.facePositions sound with found | found | found
  · exact positions found
  · rw [positions found, Corners.rotate, openTriangle_rotate]
  · rw [positions found, Corners.rotate, Corners.rotate, openTriangle_rotate, openTriangle_rotate]

end Corners

/-! ## Strictly inside a face -/

/-- A face in which a point is located has it strictly inside. -/
theorem Sound.place_mem_faceInterior (sound : m.Sound) {g} (located : m.Locates p (.inFace g)) :
    m.containsFace g = true ∧ p.place ∈ m.faceInterior g := by
  rcases located with ⟨t, sides, left⟩
  rcases bind_eq_ok_iff.1 sides with ⟨record, found, -⟩
  have live := Option.isSome_iff_exists.2 ⟨record, face_eq_ok_iff.1 found⟩
  rcases sound.exists_facePositions live with ⟨t', ns, c, sides', -, cornered⟩
  cases sides.symm.trans sides'
  have strict {h a b} (mem : h ∈ t.toList) (side : m.segment h = .ok (a, b)) :
      0 < turn a.place b.place p.place := by
    rcases left h mem with ⟨a', b', side', positive⟩
    cases side.symm.trans side'
    rw [turn_place]
    exact Int.cast_pos.2 positive
  rw [cornered.faceInterior sound]
  exact ⟨live, strict (by simp) cornered.segment_a, strict (by simp) cornered.segment_b,
    strict (by simp) cornered.segment_c⟩

section Inside

variable (tiled : m.Tiled kernel) (sound : m.Sound) (exact : kernel.IsExact)

include tiled sound exact

/-- A face that reaches strictly inside another one is that face. -/
theorem Tiled.eq_of_reaches {f g t ns c q} (live : m.containsFace f = true)
    (inside : q ∈ m.faceInterior f) (cornered : m.Cornered g t ns c)
    (reaches : q ∈ closedTriangle c.a.place c.b.place c.c.place) : g = f := by
  by_contra other
  have live' := sound.face_live t.a g cornered.triangle.faceOf?_a
  rcases inside with ⟨c', positions, mem⟩
  have positive := tiled.turn_pos sound exact cornered
  rcases exists_mem_openTriangle positive reaches mem with ⟨r, here, there⟩
  rw [← cornered.faceInterior sound] at there
  exact Set.disjoint_left.1 (tiled.disjoint g f live' live other) there ⟨c', positions, here⟩

/-- No side of a face passes through a point strictly inside a face. -/
theorem Tiled.not_liesOn {f h a b} (live : m.containsFace f = true)
    (inside : p.place ∈ m.faceInterior f) (faced : m.Faced h)
    (side : m.segment h = .ok (a, b)) : ¬ p.LiesOn a b := by
  intro on
  rcases faced with ⟨g, reported⟩
  rcases sound.exists_cornered reported with ⟨t, ns, c, rfl, cornered⟩
  cases cornered.segment_a.symm.trans side
  have reaches := segment_subset_closedTriangle (tiled.turn_pos sound exact cornered) on
  cases tiled.eq_of_reaches sound exact live inside cornered reaches
  rw [cornered.faceInterior sound] at inside
  exact inside.1.ne' (turn_eq_zero_of_mem_segment on)

/-- A side on the boundary has the insides of all faces to its left. -/
theorem BoundaryConvex.turn_pos (convex : m.BoundaryConvex) {f h a b q}
    (inside : q ∈ m.faceInterior f) (live : m.containsFace f = true) (faced : m.Faced h)
    (free : m.Free h.pair) (side : m.segment h = .ok (a, b)) : 0 < turn a.place b.place q := by
  rcases faced with ⟨g, reported⟩
  rcases sound.exists_cornered reported with ⟨t, ns, c, rfl, cornered⟩
  have apart : a.place ≠ b.place := by
    intro same
    have positive := tiled.turn_pos sound exact cornered
    cases cornered.segment_a.symm.trans side
    rw [same, ← turn_rotate, turn_left_self] at positive
    exact lt_irrefl 0 positive
  rcases sound.exists_facePositions live with ⟨t', ns', c', -, -, cornered'⟩
  have left {n q} (placed : m.position n = .ok q) : 0 ≤ turn a.place b.place q.place := by
    rw [turn_place]
    exact Int.cast_nonneg (convex t.a a b n q ⟨g, reported⟩ free side placed)
  rw [cornered'.faceInterior sound] at inside
  exact turn_pos_of_mem_openTriangle apart (left cornered'.position_a) (left cornered'.position_b)
    (left cornered'.position_c) inside

/-- The only right location of a point strictly inside a face is the face. -/
theorem Tiled.eq_inFace (convex : m.BoundaryConvex) {f} (live : m.containsFace f = true)
    (inside : p.place ∈ m.faceInterior f) {location : PointLocation}
    (located : m.Locates p location) : location = .inFace f := by
  cases location with
  | inFace g =>
    rcases sound.place_mem_faceInterior located with ⟨live', inside'⟩
    by_contra other
    have differ : f ≠ g := fun same => other (by rw [same])
    exact Set.disjoint_left.1 (tiled.disjoint f g live live' differ) inside inside'
  | onEdge e =>
    rcases located with ⟨h, a, b, -, faced, side, between⟩
    exact absurd between.liesOn (tiled.not_liesOn sound exact live inside faced side)
  | onNode n =>
    rcases located with ⟨h, a, start, ⟨g, reported⟩, placed, same⟩
    rcases sound.exists_cornered reported with ⟨t, ns, c, rfl, cornered⟩
    cases cornered.chain.side₁.eq_start start
    cases cornered.position_a.symm.trans placed
    have on : p.LiesOn c.a c.b := Point.liesOn_of_start same
    exact absurd on (tiled.not_liesOn sound exact live inside cornered.faced_a cornered.segment_a)
  | outsideMesh e =>
    rcases located with ⟨h, a, b, -, faced, free, side, notLeft, -⟩
    have left := convex.turn_pos tiled sound exact inside live faced free side
    rw [turn_place, Int.cast_pos] at left
    exact absurd left notLeft.not_gt

end Inside

/-- Whatever operations were run: where they have led to counter-clockwise faces that do not
overlap, with a convex boundary, locating a point strictly inside a face gives that face.
Otherwise the budget was used up, or there is no budget and the walk never ends. -/
theorem locateWith_inside_of_operations (operations : List Operation) {kernel : Kernel} {p : Point}
    {f : FaceId} (start : Option FaceId) (options : LocateOptions) (exact : kernel.IsExact)
    (tiled : (empty.run operations).Tiled kernel) (convex : (empty.run operations).BoundaryConvex)
    (pFinite : p.isFinite = true)
    (live : ∀ g, start = some g → (empty.run operations).containsFace g = true)
    (target : (empty.run operations).containsFace f = true)
    (inside : p.place ∈ (empty.run operations).faceInterior f) :
    let m := empty.run operations
    m.locateWith kernel p start options = some (.ok (.inFace f)) ∨
      (∃ budget, options.maxSteps = some budget ∧
        m.locateWith kernel p start options = some (.error (.walkExhausted budget))) ∨
      options.maxSteps = none ∧ m.locateWith kernel p start options = none ∧
        ∀ budget, m.locateWithin kernel p start budget = .error (.walkExhausted budget) := by
  intro m
  have sound : m.Sound := sound_empty.run operations
  have answer : m.Answer kernel p start options (m.locateWith kernel p start options) :=
    sound.answer exact tiled.finite pFinite live
  generalize m.locateWith kernel p start options = answered at answer ⊢
  cases answer with
  | located right =>
    left
    rw [tiled.eq_inFace sound exact convex target inside right]
  | exhausted limited => exact .inr (.inl ⟨_, limited, rfl⟩)
  | noFaces _ none =>
    rw [← mem_faceIds, none] at target
    cases target
  | endless unlimited never => exact .inr (.inr ⟨unlimited, rfl, never⟩)

/-! ## Telling a tiling -/

/-- Some side of the first triangle has all corners of the second on it or to its right. -/
def Separates (c c' : Corners Point) : Prop :=
  ∃ d ∈ [c, c.rotate, c.rotate.rotate], ∀ q ∈ c'.toList, determinant d.a d.b q ≤ 0

instance (c c' : Corners Point) : Decidable (Separates c c') :=
  inferInstanceAs (Decidable (∃ d ∈ _, ∀ q ∈ _, _))

theorem Separates.disjoint {c c' : Corners Point} (separates : Separates c c') :
    Disjoint (openTriangle c.a.place c.b.place c.c.place)
      (openTriangle c'.a.place c'.b.place c'.c.place) := by
  rcases separates with ⟨d, turned, right⟩
  have same : openTriangle d.a.place d.b.place d.c.place =
      openTriangle c.a.place c.b.place c.c.place := by
    simp only [List.mem_cons, List.not_mem_nil, or_false] at turned
    rcases turned with rfl | rfl | rfl
    · rfl
    · rw [Corners.rotate, openTriangle_rotate]
    · rw [Corners.rotate, Corners.rotate, openTriangle_rotate, openTriangle_rotate]
  have outside {q} (mem : q ∈ c'.toList) : turn d.a.place d.b.place q.place ≤ 0 := by
    rw [turn_place]
    exact Int.cast_nonpos.2 (right q mem)
  rw [← same]
  exact disjoint_openTriangle (outside (by simp)) (outside (by simp)) (outside (by simp))

/-- Of every two faces, one has a side that separates it from the other. -/
def Separated (m : Mesh) : Prop :=
  ∀ f ∈ m.faceIds, ∀ g ∈ m.faceIds, f ≠ g → ∀ c ∈ (m.facePositions f).toOption,
    ∀ c' ∈ (m.facePositions g).toOption, Separates c c' ∨ Separates c' c

instance : Decidable m.Separated := by
  unfold Separated
  infer_instance

/-- Faces that can be separated do not overlap. -/
theorem Separated.tiled (separated : m.Separated) (finite : m.FinitePositions)
    (positive : ∀ f ∈ m.faceIds, m.faceOrientation kernel f = .ok .positive) : m.Tiled kernel where
  finite := finite.corners
  positive f live := positive f (mem_faceIds.2 live)
  disjoint f g live live' other := by
    rw [Set.disjoint_left]
    rintro q ⟨c, found, mem⟩ ⟨c', found', mem'⟩
    rcases separated f (mem_faceIds.2 live) g (mem_faceIds.2 live') other c
      (toOption_eq_some_iff.2 found) c' (toOption_eq_some_iff.2 found') with side | side
    · exact Set.disjoint_left.1 side.disjoint mem mem'
    · exact Set.disjoint_left.1 side.disjoint mem' mem

theorem boundaryConvex_iff : m.BoundaryConvex ↔
    ∀ h ∈ m.halfedgeIds, m.Faced h → m.Free h.pair → ∀ ends ∈ (m.segment h).toOption,
      ∀ n ∈ m.nodeIds, ∀ q ∈ (m.position n).toOption, 0 ≤ determinant ends.1 ends.2 q := by
  constructor
  · intro convex h _ faced free ends side n _ q placed
    exact convex h ends.1 ends.2 n q faced free (toOption_eq_some_iff.1 side)
      (toOption_eq_some_iff.1 placed)
  · intro checked h a b n q faced free side placed
    rcases faced with ⟨f, reported⟩
    have live := containsHalfedge_iff_faceOf?.2 ⟨_, reported⟩
    exact checked h (mem_halfedgeIds.2 live) ⟨f, reported⟩ free (a, b)
      (toOption_eq_some_iff.2 side) n (mem_nodeIds.2 (containsNode_of_position placed)) q
      (toOption_eq_some_iff.2 placed)

instance : Decidable m.BoundaryConvex :=
  decidable_of_iff _ boundaryConvex_iff.symm

theorem place_mem_faceInterior_iff {f : FaceId} : p.place ∈ m.faceInterior f ↔
    ∃ c ∈ (m.facePositions f).toOption,
      0 < determinant c.a c.b p ∧ 0 < determinant c.b c.c p ∧ 0 < determinant c.c c.a p := by
  simp only [faceInterior, openTriangle, Set.mem_ofPred_eq, turn_place, Int.cast_pos,
    Option.mem_def, toOption_eq_some_iff]

instance (f : FaceId) : Decidable (p.place ∈ m.faceInterior f) :=
  decidable_of_iff _ place_mem_faceInterior_iff.symm

/-- The halves of a kite do not overlap, and a point in one of them is found there. -/
theorem locateWith_inside_kite :
    let m := empty.run kite
    let p : Point := ⟨-1, 0⟩
    let right : FaceId := ⟨1, 0⟩
    let left : FaceId := ⟨2, 0⟩
    m.Tiled .integral ∧ m.BoundaryConvex ∧ m.containsFace right = true ∧
      p.place ∈ m.faceInterior left ∧
      (m.locateWith .integral p (some right) {} = some (.ok (.inFace left)) ∨
        m.locateWith .integral p (some right) {} = none) := by
  have separated : (empty.run kite).Separated := by decide +kernel
  have tiled : (empty.run kite).Tiled .integral :=
    separated.tiled (by decide +kernel) (by decide +kernel)
  have convex : (empty.run kite).BoundaryConvex := by decide +kernel
  have live : (empty.run kite).containsFace ⟨1, 0⟩ = true := by decide +kernel
  have inside : Point.place ⟨-1, 0⟩ ∈ (empty.run kite).faceInterior ⟨2, 0⟩ := by decide +kernel
  refine ⟨tiled, convex, live, inside, ?_⟩
  rcases locateWith_inside_of_operations kite (some ⟨1, 0⟩) {} Kernel.integral_isExact
    tiled convex (by decide +kernel) (fun g chosen => Option.some.inj chosen ▸ live)
    (by decide +kernel) inside with found | ⟨budget, limited, -⟩ | ⟨-, endless, -⟩
  · exact .inl found
  · cases limited
  · exact .inr endless

end Mesh

end PlanarMesh
