import PlanarMesh.Proofs.Locate.Soundness
import PlanarMesh.Proofs.Geometry.Triangle

/-!
# Walks that start in the right face

A walk that starts in a counter-clockwise face with the point in it or on its outline never leaves
the face, whatever the rest of the mesh looks like.  At each side the point is to the left, or the
walk has found it on the side or at one of its ends.  So three steps are enough, and what they give
depends only on where the point lies on the face: a corner if it is there, else a side if it is
between the ends, else the face.

From which half-edge the face is read makes no difference.  A corner is the start of one side and
the end of another, and whichever of the two the walk looks at first tells it; a side between whose
ends the point lies is met after at most two others, and the point is strictly to the left of these.
-/

namespace PlanarMesh

/-! ## Verdicts on a face -/

namespace Verdict

variable {p a b : Point} {e : EdgeId} {n n' : NodeId} {transition : Transition}
  (verdict : Verdict p e n n' a b transition)

include verdict

theorem eq_of_left (left : 0 < determinant a b p) : transition = .advance := by
  cases verdict with
  | left => rfl
  | right side => exact absurd left side.not_gt
  | beyond line => exact absurd line left.ne'
  | within between => exact absurd between.liesOn.determinant_eq_zero left.ne'
  | start same => exact absurd (Point.liesOn_of_start same).determinant_eq_zero left.ne'
  | finish same => exact absurd (Point.liesOn_of_finish same).determinant_eq_zero left.ne'

/-- On the side or at its ends the walk has found the point. -/
theorem exists_found (on : p.LiesOn a b) : ∃ location, transition = .found location := by
  have line := on.determinant_eq_zero
  cases verdict with
  | left side => exact absurd line side.ne'
  | right side => exact absurd line side.ne
  | beyond _ outside => exact absurd on outside
  | within | start | finish => exact ⟨_, rfl⟩

theorem eq_of_between (between : p.LiesBetween a b) : transition = .found (.onEdge e) := by
  rcases verdict.exists_found between.liesOn with ⟨location, rfl⟩
  rcases between with ⟨apart, between⟩
  cases verdict with
  | within => rfl
  | start same =>
    rw [same, left_mem_openSegment_iff] at between
    exact absurd between apart
  | finish same =>
    rw [same, right_mem_openSegment_iff] at between
    exact absurd between apart

theorem eq_of_start (apart : a.place ≠ b.place) (same : p.place = a.place) :
    transition = .found (.onNode n) := by
  rcases verdict.exists_found (Point.liesOn_of_start same) with ⟨location, rfl⟩
  cases verdict with
  | within between =>
    rcases between with ⟨-, between⟩
    rw [same, left_mem_openSegment_iff] at between
    exact absurd between apart
  | start => rfl
  | finish same' => exact absurd (same.symm.trans same') apart

theorem eq_of_finish (apart : a.place ≠ b.place) (same : p.place = b.place) :
    transition = .found (.onNode n') := by
  rcases verdict.exists_found (Point.liesOn_of_finish same) with ⟨location, rfl⟩
  cases verdict with
  | within between =>
    rcases between with ⟨-, between⟩
    rw [same, right_mem_openSegment_iff] at between
    exact absurd between apart
  | start same' => exact absurd (same'.symm.trans same) apart
  | finish => rfl

end Verdict

namespace Mesh

variable {m : Mesh} {kernel : Kernel} {p : Point} {f : FaceId} {t : Corners HalfedgeId}
  {ns : Corners NodeId} {c : Corners Point}

/-! ## Where a point lies on a face -/

/-- The places on or to the left of the three sides of the face. -/
def faceClosure (m : Mesh) (f : FaceId) : Set (ℝ × ℝ) :=
  {q | ∃ c, m.facePositions f = .ok c ∧ q ∈ closedTriangle c.a.place c.b.place c.c.place}

/-- The point is where a corner of the face is. -/
def AtCorner (m : Mesh) (p : Point) (f : FaceId) (n : NodeId) : Prop :=
  ∃ ns q, m.faceNodes f = .ok ns ∧ n ∈ ns.toList ∧ m.position n = .ok q ∧ p.place = q.place

/-- The point lies strictly between the ends of a side of the face. -/
def OnSide (m : Mesh) (p : Point) (f : FaceId) (e : EdgeId) : Prop :=
  ∃ t h a b, m.faceHalfedges f = .ok t ∧ h ∈ t.toList ∧ h.edge = e ∧
    m.segment h = .ok (a, b) ∧ p.LiesBetween a b

theorem place_mem_faceClosure_iff : p.place ∈ m.faceClosure f ↔
    ∃ c ∈ (m.facePositions f).toOption,
      0 ≤ determinant c.a c.b p ∧ 0 ≤ determinant c.b c.c p ∧ 0 ≤ determinant c.c c.a p := by
  simp only [faceClosure, closedTriangle, Set.mem_ofPred_eq, turn_place, Int.cast_nonneg_iff,
    Option.mem_def, toOption_eq_some_iff]

instance (f : FaceId) : Decidable (p.place ∈ m.faceClosure f) :=
  decidable_of_iff _ place_mem_faceClosure_iff.symm

/-! ## Walks around the face -/

/-- The face is a counter-clockwise triangle between finite places. -/
structure Spanned (m : Mesh) (f : FaceId) (t : Corners HalfedgeId) (ns : Corners NodeId)
    (c : Corners Point) : Prop extends m.Cornered f t ns c where
  finite : ∀ q ∈ c.toList, q.isFinite = true
  positive : 0 < turn c.a.place c.b.place c.c.place

namespace Spanned

theorem rotate (spanned : m.Spanned f t ns c) :
    m.Spanned f t.rotate ns.rotate c.rotate where
  toCornered := spanned.toCornered.rotate
  finite q mem := spanned.finite q <| by
    rw [Corners.mem_toList] at mem ⊢
    exact (or_rotate.2 mem)
  positive := by
    rw [Corners.rotate, turn_rotate]
    exact spanned.positive

variable (spanned : m.Spanned f t ns c)

include spanned

theorem apart : c.a.place ≠ c.b.place := by
  intro same
  have positive := spanned.positive
  rw [same, ← turn_rotate, turn_left_self] at positive
  exact lt_irrefl 0 positive

variable (sound : m.Sound) (exact : kernel.IsExact) (pFinite : p.isFinite = true) (steps : Nat)

include exact pFinite

theorem exists_verdict (r : HalfedgeId) :
    ∃ transition, m.walkStep kernel p ⟨r, t.a⟩ = m.follow ⟨r, t.a⟩ transition ∧
      Verdict p t.a.edge ns.a ns.b c.a c.b transition :=
  spanned.toCornered.exists_verdict exact (spanned.finite c.a (by simp))
    (spanned.finite c.b (by simp)) pFinite r

/-- To the left of a side the walk goes on to the next one. -/
theorem walk_of_left {r : HalfedgeId} (left : 0 < turn c.a.place c.b.place p.place)
    (other : t.b ≠ r) :
    m.walk kernel p (steps + 1) ⟨r, t.a⟩ = m.walk kernel p steps ⟨r, t.b⟩ := by
  rcases spanned.exists_verdict exact pFinite r with ⟨transition, step, verdict⟩
  cases verdict.eq_of_left (determinant_pos_iff.2 left)
  rw [spanned.toCornered.follow_advance, if_neg other] at step
  rw [walk, step]

/-- To the left of the last side of the round the walk ends in the face. -/
theorem walk_of_last (left : 0 < turn c.a.place c.b.place p.place) :
    m.walk kernel p (steps + 1) ⟨t.b, t.a⟩ = some (.ok (.inFace f)) := by
  rcases spanned.exists_verdict exact pFinite t.b with ⟨transition, step, verdict⟩
  cases verdict.eq_of_left (determinant_pos_iff.2 left)
  rw [spanned.toCornered.follow_advance, if_pos rfl] at step
  rw [walk, step]

/-- Where the side can only tell that the point is found, the walk ends. -/
theorem walk_of_found {r : HalfedgeId} {location : PointLocation}
    (found : ∀ transition, Verdict p t.a.edge ns.a ns.b c.a c.b transition →
      transition = .found location) :
    m.walk kernel p (steps + 1) ⟨r, t.a⟩ = some (.ok location) := by
  rcases spanned.exists_verdict exact pFinite r with ⟨transition, step, verdict⟩
  cases found transition verdict
  rw [walk, step]
  rfl

/-- At the start of a side the walk has found the node. -/
theorem walk_of_start {r : HalfedgeId} (same : p.place = c.a.place) :
    m.walk kernel p (steps + 1) ⟨r, t.a⟩ = some (.ok (.onNode ns.a)) :=
  spanned.walk_of_found exact pFinite steps fun _ verdict =>
    verdict.eq_of_start spanned.apart same

/-- At the end of a side the walk has found the node. -/
theorem walk_of_finish {r : HalfedgeId} (same : p.place = c.b.place) :
    m.walk kernel p (steps + 1) ⟨r, t.a⟩ = some (.ok (.onNode ns.b)) :=
  spanned.walk_of_found exact pFinite steps fun _ verdict =>
    verdict.eq_of_finish spanned.apart same

/-- Between the ends of a side the walk has found the edge. -/
theorem walk_of_between {r : HalfedgeId} (between : p.LiesBetween c.a c.b) :
    m.walk kernel p (steps + 1) ⟨r, t.a⟩ = some (.ok (.onEdge t.a.edge)) :=
  spanned.walk_of_found exact pFinite steps fun _ verdict => verdict.eq_of_between between

include sound

/-- From whichever side it starts, the walk finds the point at a corner. -/
theorem walk_of_corner (same : p.place = c.a.place) {r : HalfedgeId} (mem : r ∈ t.toList) :
    m.walk kernel p (steps + 3) ⟨r, r⟩ = some (.ok (.onNode ns.a)) := by
  rcases Corners.mem_toList.1 mem with rfl | rfl | rfl
  · exact spanned.walk_of_start exact pFinite _ same
  · have left : 0 < turn c.b.place c.c.place p.place := by
      rw [same, turn_rotate]
      exact spanned.positive
    calc
      _ = m.walk kernel p (steps + 2) ⟨t.b, t.c⟩ :=
        spanned.rotate.walk_of_left exact pFinite _ left (spanned.triangle.rotate.b_ne_a sound)
      _ = _ := spanned.rotate.rotate.walk_of_finish exact pFinite _ same
  · exact spanned.rotate.rotate.walk_of_finish exact pFinite _ same

/-- From whichever side it starts, the walk finds the point between the ends of a side. -/
theorem walk_of_side (between : p.LiesBetween c.a c.b) {r : HalfedgeId} (mem : r ∈ t.toList) :
    m.walk kernel p (steps + 3) ⟨r, r⟩ = some (.ok (.onEdge t.a.edge)) := by
  rcases turn_pos_of_mem_openSegment spanned.positive between.2 with ⟨left, left'⟩
  rcases Corners.mem_toList.1 mem with rfl | rfl | rfl
  · exact spanned.walk_of_between exact pFinite _ between
  · calc
      _ = m.walk kernel p (steps + 2) ⟨t.b, t.c⟩ :=
        spanned.rotate.walk_of_left exact pFinite _ left (spanned.triangle.rotate.b_ne_a sound)
      _ = m.walk kernel p (steps + 1) ⟨t.b, t.a⟩ :=
        spanned.rotate.rotate.walk_of_left exact pFinite _ left'
          (spanned.triangle.b_ne_a sound).symm
      _ = _ := spanned.walk_of_between exact pFinite _ between
  · calc
      _ = m.walk kernel p (steps + 2) ⟨t.c, t.a⟩ :=
        spanned.rotate.rotate.walk_of_left exact pFinite _ left'
          (spanned.triangle.rotate.rotate.b_ne_a sound)
      _ = _ := spanned.walk_of_between exact pFinite _ between

/-- A full round to the left of all sides ends in the face. -/
theorem walk_of_inside (inside : p.place ∈ openTriangle c.a.place c.b.place c.c.place) :
    m.walk kernel p (steps + 3) ⟨t.a, t.a⟩ = some (.ok (.inFace f)) := by
  rcases inside with ⟨first, second, third⟩
  calc
    _ = m.walk kernel p (steps + 2) ⟨t.a, t.b⟩ :=
      spanned.walk_of_left exact pFinite _ first (spanned.triangle.b_ne_a sound)
    _ = m.walk kernel p (steps + 1) ⟨t.a, t.c⟩ :=
      spanned.rotate.walk_of_left exact pFinite _ second
        (spanned.triangle.rotate.rotate.b_ne_a sound).symm
    _ = _ := spanned.rotate.rotate.walk_of_last exact pFinite _ third

/-- At whichever corner of the face the point is, the walk finds it there. -/
theorem walk_of_atCorner (nodes : m.faceNodes f = .ok ns) {n : NodeId}
    (corner : m.AtCorner p f n) :
    m.walk kernel p (steps + 3) ⟨t.a, t.a⟩ = some (.ok (.onNode n)) := by
  rcases corner with ⟨ns', q, nodes', mem, placed, same⟩
  cases nodes'.symm.trans nodes
  rcases Corners.mem_toList.1 mem with rfl | rfl | rfl
  · cases placed.symm.trans spanned.position_a
    exact spanned.walk_of_corner sound exact pFinite steps same (by simp)
  · cases placed.symm.trans spanned.position_b
    exact spanned.rotate.walk_of_corner sound exact pFinite steps same (by simp [Corners.rotate])
  · cases placed.symm.trans spanned.position_c
    exact spanned.rotate.rotate.walk_of_corner sound exact pFinite steps same
      (by simp [Corners.rotate])

/-- Between the ends of whichever side of the face the point lies, the walk finds it there. -/
theorem walk_of_onSide (sides : m.faceHalfedges f = .ok t) {e : EdgeId} (side : m.OnSide p f e) :
    m.walk kernel p (steps + 3) ⟨t.a, t.a⟩ = some (.ok (.onEdge e)) := by
  rcases side with ⟨t', h, a, b, sides', mem, rfl, segment, between⟩
  cases sides'.symm.trans sides
  rcases Corners.mem_toList.1 mem with rfl | rfl | rfl
  · cases segment.symm.trans spanned.segment_a
    exact spanned.walk_of_side sound exact pFinite steps between (by simp)
  · cases segment.symm.trans spanned.segment_b
    exact spanned.rotate.walk_of_side sound exact pFinite steps between (by simp [Corners.rotate])
  · cases segment.symm.trans spanned.segment_c
    exact spanned.rotate.rotate.walk_of_side sound exact pFinite steps between
      (by simp [Corners.rotate])

omit sound exact pFinite in
/-- A point of the face that is at no corner and on no side is strictly inside. -/
theorem place_mem_openTriangle (sides : m.faceHalfedges f = .ok t)
    (nodes : m.faceNodes f = .ok ns) (corners : m.facePositions f = .ok c)
    (contains : p.place ∈ m.faceClosure f) (noCorner : ∀ n, ¬ m.AtCorner p f n)
    (noSide : ∀ e, ¬ m.OnSide p f e) :
    p.place ∈ openTriangle c.a.place c.b.place c.c.place := by
  rcases contains with ⟨c', corners', closed⟩
  cases corners'.symm.trans corners
  have corner_a : p.place ≠ c.a.place := fun same =>
    noCorner ns.a ⟨ns, c.a, nodes, by simp, spanned.position_a, same⟩
  have corner_b : p.place ≠ c.b.place := fun same =>
    noCorner ns.b ⟨ns, c.b, nodes, by simp, spanned.position_b, same⟩
  have corner_c : p.place ≠ c.c.place := fun same =>
    noCorner ns.c ⟨ns, c.c, nodes, by simp, spanned.position_c, same⟩
  have side_a : ¬ p.LiesBetween c.a c.b := fun between =>
    noSide t.a.edge ⟨t, t.a, c.a, c.b, sides, by simp, rfl, spanned.segment_a, between⟩
  have side_b : ¬ p.LiesBetween c.b c.c := fun between =>
    noSide t.b.edge ⟨t, t.b, c.b, c.c, sides, by simp, rfl, spanned.segment_b, between⟩
  have side_c : ¬ p.LiesBetween c.c c.a := fun between =>
    noSide t.c.edge ⟨t, t.c, c.c, c.a, sides, by simp, rfl, spanned.segment_c, between⟩
  exact mem_openTriangle_of_closedTriangle spanned.positive closed
    (Point.not_liesOn corner_a corner_b side_a) (Point.not_liesOn corner_b corner_c side_b)
    (Point.not_liesOn corner_c corner_a side_c)

end Spanned

/-! ## Locating from the face -/

theorem walkStart_of_faceHalfedges (sides : m.faceHalfedges f = .ok t) :
    m.walkStart (some f) = .ok ⟨t.a, t.a⟩ := by
  simp [walkStart, face_eq_ok_iff.2 (faceHalfedges_eq_ok_iff.1 sides).1, bind, Except.bind, pure,
    Except.pure]

/-- Three steps suffice to go round a face. -/
theorem Triangle.three_le_sufficientSteps (triangle : m.Triangle f t) (sound : m.Sound) :
    3 ≤ m.sufficientSteps := by
  have sides : 3 ≤ m.halfedgeCount := length_le_halfedgeCount (sound.nodup_triangle triangle)
    fun h mem => containsHalfedge_iff_faceOf?.2 ⟨_, (triangle.reports_iff h).2 mem⟩
  calc
    3 ≤ m.halfedgeCount * m.halfedgeCount := by nlinarith
    _ ≤ m.sufficientSteps := Nat.le_succ _

/-- What a walk of three or more steps gives is what locating gives. -/
theorem locateWith_of_walk {options : LocateOptions} {s : WalkState} {location : PointLocation}
    (started : m.walkStart (some f) = .ok s) (enough : 3 ≤ m.sufficientSteps)
    (steps : ∀ budget, options.maxSteps = some budget → 3 ≤ budget)
    (walks : ∀ steps, m.walk kernel p (steps + 3) s = some (.ok location)) :
    m.locateWith kernel p (some f) options = some (.ok location) := by
  have walks' {budget : Nat} (three : 3 ≤ budget) :
      m.walk kernel p budget s = some (.ok location) := by
    rw [← Nat.sub_add_cancel three]
    exact walks _
  rw [locateWith_of_walkStart started]
  cases limited : options.maxSteps with
  | none => exact walks' enough
  | some budget => simp only [walks' (steps budget limited), Option.getD_some]

theorem Sound.exists_spanned (sound : m.Sound) (exact : kernel.IsExact)
    (finite : ∀ c, m.facePositions f = .ok c → ∀ q ∈ c.toList, q.isFinite = true)
    (positive : m.faceOrientation kernel f = .ok .positive) :
    ∃ t ns c, m.faceHalfedges f = .ok t ∧ m.faceNodes f = .ok ns ∧ m.facePositions f = .ok c ∧
      m.Spanned f t ns c := by
  rcases bind_eq_ok_iff.1 positive with ⟨c', corners, -⟩
  rcases bind_eq_ok_iff.1 corners with ⟨ns', nodes, -⟩
  rcases bind_eq_ok_iff.1 nodes with ⟨t', sides, -⟩
  have found := (faceHalfedges_eq_ok_iff.1 sides).1
  rcases sound.exists_facePositions (Option.isSome_iff_exists.2 ⟨_, found⟩) with
    ⟨t, ns, c, sides', corners', cornered⟩
  cases sides'.symm.trans sides
  have nodes' := faceNodes_of_triangle found rfl cornered.triangle cornered.chain.side₁.start
    cornered.chain.side₂.start cornered.chain.side₃.start
  have wound : 0 < determinant c.a c.b c.c :=
    (faceOrientation_eq_positive_iff exact corners' (finite c corners')).1 positive
  exact ⟨t', ns, c, sides, nodes', corners', cornered, finite c corners',
    determinant_pos_iff.1 wound⟩

/-- Whatever operations were run: locating a point from a counter-clockwise face that contains it,
with three steps or more, gives the corner where the point is, or else the side between whose ends
it lies, or else the face. -/
theorem locateWith_face_of_operations (operations : List Operation) {kernel : Kernel} {f : FaceId}
    {p : Point} (options : LocateOptions) (exact : kernel.IsExact)
    (finite : ∀ c, (empty.run operations).facePositions f = .ok c →
      ∀ q ∈ c.toList, q.isFinite = true)
    (positive : (empty.run operations).faceOrientation kernel f = .ok .positive)
    (pFinite : p.isFinite = true) (contains : p.place ∈ (empty.run operations).faceClosure f)
    (steps : ∀ budget, options.maxSteps = some budget → 3 ≤ budget) :
    let m := empty.run operations
    let answer := m.locateWith kernel p (some f) options
    (∀ n, m.AtCorner p f n → answer = some (.ok (.onNode n))) ∧
      (∀ e, m.OnSide p f e → answer = some (.ok (.onEdge e))) ∧
      ((∀ n, ¬ m.AtCorner p f n) → (∀ e, ¬ m.OnSide p f e) →
        answer = some (.ok (.inFace f))) := by
  intro m answer
  have sound : m.Sound := sound_empty.run operations
  rcases sound.exists_spanned exact finite positive with
    ⟨t, ns, c, sides, nodes, corners, spanned⟩
  have enough := spanned.triangle.three_le_sufficientSteps sound
  have found {location : PointLocation}
      (walks : ∀ steps, m.walk kernel p (steps + 3) ⟨t.a, t.a⟩ = some (.ok location)) :
      answer = some (.ok location) :=
    locateWith_of_walk (walkStart_of_faceHalfedges sides) enough steps walks
  refine ⟨fun n corner => ?_, fun e side => ?_, fun noCorner noSide => ?_⟩
  · exact found fun steps => spanned.walk_of_atCorner sound exact pFinite steps nodes corner
  · exact found fun steps => spanned.walk_of_onSide sound exact pFinite steps sides side
  · have inside := spanned.place_mem_openTriangle sides nodes corners contains noCorner noSide
    exact found fun steps => spanned.walk_of_inside sound exact pFinite steps inside

/-- The middle of the diagonal of a kite is found from the right half.  The diagonal is the last
side that the walk looks at, so it takes three steps. -/
theorem locateWith_face_kite :
    let m := empty.run kite
    let right : FaceId := ⟨1, 0⟩
    let middle : Point := ⟨0, 0⟩
    m.faceOrientation .integral right = .ok .positive ∧ middle.place ∈ m.faceClosure right ∧
      m.OnSide middle right ⟨3, 0⟩ ∧
      m.locateWith .integral middle (some right) ⟨some 3⟩ = some (.ok (.onEdge ⟨3, 0⟩)) ∧
      m.locateWith .integral middle (some right) ⟨some 2⟩ =
        some (.error (.walkExhausted 2)) := by
  have finite : (empty.run kite).FinitePositions := by decide +kernel
  have positive : (empty.run kite).faceOrientation .integral ⟨1, 0⟩ = .ok .positive := by
    decide +kernel
  have contains : Point.place ⟨0, 0⟩ ∈ (empty.run kite).faceClosure ⟨1, 0⟩ := by decide +kernel
  have side : (empty.run kite).OnSide ⟨0, 0⟩ ⟨1, 0⟩ ⟨3, 0⟩ :=
    ⟨⟨Key.first ⟨1, 0⟩, Key.first ⟨2, 0⟩, Key.first ⟨3, 0⟩⟩, Key.first ⟨3, 0⟩, ⟨0, 1⟩, ⟨0, -1⟩,
      by decide +kernel, by decide +kernel, rfl, by decide +kernel, by decide +kernel⟩
  have found := (locateWith_face_of_operations kite ⟨some 3⟩ Kernel.integral_isExact
    (finite.corners _) positive (by decide +kernel) contains
    fun budget limited => (Option.some.inj limited).le).2.1 ⟨3, 0⟩ side
  exact ⟨positive, contains, side, found, by decide +kernel⟩

end Mesh

end PlanarMesh
