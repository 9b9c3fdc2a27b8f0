import PlanarMesh.Locate
import PlanarMesh.Proofs.Locate.Corners

/-!
# Rounds of a walk

A walk that looks for a point goes round the sides of one face after another.  What it learns at a
side is a `Verdict`: the point is to the left, to the right, on the line but beyond the ends, on
the side or at one of its ends.  The round goes on as long as the point is to the left.

A round that began with a crossing has not looked at its first side, but at the twin of that side,
and there the point was not to the left.  Hence of the first side one knows that the point is to the
left of it or on its line beyond the ends (`Passes`), and that is what a `Round` remembers.  It is
enough: a point cannot be on the line of one side, beyond its ends, and to the left of both other
sides (`Passes.left_of_left`).

Every step of a walk ends it with a location that is right (`Locates`) or leads to another round
(`Round.step`); no step fails.
-/

namespace PlanarMesh

/-! ## Verdicts -/

/-- What a walk does at a half-edge of the edge `e` from the node `n` at `a` to the node `n'` at
`b`, and what that says about the point `p`. -/
inductive Verdict (p : Point) (e : EdgeId) (n n' : NodeId) (a b : Point) : Transition → Prop
  | left : 0 < determinant a b p → Verdict p e n n' a b .advance
  | right : determinant a b p < 0 → Verdict p e n n' a b .cross
  | beyond : determinant a b p = 0 → ¬ p.LiesOn a b → Verdict p e n n' a b .collinearOutside
  | within : p.LiesBetween a b → Verdict p e n n' a b (.found (.onEdge e))
  | start : p.place = a.place → Verdict p e n n' a b (.found (.onNode n))
  | finish : p.place = b.place → Verdict p e n n' a b (.found (.onNode n'))

theorem strictlyBetween_iff {u v w : Float} (uFinite : u.isFinite = true)
    (vFinite : v.isFinite = true) (wFinite : w.isFinite = true) :
    strictlyBetween u v w = true ↔
      (unitsOf w : ℝ) ∈
        Set.Ioo (min (unitsOf u : ℝ) (unitsOf v)) (max (unitsOf u) (unitsOf v)) := by
  rcases lesser_of_isFinite uFinite vFinite with ⟨lesserFinite, lesserUnits⟩
  rcases greater_of_isFinite uFinite vFinite with ⟨greaterFinite, greaterUnits⟩
  rw [strictlyBetween, Bool.and_eq_true, decide_eq_true_eq, decide_eq_true_eq,
    lt_iff_unitsOf lesserFinite wFinite, lt_iff_unitsOf wFinite greaterFinite, lesserUnits,
    greaterUnits, Set.mem_Ioo, ← Int.cast_min, ← Int.cast_max, Int.cast_lt, Int.cast_lt]

namespace Mesh

variable {m : Mesh} {kernel : Kernel} {p : Point} {a b : Point} {n n' : NodeId}

theorem verdict_collinear (e : EdgeId) (aFinite : a.isFinite = true) (bFinite : b.isFinite = true)
    (pFinite : p.isFinite = true) (line : determinant a b p = 0) :
    Verdict p e n n' a b (collinearTransition e n n' a b p) := by
  have collinear : turn a.place b.place p.place = 0 := by rw [turn_place, line, Int.cast_zero]
  have between_iff : (strictlyBetween a.x b.x p.x || strictlyBetween a.y b.y p.y) = true ↔
      Between a.place b.place p.place := by
    rw [Point.isFinite, Bool.and_eq_true] at aFinite bFinite pFinite
    rw [Bool.or_eq_true, strictlyBetween_iff aFinite.1 bFinite.1 pFinite.1,
      strictlyBetween_iff aFinite.2 bFinite.2 pFinite.2]
    rfl
  unfold collinearTransition
  split
  · next between =>
    have between' := between_iff.1 between
    exact .within ⟨between'.ne, mem_openSegment_of_between collinear between'⟩
  · next outside =>
    split
    · next same => exact .start ((coincides_iff_place pFinite aFinite).1 same)
    · next other =>
      split
      · next same => exact .finish ((coincides_iff_place pFinite bFinite).1 same)
      · next other' =>
        apply Verdict.beyond line
        exact notMem_segment_of_not_between (mt between_iff.2 outside)
          (mt (coincides_iff_place pFinite aFinite).2 other)
          (mt (coincides_iff_place pFinite bFinite).2 other')

/-- An exact kernel judges every half-edge between nodes at finite places. -/
theorem exists_verdict {h : HalfedgeId} (exact : kernel.IsExact) (leads : m.Leads h n n')
    (start : m.position n = .ok a) (finish : m.position n' = .ok b) (aFinite : a.isFinite = true)
    (bFinite : b.isFinite = true) (pFinite : p.isFinite = true) :
    ∃ transition, m.transition kernel p h = .ok transition ∧
      Verdict p h.edge n n' a b transition := by
  simp only [transition, target, origin_eq_orInvalid, leads.start, leads.finish, start, finish,
    orInvalid, bind, Except.bind, exact a b p aFinite bFinite pFinite, OrientedSide.ofSign]
  rcases lt_trichotomy (determinant a b p) 0 with right | line | left
  · rw [if_neg right.not_gt, if_pos right]
    exact ⟨.cross, rfl, .right right⟩
  · rw [if_neg line.not_gt, if_neg line.not_lt]
    exact ⟨_, rfl, verdict_collinear h.edge aFinite bFinite pFinite line⟩
  · rw [if_pos left]
    exact ⟨.advance, rfl, .left left⟩

end Mesh

/-! ## Passing sides -/

/-- The point is to the left of the line from `a` to `b`, or on it beyond both ends. -/
def Passes (p a b : Point) : Prop :=
  0 < determinant a b p ∨ determinant a b p = 0 ∧ ¬ p.LiesOn a b

/-- What keeps a walk on one side of an edge lets it pass on the other side. -/
theorem Passes.of_right {p a b : Point} (right : determinant a b p < 0) : Passes p b a := by
  left
  rw [determinant_swap]
  exact neg_pos.2 right

theorem Passes.of_beyond {p a b : Point} (line : determinant a b p = 0)
    (outside : ¬ p.LiesOn a b) : Passes p b a := by
  right
  rw [determinant_swap, line, Point.liesOn_comm]
  exact ⟨neg_zero, outside⟩

theorem Passes.not_left {p a b : Point} (passes : Passes p b a) :
    determinant a b p ≤ 0 ∧ ¬ p.LiesOn a b := by
  rw [Passes, determinant_swap, Point.liesOn_comm] at passes
  rcases passes with right | ⟨line, outside⟩
  · have side : determinant a b p < 0 := neg_pos.1 right
    exact ⟨side.le, fun on => side.ne on.determinant_eq_zero⟩
  · exact ⟨(neg_eq_zero.1 line).le, outside⟩

/-- A point that passes one side of a triangle and is to the left of the others is to the left of
that side as well. -/
theorem Passes.left_of_left {p a b c : Point} (passes : Passes p a b)
    (left : 0 < determinant b c p) (left' : 0 < determinant c a p) : 0 < determinant a b p := by
  rcases passes with side | ⟨line, outside⟩
  · exact side
  · have between : p.place ∈ openSegment ℝ a.place b.place := by
      apply mem_openSegment_of_turn (c := c.place)
      · rw [turn_place, line, Int.cast_zero]
      · rw [turn_place]
        exact Int.cast_pos.2 left
      · rw [turn_place]
        exact Int.cast_pos.2 left'
    exact absurd (openSegment_subset_segment ℝ _ _ between) outside

namespace Mesh

variable {m : Mesh} {kernel : Kernel} {p : Point}

/-! ## Locations -/

/-- The point is strictly to the left of the half-edge. -/
def StrictlyLeft (m : Mesh) (p : Point) (h : HalfedgeId) : Prop :=
  ∃ a b, m.segment h = .ok (a, b) ∧ 0 < determinant a b p

/-- The location is right: the point is strictly to the left of all sides of the face, strictly
between the ends of the edge, or where the node is; or it is outside of a half-edge on the boundary,
neither to its left nor on it.  Edges and nodes that are found belong to a face. -/
def Locates (m : Mesh) (p : Point) : PointLocation → Prop
  | .inFace f => ∃ t, m.faceHalfedges f = .ok t ∧ ∀ h ∈ t.toList, m.StrictlyLeft p h
  | .onEdge e => ∃ h a b, h.edge = e ∧ m.Faced h ∧ m.segment h = .ok (a, b) ∧ p.LiesBetween a b
  | .onNode n => ∃ h a, m.origin? h = some n ∧ m.Faced h ∧ m.position n = .ok a ∧
      p.place = a.place
  | .outsideMesh e => ∃ h a b, h.edge = e ∧ m.Faced h ∧ m.Free h.pair ∧
      m.segment h = .ok (a, b) ∧ determinant a b p ≤ 0 ∧ ¬ p.LiesOn a b

/-! ## Rounds -/

/-- Where a walk is in the round of a face, and what it knows about the sides behind it. -/
inductive Round (m : Mesh) (p : Point) : WalkState → Prop
  | first {f t ns c} : m.Cornered f t ns c → Round m p ⟨t.a, t.a⟩
  | second {f t ns c} : m.Cornered f t ns c → Passes p c.a c.b → Round m p ⟨t.a, t.b⟩
  | third {f t ns c} : m.Cornered f t ns c → Passes p c.a c.b → 0 < determinant c.b c.c p →
      Round m p ⟨t.a, t.c⟩

/-! ## Steps -/

/-- What stops a walk at the first side of a face is a right location. -/
theorem Cornered.locates {f t ns c location} (cornered : m.Cornered f t ns c)
    (verdict : Verdict p t.a.edge ns.a ns.b c.a c.b (.found location)) : m.Locates p location := by
  cases verdict with
  | within between => exact ⟨t.a, c.a, c.b, rfl, cornered.faced_a, cornered.segment_a, between⟩
  | start same =>
    exact ⟨t.a, c.a, cornered.chain.side₁.start, cornered.faced_a, cornered.position_a, same⟩
  | finish same =>
    exact ⟨t.b, c.b, cornered.chain.side₂.start, cornered.rotate.faced_a, cornered.position_b, same⟩

/-- Two faces that share an edge have its ends as corners, in opposite order. -/
theorem Cornered.corners_of_pair {f t ns c f' t' ns' c'} (cornered : m.Cornered f t ns c)
    (cornered' : m.Cornered f' t' ns' c') (twin : t'.a = t.a.pair) : c'.a = c.b ∧ c'.b = c.a := by
  have leads := cornered.chain.side₁.pair
  rw [← twin] at leads
  have start := leads.eq_start cornered'.chain.side₁.start
  have finish := leads.eq_finish cornered'.chain.side₁.finish
  have first := cornered'.position_a.symm.trans (start ▸ cornered.position_b)
  have second := cornered'.position_b.symm.trans (finish ▸ cornered.position_a)
  exact ⟨Except.ok.inj first, Except.ok.inj second⟩

/-- Behind a side of a face is the boundary, where the walk stops, or another face. -/
theorem Sound.follow_crossing (sound : m.Sound) {f t ns c transition} (r : HalfedgeId)
    (cornered : m.Cornered f t ns c)
    (crosses : transition = .cross ∨ transition = .collinearOutside) :
    (m.Free t.a.pair ∧ m.follow ⟨r, t.a⟩ transition = .ok (.inl (.outsideMesh t.a.edge))) ∨
      ∃ f' t' ns' c', m.Cornered f' t' ns' c' ∧ t'.a = t.a.pair ∧
        m.follow ⟨r, t.a⟩ transition = .ok (.inr ⟨t'.a, t'.b⟩) := by
  have live : m.containsHalfedge t.a.pair = true := by
    rw [containsHalfedge_pair]
    exact cornered.chain.side₁.live
  rcases containsHalfedge_iff_faceOf?.1 live with ⟨face, reported⟩
  cases face with
  | none =>
    left
    refine ⟨reported, ?_⟩
    rcases crosses with rfl | rfl <;>
      simp [follow, isBoundary_eq_orInvalid, reported, orInvalid, bind, Except.bind, pure,
        Except.pure]
  | some f' =>
    right
    rcases sound.exists_cornered reported with ⟨t', ns', c', twin, cornered'⟩
    refine ⟨f', t', ns', c', cornered', twin, ?_⟩
    have next := cornered'.triangle.next_a
    rw [twin] at next
    rcases crosses with rfl | rfl <;>
      simp [follow, isBoundary_eq_orInvalid, next_eq_orInvalid, reported, next, twin, orInvalid,
        bind, Except.bind, pure, Except.pure]

/-- What a walk does at the first side of a face, in a round that began at `r`: the point is to the
left and the round goes on; or the walk has ended with a right location; or it begins a round behind
the side, where the point passes. -/
inductive SideStep (m : Mesh) (kernel : Kernel) (p : Point) (r : HalfedgeId)
    (t : Corners HalfedgeId) (c : Corners Point) : Prop
  | left (side : 0 < determinant c.a c.b p)
      (step : m.walkStep kernel p ⟨r, t.a⟩ = m.follow ⟨r, t.a⟩ .advance)
  | ends {location} (locates : m.Locates p location)
      (step : m.walkStep kernel p ⟨r, t.a⟩ = .ok (.inl location))
  | crosses {f' t' ns' c'} (cornered : m.Cornered f' t' ns' c') (twin : t'.a = t.a.pair)
      (passes : Passes p c'.a c'.b)
      (step : m.walkStep kernel p ⟨r, t.a⟩ = .ok (.inr ⟨t'.a, t'.b⟩))

/-- A step from the first side of a face follows the verdict there. -/
theorem Cornered.exists_verdict {f t ns c} (cornered : m.Cornered f t ns c)
    (exact : kernel.IsExact) (aFinite : c.a.isFinite = true) (bFinite : c.b.isFinite = true)
    (pFinite : p.isFinite = true) (r : HalfedgeId) :
    ∃ transition, m.walkStep kernel p ⟨r, t.a⟩ = m.follow ⟨r, t.a⟩ transition ∧
      Verdict p t.a.edge ns.a ns.b c.a c.b transition := by
  rcases Mesh.exists_verdict exact cornered.chain.side₁ cornered.position_a cornered.position_b
    aFinite bFinite pFinite with ⟨transition, judged, verdict⟩
  refine ⟨transition, ?_, verdict⟩
  simp [walkStep, judged, bind, Except.bind]

section Step

variable (sound : m.Sound) (exact : kernel.IsExact) (finite : m.FiniteCorners)
  (pFinite : p.isFinite = true)

include sound exact finite pFinite

theorem Cornered.sideStep {f t ns c} (cornered : m.Cornered f t ns c) (r : HalfedgeId) :
    m.SideStep kernel p r t c := by
  rcases cornered.exists_verdict exact (cornered.finite_a sound finite)
    (cornered.finite_b sound finite) pFinite r with ⟨transition, stepped, verdict⟩
  have crossed : Passes p c.b c.a → (transition = .cross ∨ transition = .collinearOutside) →
      m.SideStep kernel p r t c := by
    intro passes crosses
    rcases sound.follow_crossing r cornered crosses with
      ⟨free, follows⟩ | ⟨f', t', ns', c', cornered', twin, follows⟩
    · rcases passes.not_left with ⟨notLeft, outside⟩
      have located : m.Locates p (.outsideMesh t.a.edge) :=
        ⟨t.a, c.a, c.b, rfl, cornered.faced_a, free, cornered.segment_a, notLeft, outside⟩
      exact .ends located (stepped.trans follows)
    · rcases cornered.corners_of_pair cornered' twin with ⟨first, second⟩
      exact .crosses cornered' twin (by rwa [first, second]) (stepped.trans follows)
  cases verdict with
  | left side => exact .left side stepped
  | right side => exact crossed (.of_right side) (.inl rfl)
  | beyond line outside => exact crossed (.of_beyond line outside) (.inr rfl)
  | within between => exact .ends (cornered.locates (.within between)) stepped
  | start same => exact .ends (cornered.locates (.start same)) stepped
  | finish same => exact .ends (cornered.locates (.finish same)) stepped

end Step

/-- Along a face, to the left of its first side, comes the second side or the end of the round. -/
theorem Cornered.follow_advance {f t ns c} (cornered : m.Cornered f t ns c) (r : HalfedgeId) :
    m.follow ⟨r, t.a⟩ .advance = .ok (if t.b = r then .inl (.inFace f) else .inr ⟨r, t.b⟩) := by
  have next := cornered.triangle.next_a
  have faced := cornered.triangle.faceOf?_b
  simp only [follow, next_eq_orInvalid, next, orInvalid, bind, Except.bind]
  split
  · simp [faceOf_eq_orInvalid, faced, orInvalid, pure, Except.pure]
  · rfl

/-- A point that is to the left of all sides of a face is found in it. -/
theorem Cornered.locates_inFace (sound : m.Sound) {f t ns c} (cornered : m.Cornered f t ns c)
    (first : 0 < determinant c.a c.b p) (second : 0 < determinant c.b c.c p)
    (third : 0 < determinant c.c c.a p) : m.Locates p (.inFace f) := by
  have live := sound.face_live t.a f cornered.triangle.faceOf?_a
  rcases sound.exists_facePositions live with ⟨t', _, _, sides, _, cornered'⟩
  refine ⟨t', sides, fun h mem => ?_⟩
  rw [← cornered'.triangle.reports_iff, cornered.triangle.reports_iff, Corners.mem_toList] at mem
  rcases mem with rfl | rfl | rfl
  · exact ⟨c.a, c.b, cornered.segment_a, first⟩
  · exact ⟨c.b, c.c, cornered.segment_b, second⟩
  · exact ⟨c.c, c.a, cornered.segment_c, third⟩

/-- The walk has ended with a right location or goes on in a round. -/
def Proceeds (m : Mesh) (p : Point) : PointLocation ⊕ WalkState → Prop
  | .inl location => m.Locates p location
  | .inr s => m.Round p s

section Step

variable (sound : m.Sound) (exact : kernel.IsExact) (finite : m.FiniteCorners)
  (pFinite : p.isFinite = true)

include sound exact finite pFinite

/-- No step fails, and what a walk knows about the sides behind it stays true. -/
theorem Round.step {s : WalkState} (round : m.Round p s) :
    ∃ result, m.walkStep kernel p s = .ok result ∧ m.Proceeds p result := by
  cases round with
  | @first f t ns c cornered =>
    cases cornered.sideStep sound exact finite pFinite t.a with
    | ends located step => exact ⟨_, step, located⟩
    | crosses cornered' twin passes step => exact ⟨_, step, .second cornered' passes⟩
    | left side step =>
      rw [cornered.follow_advance, if_neg (cornered.triangle.b_ne_a sound)] at step
      exact ⟨_, step, .second cornered (.inl side)⟩
  | @second f t ns c cornered passes =>
    cases cornered.rotate.sideStep sound exact finite pFinite t.a with
    | ends located step => exact ⟨_, step, located⟩
    | crosses cornered' twin passes step => exact ⟨_, step, .second cornered' passes⟩
    | left side step =>
      have other : t.rotate.b ≠ t.a :=
        (cornered.triangle.rotate.rotate.b_ne_a sound).symm
      rw [cornered.rotate.follow_advance, if_neg other] at step
      exact ⟨_, step, .third cornered passes side⟩
  | @third f t ns c cornered passes side =>
    cases cornered.rotate.rotate.sideStep sound exact finite pFinite t.a with
    | ends located step => exact ⟨_, step, located⟩
    | crosses cornered' twin passes step => exact ⟨_, step, .second cornered' passes⟩
    | left side' step =>
      have closed : t.rotate.rotate.b = t.a := rfl
      rw [cornered.rotate.rotate.follow_advance, if_pos closed] at step
      exact ⟨_, step, cornered.locates_inFace sound (passes.left_of_left side side') side side'⟩

/-- A walk that ends, ends with a right location. -/
theorem Round.walk {s : WalkState} (round : m.Round p s) {steps : Nat}
    {answer : Except MeshError PointLocation} (ends : m.walk kernel p steps s = some answer) :
    ∃ location, answer = .ok location ∧ m.Locates p location := by
  induction steps generalizing s with
  | zero => cases ends
  | succ steps inductionHypothesis =>
    rcases round.step sound exact finite pFinite with ⟨result, step, proceeds⟩
    rw [Mesh.walk, step] at ends
    cases result with
    | inl location => exact ⟨location, (Option.some.inj ends).symm, proceeds⟩
    | inr t => exact inductionHypothesis proceeds ends

end Step

end Mesh

end PlanarMesh
