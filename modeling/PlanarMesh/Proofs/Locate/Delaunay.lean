import PlanarMesh.Proofs.Adjacency
import PlanarMesh.Proofs.Geometry.Circle
import PlanarMesh.Proofs.Locate.Tiling
import Mathlib.Data.Prod.Lex

/-!
# Walks on Delaunay meshes

A walk ends wherever the faces are counter-clockwise triangles and strictly Delaunay: behind every
side of a face, the far corner of the next face lies outside of the circle through the corners of
the face.  What decreases is the power of the point with respect to the circle of the present face.
It decreases whenever the walk crosses a side that has the point strictly to its right, and it stays
the same when the walk crosses a side on whose line the point lies.  The latter cannot happen twice
in a row, because the lines of two sides of a triangle meet in their common corner.  So
`WalkState.height` orders the states of a walk, and every step leads further down
(`Round.descends`).

It is not enough that no far corner lies inside of a circle, even on a convex mesh: on `spiral` the
far corners of some faces lie on the circles of their neighbours, and a walk goes round for ever
(`spiral_endless`).
-/

namespace PlanarMesh

namespace Mesh

/-- The points where a loop of three half-edges has its corners. -/
def cornersFrom (m : Mesh) (h : HalfedgeId) : Except MeshError (Corners Point) := do
  let second ← m.next h
  let third ← m.next second
  (Corners.mk h second third).mapM fun g => do m.position (← m.origin g)

/-- Behind every side of a face, the far corner of the next face lies as described relative to the
circle through the corners of the face. -/
def FarCorners (m : Mesh) (lies : Int → Prop) : Prop :=
  ∀ h c c', m.Faced h → m.Faced h.pair → m.cornersFrom h = .ok c → m.cornersFrom h.pair = .ok c' →
    lies (inCircle c.a c.b c.c c'.c)

/-- No far corner lies inside of a circle. -/
def Delaunay (m : Mesh) : Prop :=
  m.FarCorners fun side => side ≤ 0

/-- All far corners lie outside of the circles. -/
def StrictlyDelaunay (m : Mesh) : Prop :=
  m.FarCorners fun side => side < 0

variable {m : Mesh} {kernel : Kernel} {p : Point}

theorem Cornered.cornersFrom {f t ns c} (cornered : m.Cornered f t ns c) :
    m.cornersFrom t.a = .ok c := by
  simp [Mesh.cornersFrom, Corners.mapM, next_eq_orInvalid, origin_eq_orInvalid, orInvalid,
    cornered.triangle.next_a, cornered.triangle.next_b, cornered.chain.side₁.start,
    cornered.chain.side₂.start, cornered.chain.side₃.start, cornered.position_a,
    cornered.position_b, cornered.position_c, bind, Except.bind, pure, Except.pure]

/-! ## Heights -/

/-- How many sides a walk can look at before it next crosses a side that has the point strictly to
its right. -/
def sidesAhead (m : Mesh) (p : Point) (c : Corners Point) (s : WalkState) : Nat :=
  if s.current = s.roundStart then 5
  else (if determinant c.a c.b p = 0 then 0 else 2) +
    if m.next? s.roundStart = some s.current then 2 else 1

/-- The power of the point with respect to the circle of the present face, and among states with the
same power the number of sides ahead. -/
def height (m : Mesh) (p : Point) (s : WalkState) : ℚ ×ₗ ℕ :=
  match m.cornersFrom s.roundStart with
  | .ok c => toLex (power c.a c.b c.c p, m.sidesAhead p c s)
  | .error _ => toLex (0, 0)

section Height

variable {f : FaceId} {t : Corners HalfedgeId} {ns : Corners NodeId} {c : Corners Point}
  (cornered : m.Cornered f t ns c)

include cornered

theorem Cornered.height (h : HalfedgeId) :
    m.height p ⟨t.a, h⟩ = toLex (power c.a c.b c.c p, m.sidesAhead p c ⟨t.a, h⟩) := by
  simp only [Mesh.height, cornered.cornersFrom]

theorem Cornered.height_first : m.height p ⟨t.a, t.a⟩ = toLex (power c.a c.b c.c p, 5) := by
  rw [cornered.height, sidesAhead, if_pos rfl]

theorem Cornered.height_second (sound : m.Sound) : m.height p ⟨t.a, t.b⟩ =
    toLex (power c.a c.b c.c p, (if determinant c.a c.b p = 0 then 0 else 2) + 2) := by
  rw [cornered.height, sidesAhead, if_neg (cornered.triangle.b_ne_a sound),
    if_pos cornered.triangle.next_a]

theorem Cornered.height_third (sound : m.Sound) : m.height p ⟨t.a, t.c⟩ =
    toLex (power c.a c.b c.c p, (if determinant c.a c.b p = 0 then 0 else 2) + 1) := by
  have other : t.c ≠ t.a := (cornered.triangle.rotate.rotate.b_ne_a sound).symm
  have later : m.next? t.a ≠ some t.c := by
    rw [cornered.triangle.next_a]
    exact fun same => cornered.triangle.rotate.b_ne_a sound (Option.some.inj same).symm
  rw [cornered.height, sidesAhead, if_neg other, if_neg later]

/-- Going on along a face leads further down. -/
theorem Cornered.height_second_lt (sound : m.Sound) :
    m.height p ⟨t.a, t.b⟩ < m.height p ⟨t.a, t.a⟩ := by
  rw [cornered.height_first, cornered.height_second sound, Prod.Lex.toLex_lt_toLex]
  right
  constructor
  · rfl
  · dsimp only
    split <;> omega

theorem Cornered.height_third_lt (sound : m.Sound) :
    m.height p ⟨t.a, t.c⟩ < m.height p ⟨t.a, t.b⟩ := by
  rw [cornered.height_third sound, cornered.height_second sound, Prod.Lex.toLex_lt_toLex]
  exact .inr ⟨rfl, Nat.lt_succ_self _⟩

end Height

/-- A point on the line of one side of a triangle, but not on the side, is not on the lines of the
others. -/
theorem off_lines {a b c : Point} (positive : 0 < determinant a b c)
    (line : determinant a b p = 0) (outside : ¬ p.LiesOn a b) :
    determinant b c p ≠ 0 ∧ determinant c a p ≠ 0 := by
  constructor
  · intro line'
    exact outside (Point.liesOn_of_finish (place_eq_of_lines positive line line'))
  · intro line'
    rw [← determinant_rotate, ← determinant_rotate] at positive
    exact outside (Point.liesOn_of_start (place_eq_of_lines positive line' line))

/-! ## Descent -/

theorem Round.nextState (sound : m.Sound) (exact : kernel.IsExact) (finite : m.FiniteCorners)
    (pFinite : p.isFinite = true) {s s' : WalkState} (round : m.Round p s)
    (goes : m.nextState kernel p s = some s') : m.Round p s' := by
  rcases round.step sound exact finite pFinite with ⟨result, step, proceeds⟩
  cases step.symm.trans (nextState_eq_some_iff.1 goes)
  exact proceeds

theorem Round.live {s : WalkState} (round : m.Round p s) :
    m.containsHalfedge s.roundStart = true := by
  cases round with
  | first cornered | second cornered | third cornered => exact cornered.chain.side₁.live

section Descent

variable (wound : m.CounterClockwise kernel) (sound : m.Sound) (exact : kernel.IsExact)
  (delaunay : m.StrictlyDelaunay)

include wound sound exact delaunay

/-- Behind a side that the walk crosses, the power is less, or else the point is on the line of the
side and the power is the same. -/
theorem Cornered.power_of_crossing {f t ns c f' t' ns' c'} (cornered : m.Cornered f t ns c)
    (cornered' : m.Cornered f' t' ns' c') (twin : t'.a = t.a.pair) (passes : Passes p c'.a c'.b) :
    power c'.a c'.b c'.c p < power c.a c.b c.c p ∨
      power c'.a c'.b c'.c p = power c.a c.b c.c p ∧ determinant c.a c.b p = 0 ∧
        ¬ p.LiesOn c.a c.b := by
  have positive := wound.determinant_pos sound exact cornered
  have positive' := wound.determinant_pos sound exact cornered'
  have circle := delaunay t.a c c' cornered.faced_a (twin ▸ cornered'.faced_a) cornered.cornersFrom
    (twin ▸ cornered'.cornersFrom)
  rcases cornered.corners_of_pair cornered' twin with ⟨first, second⟩
  rw [first, second] at positive' passes ⊢
  rcases passes with right | ⟨line, outside⟩
  · rw [determinant_swap, neg_pos] at right
    exact .inl (power_lt_of_right positive positive' circle right)
  · rw [determinant_swap, neg_eq_zero] at line
    rw [Point.liesOn_comm] at outside
    exact .inr ⟨power_eq_of_line positive positive' line, line, outside⟩

/-- Crossing a side leads further down, if there are sides ahead in case the point is on its
line. -/
theorem Cornered.height_of_crossing {f t ns c f' t' ns' c'} (cornered : m.Cornered f t ns c)
    (cornered' : m.Cornered f' t' ns' c') (twin : t'.a = t.a.pair) (passes : Passes p c'.a c'.b)
    {s : WalkState} {ahead : Nat} (here : m.height p s = toLex (power c.a c.b c.c p, ahead))
    (enough : determinant c.a c.b p = 0 → ¬ p.LiesOn c.a c.b → 2 < ahead) :
    m.height p ⟨t'.a, t'.b⟩ < m.height p s := by
  rw [cornered'.height_second sound, here, Prod.Lex.toLex_lt_toLex]
  rcases cornered.power_of_crossing wound sound exact delaunay cornered' twin passes with
    less | ⟨same, line, outside⟩
  · exact .inl less
  · right
    rcases cornered.corners_of_pair cornered' twin with ⟨first, second⟩
    have line' : determinant c'.a c'.b p = 0 := by
      rw [first, second, determinant_swap, line, neg_zero]
    constructor
    · exact same
    · rw [if_pos line']
      exact enough line outside

/-- Every step of a walk leads further down. -/
theorem Round.descends (pFinite : p.isFinite = true) {s s' : WalkState} (round : m.Round p s)
    (goes : m.nextState kernel p s = some s') : m.height p s' < m.height p s := by
  rw [nextState_eq_some_iff] at goes
  cases round with
  | @first f t ns c cornered =>
    cases cornered.sideStep sound exact wound.finite pFinite t.a with
    | ends located step => cases goes.symm.trans step
    | crosses cornered' twin passes step =>
      cases goes.symm.trans step
      apply cornered.height_of_crossing wound sound exact delaunay cornered' twin passes
        cornered.height_first
      intro _ _
      decide
    | left side step =>
      rw [cornered.follow_advance, if_neg (cornered.triangle.b_ne_a sound)] at step
      cases goes.symm.trans step
      exact cornered.height_second_lt sound
  | @second f t ns c cornered passed =>
    have positive := wound.determinant_pos sound exact cornered.rotate
    cases cornered.rotate.sideStep sound exact wound.finite pFinite t.a with
    | ends located step => cases goes.symm.trans step
    | crosses cornered' twin passes step =>
      cases goes.symm.trans step
      have here := cornered.height_second (p := p) sound
      rw [← power_rotate] at here
      apply cornered.rotate.height_of_crossing wound sound exact delaunay cornered' twin passes here
      intro line outside
      have off : determinant c.a c.b p ≠ 0 := (off_lines positive line outside).2
      rw [if_neg off]
      decide
    | left side step =>
      have other : t.rotate.b ≠ t.a := (cornered.triangle.rotate.rotate.b_ne_a sound).symm
      rw [cornered.rotate.follow_advance, if_neg other] at step
      cases goes.symm.trans step
      exact cornered.height_third_lt sound
  | @third f t ns c cornered passed side =>
    have positive := wound.determinant_pos sound exact cornered.rotate.rotate
    cases cornered.rotate.rotate.sideStep sound exact wound.finite pFinite t.a with
    | ends located step => cases goes.symm.trans step
    | crosses cornered' twin passes step =>
      cases goes.symm.trans step
      have here := cornered.height_third (p := p) sound
      rw [← power_rotate, ← power_rotate] at here
      apply cornered.rotate.rotate.height_of_crossing wound sound exact delaunay cornered' twin
        passes here
      intro line outside
      have off : determinant c.a c.b p ≠ 0 := (off_lines positive line outside).1
      rw [if_neg off]
      decide
    | left side' step =>
      have closed : t.rotate.rotate.b = t.a := rfl
      rw [cornered.rotate.rotate.follow_advance, if_pos closed] at step
      cases goes.symm.trans step

/-- As long as a walk goes on, it remains in some round and ever further down. -/
theorem Round.descends_stateAfter (pFinite : p.isFinite = true) {steps : Nat} {s s' : WalkState}
    (round : m.Round p s) (reaches : m.stateAfter kernel p steps s = some s') :
    m.Round p s' ∧ (0 < steps → m.height p s' < m.height p s) := by
  induction steps generalizing s with
  | zero =>
    cases reaches
    exact ⟨round, fun more => absurd more (Nat.lt_irrefl 0)⟩
  | succ steps inductionHypothesis =>
    rcases Option.bind_eq_some_iff.1 reaches with ⟨t, goes, rest⟩
    have down := round.descends wound sound exact delaunay pFinite goes
    rcases inductionHypothesis (round.nextState sound exact wound.finite pFinite goes) rest with
      ⟨round', further⟩
    refine ⟨round', fun _ => ?_⟩
    rcases Nat.eq_zero_or_pos steps with rfl | more
    · cases rest
      exact down
    · exact (further more).trans down

theorem Round.exists_answer (pFinite : p.isFinite = true) {s : WalkState} (round : m.Round p s) :
    ∃ answer, m.walk kernel p m.sufficientSteps s = some answer := by
  cases ends : m.walk kernel p m.sufficientSteps s with
  | some answer => exact ⟨answer, rfl⟩
  | none =>
    exfalso
    rcases exists_repeats round.live (walk_eq_none_iff.1 ends) with ⟨i, j, t, less, first, again⟩
    rcases Nat.exists_eq_add_of_lt less with ⟨rest, rfl⟩
    rw [Nat.add_assoc, stateAfter_add, first] at again
    rcases round.descends_stateAfter wound sound exact delaunay pFinite first with ⟨round', -⟩
    rcases round'.descends_stateAfter wound sound exact delaunay pFinite again with ⟨-, down⟩
    exact lt_irrefl _ (down (Nat.succ_pos rest))

theorem Sound.locateWithin_of_delaunay (pFinite : p.isFinite = true) {f : FaceId}
    (live : m.containsFace f = true) : ∃ location,
      m.locateWithin kernel p (some f) m.sufficientSteps = .ok location ∧ m.Locates p location := by
  rcases sound.walkStart_of_face p live with ⟨s, started, round⟩
  rcases round.exists_answer wound sound exact delaunay pFinite with ⟨answer, ends⟩
  rcases round.walk sound exact wound.finite pFinite ends with ⟨location, rfl, located⟩
  refine ⟨location, ?_, located⟩
  simp only [locateWithin, started, bind, Except.bind, ends, Option.getD_some]

end Descent

/-- Whatever operations were run: where they have led to counter-clockwise faces that are strictly
Delaunay, a budget of as many steps as there are pairs of half-edges suffices to locate the point,
from wherever the walk starts. -/
theorem locateWithin_of_delaunay_operations (operations : List Operation) {kernel : Kernel}
    {p : Point} {f : FaceId} (exact : kernel.IsExact)
    (wound : (empty.run operations).CounterClockwise kernel)
    (delaunay : (empty.run operations).StrictlyDelaunay) (pFinite : p.isFinite = true)
    (live : (empty.run operations).containsFace f = true) :
    let m := empty.run operations
    ∃ location, m.locateWithin kernel p (some f) m.sufficientSteps = .ok location ∧
      m.Locates p location :=
  (sound_empty.run operations).locateWithin_of_delaunay wound exact delaunay pFinite live

theorem farCorners_iff {lies : Int → Prop} : m.FarCorners lies ↔
    ∀ h ∈ m.halfedgeIds, m.Faced h → m.Faced h.pair → ∀ c ∈ (m.cornersFrom h).toOption,
      ∀ c' ∈ (m.cornersFrom h.pair).toOption, lies (inCircle c.a c.b c.c c'.c) := by
  constructor
  · intro far h _ faced faced' c found c' found'
    exact far h c c' faced faced' (toOption_eq_some_iff.1 found) (toOption_eq_some_iff.1 found')
  · intro checked h c c' faced faced' found found'
    rcases faced with ⟨f, reported⟩
    have live := containsHalfedge_iff_faceOf?.2 ⟨_, reported⟩
    exact checked h (mem_halfedgeIds.2 live) ⟨f, reported⟩ faced' c (toOption_eq_some_iff.2 found)
      c' (toOption_eq_some_iff.2 found')

instance {lies : Int → Prop} [DecidablePred lies] : Decidable (m.FarCorners lies) :=
  decidable_of_iff _ farCorners_iff.symm

instance : Decidable m.Delaunay :=
  inferInstanceAs (Decidable (m.FarCorners fun side => side ≤ 0))

instance : Decidable m.StrictlyDelaunay :=
  inferInstanceAs (Decidable (m.FarCorners fun side => side < 0))

/-- The far corners of a kite with a short diagonal lie outside of the circles through the corners
of the halves. -/
theorem locateWithin_kite :
    let m := empty.run kite
    let p : Point := ⟨7, 2⟩
    let left : FaceId := ⟨2, 0⟩
    m.CounterClockwise .integral ∧ m.StrictlyDelaunay ∧ m.containsFace left = true ∧
      ∃ location, m.locateWithin .integral p (some left) m.sufficientSteps = .ok location ∧
        m.Locates p location := by
  have separated : (empty.run kite).Separated := by decide +kernel
  have tiled : (empty.run kite).Tiled .integral :=
    separated.tiled (by decide +kernel) (by decide +kernel)
  have delaunay : (empty.run kite).StrictlyDelaunay := by decide +kernel
  have live : (empty.run kite).containsFace ⟨2, 0⟩ = true := by decide +kernel
  exact ⟨tiled.toCounterClockwise, delaunay, live, locateWithin_of_delaunay_operations kite
    Kernel.integral_isExact tiled.toCounterClockwise delaunay (by decide +kernel) live⟩

/-! ## A walk that never ends -/

/-- Every face can be reached from every other one across edges. -/
def EdgeConnected (m : Mesh) : Prop :=
  ∀ f g, m.containsFace f = true → m.containsFace g = true → Relation.ReflTransGen m.Adjacent f g

/-- A chain of faces across edges connects the mesh if no face is missing. -/
theorem edgeConnected_of_isChain {l : List FaceId} (chain : l.IsChain m.Adjacent)
    (complete : ∀ f ∈ m.faceIds, f ∈ l) : m.EdgeConnected := by
  intro f g live live'
  have reaches : l.Pairwise (Relation.ReflTransGen m.Adjacent) :=
    List.isChain_iff_pairwise.1 (chain.imp fun _ _ => Relation.ReflTransGen.single)
  by_cases same : f = g
  · rw [same]
  · exact reaches.forall (complete f (mem_faceIds.2 live)) (complete g (mem_faceIds.2 live')) same

/-- A triangle in the middle of a larger one, with the ring between them cut into six triangles. -/
def spiral : List Operation :=
  [.build ⟨[⟨2, 0⟩, ⟨-1, 2⟩, ⟨-1, -2⟩, ⟨5, 0⟩, ⟨-2, 4⟩, ⟨-2, -4⟩],
    [⟨0, 1, 2⟩, ⟨0, 3, 4⟩, ⟨0, 4, 1⟩, ⟨1, 4, 5⟩, ⟨1, 5, 2⟩, ⟨2, 5, 3⟩, ⟨2, 3, 0⟩]⟩]

theorem spiral_checks :
    let m := empty.run spiral
    let ring : List FaceId := [⟨1, 0⟩, ⟨3, 0⟩, ⟨4, 0⟩, ⟨5, 0⟩, ⟨6, 0⟩, ⟨7, 0⟩, ⟨2, 0⟩]
    m.FinitePositions ∧ m.Separated ∧
      (∀ f ∈ m.faceIds, m.faceOrientation .integral f = .ok .positive) ∧ m.Delaunay ∧
      m.BoundaryConvex ∧ ring.IsChain m.Adjacent ∧ (∀ f ∈ m.faceIds, f ∈ ring) ∧
      m.containsFace ⟨3, 0⟩ = true ∧ m.locate .integral ⟨0, 0⟩ (some ⟨3, 0⟩) = none := by
  decide +kernel

/-- The spiral is a convex tiling, and even Delaunay, but a walk that looks for the middle of it
from outside of the triangle there crosses the ring round and round, whatever its budget is. -/
theorem spiral_endless :
    let m := empty.run spiral
    let p : Point := ⟨0, 0⟩
    let start : FaceId := ⟨3, 0⟩
    m.FinitePositions ∧ m.Tiled .integral ∧ m.EdgeConnected ∧ m.BoundaryConvex ∧ m.Delaunay ∧
      p.isFinite = true ∧ m.containsFace start = true ∧
      m.locateWith .integral p (some start) {} = none ∧
      ∀ budget, m.locateWith .integral p (some start) { maxSteps := some budget } =
        some (.error (.walkExhausted budget)) := by
  rcases spiral_checks with
    ⟨finite, separated, positive, delaunay, convex, chain, complete, live, endless⟩
  refine ⟨finite, separated.tiled finite positive, edgeConnected_of_isChain chain complete, convex,
    delaunay, by decide +kernel, live, endless, fun budget => ?_⟩
  rw [← locate_eq_none_iff.1 endless budget]
  rfl

end Mesh

end PlanarMesh
