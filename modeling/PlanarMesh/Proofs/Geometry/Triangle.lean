import PlanarMesh.Proofs.Geometry.Plane
import Mathlib.Order.CompletePartialOrder
import Mathlib.Topology.Algebra.Ring.Real
import Mathlib.Topology.Algebra.Module.LocallyConvex
import Mathlib.Tactic.FunProp

/-!
# Triangles in the plane

The places strictly to the left of all three sides of a triangle make up the open triangle.  When
the corners run counter-clockwise, every place on or to the left of all sides is arbitrarily close
to the open triangle (`mem_closure_openTriangle`), so that a triangle that reaches into an open
triangle shares places of its own interior with it (`exists_mem_openTriangle`).

A line that has all corners of a triangle on it or to its left has the open triangle strictly to its
left (`turn_pos_of_mem_openTriangle`).
-/

namespace PlanarMesh

/-- The places strictly to the left of the three sides. -/
def openTriangle (a b c : ℝ × ℝ) : Set (ℝ × ℝ) :=
  {q | 0 < turn a b q ∧ 0 < turn b c q ∧ 0 < turn c a q}

/-- The places on or to the left of the three sides. -/
def closedTriangle (a b c : ℝ × ℝ) : Set (ℝ × ℝ) :=
  {q | 0 ≤ turn a b q ∧ 0 ≤ turn b c q ∧ 0 ≤ turn c a q}

variable {a b c a' b' c' q r u v : ℝ × ℝ}

theorem openTriangle_rotate : openTriangle b c a = openTriangle a b c := by
  ext q
  exact and_rotate.symm

/-- A side of a counter-clockwise triangle belongs to the closed triangle. -/
theorem segment_subset_closedTriangle (positive : 0 < turn a b c) :
    segment ℝ a b ⊆ closedTriangle a b c := by
  rintro _ ⟨s, t, sNonneg, tNonneg, total, rfl⟩
  have first : s = 1 - t := by linarith
  subst first
  refine ⟨?_, ?_, ?_⟩ <;> rw [turn_combination]
  · simp
  · rw [turn_rotate, turn_left_self, mul_zero, add_zero]
    exact mul_nonneg sNonneg positive.le
  · rw [turn_right_self, mul_zero, zero_add, ← turn_rotate c a b]
    exact mul_nonneg tNonneg positive.le

/-- A triangle with inner places runs counter-clockwise. -/
theorem turn_pos_of_mem (mem : q ∈ openTriangle a b c) : 0 < turn a b c := by
  rw [← turn_add_turn_add_turn a b c q]
  exact add_pos (add_pos mem.1 mem.2.1) mem.2.2

/-- A place of a closed triangle that is on no side and at no corner is inside. -/
theorem mem_openTriangle_of_closedTriangle (positive : 0 < turn a b c)
    (mem : q ∈ closedTriangle a b c) (first : q ∉ segment ℝ a b) (second : q ∉ segment ℝ b c)
    (third : q ∉ segment ℝ c a) : q ∈ openTriangle a b c := by
  rcases mem with ⟨ab, bc, ca⟩
  have positive' : 0 < turn b c a := by rwa [turn_rotate]
  have positive'' : 0 < turn c a b := by rwa [turn_rotate]
  refine ⟨ab.lt_of_ne fun line => ?_, bc.lt_of_ne fun line => ?_, ca.lt_of_ne fun line => ?_⟩
  · exact first (mem_segment_of_turn positive line.symm bc ca)
  · exact second (mem_segment_of_turn positive' line.symm ca ab)
  · exact third (mem_segment_of_turn positive'' line.symm ab bc)

/-! ## Reaching into a triangle -/

theorem isOpen_openTriangle (a b c : ℝ × ℝ) : IsOpen (openTriangle a b c) := by
  have continuous (u v : ℝ × ℝ) : Continuous (turn u v) := by
    unfold turn
    fun_prop
  exact (isOpen_lt continuous_const (continuous a b)).inter
    ((isOpen_lt continuous_const (continuous b c)).inter
      (isOpen_lt continuous_const (continuous c a)))

theorem turn_centroid : turn a b ((3 : ℝ)⁻¹ • (a + b + c)) = 3⁻¹ * turn a b c := by
  simp only [turn, Prod.smul_fst, Prod.smul_snd, Prod.fst_add, Prod.snd_add, smul_eq_mul]
  ring

/-- The centroid of a counter-clockwise triangle is an inner place. -/
theorem centroid_mem (positive : 0 < turn a b c) :
    (3 : ℝ)⁻¹ • (a + b + c) ∈ openTriangle a b c := by
  refine ⟨?_, ?_, ?_⟩
  · rw [turn_centroid]
    positivity
  · rw [add_rotate a b c, turn_centroid, turn_rotate]
    positivity
  · rw [← add_rotate c a b, turn_centroid, ← turn_rotate c a b]
    positivity

theorem openSegment_subset_openTriangle (inner : r ∈ openTriangle a b c)
    (mem : q ∈ closedTriangle a b c) : openSegment ℝ r q ⊆ openTriangle a b c := by
  rintro _ ⟨s, t, sPos, tPos, total, rfl⟩
  have first : s = 1 - t := by linarith
  subst first
  refine ⟨?_, ?_, ?_⟩ <;> rw [turn_combination]
  · exact add_pos_of_pos_of_nonneg (mul_pos sPos inner.1) (mul_nonneg tPos.le mem.1)
  · exact add_pos_of_pos_of_nonneg (mul_pos sPos inner.2.1) (mul_nonneg tPos.le mem.2.1)
  · exact add_pos_of_pos_of_nonneg (mul_pos sPos inner.2.2) (mul_nonneg tPos.le mem.2.2)

theorem mem_closure_openTriangle (positive : 0 < turn a b c) (mem : q ∈ closedTriangle a b c) :
    q ∈ closure (openTriangle a b c) := by
  have near := closure_mono (openSegment_subset_openTriangle (centroid_mem positive) mem)
  rw [closure_openSegment] at near
  exact near (right_mem_segment ℝ _ _)

/-- A counter-clockwise triangle that reaches into an open triangle overlaps with it. -/
theorem exists_mem_openTriangle (positive : 0 < turn a' b' c')
    (reaches : q ∈ closedTriangle a' b' c') (mem : q ∈ openTriangle a b c) :
    ∃ r ∈ openTriangle a b c, r ∈ openTriangle a' b' c' := by
  have near := mem_closure_openTriangle positive reaches
  exact mem_closure_iff.1 near _ (isOpen_openTriangle a b c) mem

/-! ## On one side of a line -/

/-- Three places on one line do not span a triangle. -/
theorem turn_eq_zero_of_line (apart : u ≠ v) (first : turn u v a = 0) (second : turn u v b = 0)
    (third : turn u v c = 0) : turn a b c = 0 := by
  have across : (v.1 - u.1) * turn a b c =
      (b.1 - a.1) * (turn u v c - turn u v a) - (c.1 - a.1) * (turn u v b - turn u v a) := by
    unfold turn
    ring
  have along : (v.2 - u.2) * turn a b c =
      (b.2 - a.2) * (turn u v c - turn u v a) - (c.2 - a.2) * (turn u v b - turn u v a) := by
    unfold turn
    ring
  rw [first, second, third, sub_self, mul_zero, mul_zero, sub_self] at across along
  by_contra spans
  apply apart
  apply Prod.ext
  · exact (sub_eq_zero.1 ((mul_eq_zero.1 across).resolve_right spans)).symm
  · exact (sub_eq_zero.1 ((mul_eq_zero.1 along).resolve_right spans)).symm

/-- The turn at a place is the mean of the turns at the corners of a triangle, by the weights of
the place. -/
theorem turn_mul_turn : turn a b c * turn u v q =
    turn b c q * turn u v a + turn c a q * turn u v b + turn a b q * turn u v c := by
  unfold turn
  ring

/-- A line that has all corners on it or to its left has the open triangle strictly to its left. -/
theorem turn_pos_of_mem_openTriangle (apart : u ≠ v) (first : 0 ≤ turn u v a)
    (second : 0 ≤ turn u v b) (third : 0 ≤ turn u v c) (mem : q ∈ openTriangle a b c) :
    0 < turn u v q := by
  have positive := turn_pos_of_mem mem
  have weighted : turn a b c * turn u v q = _ := turn_mul_turn
  have atFirst := mul_nonneg mem.2.1.le first
  have atSecond := mul_nonneg mem.2.2.le second
  have atThird := mul_nonneg mem.1.le third
  by_contra outside
  have total : turn a b c * turn u v q ≤ 0 :=
    mul_nonpos_of_nonneg_of_nonpos positive.le (not_lt.1 outside)
  have none₁ : turn b c q * turn u v a = 0 := by linarith
  have none₂ : turn c a q * turn u v b = 0 := by linarith
  have none₃ : turn a b q * turn u v c = 0 := by linarith
  apply positive.ne'
  apply turn_eq_zero_of_line apart
  · exact (mul_eq_zero.1 none₁).resolve_left mem.2.1.ne'
  · exact (mul_eq_zero.1 none₂).resolve_left mem.2.2.ne'
  · exact (mul_eq_zero.1 none₃).resolve_left mem.1.ne'

/-- Triangles on different sides of a line do not overlap. -/
theorem disjoint_openTriangle (first : turn a b a' ≤ 0) (second : turn a b b' ≤ 0)
    (third : turn a b c' ≤ 0) : Disjoint (openTriangle a b c) (openTriangle a' b' c') := by
  rw [Set.disjoint_left]
  intro q mem mem'
  have atFirst := mul_nonpos_of_nonneg_of_nonpos mem'.2.1.le first
  have atSecond := mul_nonpos_of_nonneg_of_nonpos mem'.2.2.le second
  have atThird := mul_nonpos_of_nonneg_of_nonpos mem'.1.le third
  have left := mul_pos (turn_pos_of_mem mem') mem.1
  rw [turn_mul_turn] at left
  linarith

end PlanarMesh
