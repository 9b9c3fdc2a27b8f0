import PlanarMesh.Proofs.Number.Comparison
import PlanarMesh.Geometry.Orientation
import Mathlib.Analysis.Convex.Segment
import Mathlib.Data.Real.Basic
import Mathlib.Tactic.Linarith
import Mathlib.Tactic.Ring

/-!
# The plane

Finite points are places in the real plane, exactly: `Point.place` counts smallest positive
doubles along both axes.  On which side of the directed line from `a` to `b` a place `q` lies is
the sign of `turn a b q`, and for finite points that is the sign of the exact determinant
(`turn_place`).

A place on the line through `a` and `b` lies strictly between them if and only if it does so along
some axis (`mem_openSegment_of_between`, `between_of_mem_openSegment`); this is how doubles can
tell without rounding.
-/

namespace PlanarMesh

/-- Where a point with finite coordinates lies, in units of the smallest positive double. -/
def Point.place (p : Point) : ℝ × ℝ :=
  (unitsOf p.x, unitsOf p.y)

/-- Twice the signed area of the triangle `a`, `b`, `c`: positive when `c` lies to the left of the
directed line from `a` to `b`. -/
def turn (a b c : ℝ × ℝ) : ℝ :=
  (b.1 - a.1) * (c.2 - a.2) - (b.2 - a.2) * (c.1 - a.1)

theorem turn_place (p₁ p₂ q : Point) :
    turn p₁.place p₂.place q.place = determinant p₁ p₂ q := by
  simp [turn, Point.place, determinant]

theorem determinant_pos_iff {p₁ p₂ q : Point} :
    0 < determinant p₁ p₂ q ↔ 0 < turn p₁.place p₂.place q.place := by
  rw [turn_place, Int.cast_pos]

theorem determinant_rotate (a b c : Point) : determinant b c a = determinant a b c := by
  unfold determinant
  ring

theorem determinant_swap (a b q : Point) : determinant b a q = -determinant a b q := by
  unfold determinant
  ring

/-! ## Signed areas -/

section Areas

variable (a b c q : ℝ × ℝ)

theorem turn_rotate : turn b c a = turn a b c := by
  unfold turn
  ring

@[simp]
theorem turn_left_self : turn a b a = 0 := by
  unfold turn
  ring

@[simp]
theorem turn_right_self : turn a b b = 0 := by
  unfold turn
  ring

theorem turn_prodSwap : turn a.swap b.swap q.swap = -turn a b q := by
  simp only [turn, Prod.fst_swap, Prod.snd_swap]
  ring

/-- The triangles that a place spans with the sides of a triangle add up to it. -/
theorem turn_add_turn_add_turn : turn a b q + turn b c q + turn c a q = turn a b c := by
  unfold turn
  ring

/-- The areas that a place spans with the sides are its weights at the opposite corners. -/
theorem turn_smul_eq :
    turn a b c • q = turn b c q • a + turn c a q • b + turn a b q • c := by
  ext
  · simp only [turn, Prod.smul_fst, Prod.fst_add, smul_eq_mul]
    ring
  · simp only [turn, Prod.smul_snd, Prod.snd_add, smul_eq_mul]
    ring

/-- The turn is an affine function of the third place. -/
theorem turn_combination (s : ℝ) :
    turn a b ((1 - s) • c + s • q) = (1 - s) * turn a b c + s * turn a b q := by
  simp only [turn, Prod.smul_fst, Prod.smul_snd, Prod.fst_add, Prod.snd_add, smul_eq_mul]
  ring

end Areas

/-! ## Segments -/

section Segments

variable {a b c q : ℝ × ℝ}

theorem turn_eq_zero_of_mem_segment (mem : q ∈ segment ℝ a b) : turn a b q = 0 := by
  rcases mem with ⟨s, t, -, -, total, rfl⟩
  have first : s = 1 - t := by linarith
  rw [first, turn_combination, turn_left_self, turn_right_self]
  ring

/-- The place lies strictly between `a` and `b` along some axis. -/
def Between (a b q : ℝ × ℝ) : Prop :=
  q.1 ∈ Set.Ioo (min a.1 b.1) (max a.1 b.1) ∨ q.2 ∈ Set.Ioo (min a.2 b.2) (max a.2 b.2)

theorem mem_openSegment_of_fst (collinear : turn a b q = 0)
    (between : q.1 ∈ Set.Ioo (min a.1 b.1) (max a.1 b.1)) : q ∈ openSegment ℝ a b := by
  have apart : a.1 ≠ b.1 := fun same => by
    rw [same, min_self, max_self] at between
    exact lt_asymm between.1 between.2
  rw [← openSegment_eq_Ioo' apart] at between
  rcases between with ⟨s, t, sPos, tPos, total, first⟩
  have second : (b.1 - a.1) * (s * a.2 + t * b.2 - q.2) = 0 := by
    have expanded := collinear
    rw [turn, ← first] at expanded
    simp only [smul_eq_mul] at expanded
    rw [show s = 1 - t by linarith] at expanded ⊢
    linarith
  rcases mul_eq_zero.1 second with same | same
  · exact absurd (sub_eq_zero.1 same).symm apart
  · exact ⟨s, t, sPos, tPos, total, Prod.ext first (sub_eq_zero.1 same)⟩

theorem mem_openSegment_of_between (collinear : turn a b q = 0) (between : Between a b q) :
    q ∈ openSegment ℝ a b := by
  rcases between with between | between
  · exact mem_openSegment_of_fst collinear between
  · have swapped : q.swap ∈ openSegment ℝ a.swap b.swap :=
      mem_openSegment_of_fst (by rw [turn_prodSwap, collinear, neg_zero]) between
    rcases swapped with ⟨s, t, sPos, tPos, total, same⟩
    exact ⟨s, t, sPos, tPos, total, Prod.swap_injective same⟩

theorem between_of_mem_openSegment (mem : q ∈ openSegment ℝ a b) (apart : a ≠ b) :
    Between a b q := by
  rcases mem with ⟨s, t, sPos, tPos, total, rfl⟩
  by_cases same : a.1 = b.1
  · right
    have other : a.2 ≠ b.2 := fun same' => apart (Prod.ext same same')
    rw [← openSegment_eq_Ioo' other]
    exact ⟨s, t, sPos, tPos, total, rfl⟩
  · left
    rw [← openSegment_eq_Ioo' same]
    exact ⟨s, t, sPos, tPos, total, rfl⟩

theorem Between.ne (between : Between a b q) : a ≠ b := by
  rintro rfl
  simp only [Between, min_self, max_self, Set.Ioo_self] at between
  exact between.elim id id

/-- A place that is neither at the ends of a segment nor between them along an axis is outside. -/
theorem notMem_segment_of_not_between (outside : ¬ Between a b q) (left : q ≠ a) (right : q ≠ b) :
    q ∉ segment ℝ a b := by
  intro mem
  have apart : a ≠ b := by
    rintro rfl
    rw [segment_same] at mem
    exact left mem
  have inside := mem_openSegment_of_ne_left_right left.symm right.symm mem
  exact outside (between_of_mem_openSegment inside apart)

/-- A place on the line of one side of a triangle is a combination of the ends. -/
theorem combination_of_turn (spans : turn a b c ≠ 0) (collinear : turn a b q = 0) :
    turn b c q / turn a b c + turn c a q / turn a b c = 1 ∧
      (turn b c q / turn a b c) • a + (turn c a q / turn a b c) • b = q := by
  have total := turn_add_turn_add_turn a b c q
  have weights := turn_smul_eq a b c q
  rw [collinear, zero_add] at total
  rw [collinear, zero_smul, add_zero] at weights
  constructor
  · rw [← add_div, total, div_self spans]
  · rw [div_eq_inv_mul, div_eq_inv_mul, mul_smul, mul_smul, ← smul_add, ← weights,
      inv_smul_smul₀ spans]

/-- On the line of one side and strictly to the left of the two others is between the ends. -/
theorem mem_openSegment_of_turn (collinear : turn a b q = 0) (left : 0 < turn b c q)
    (left' : 0 < turn c a q) : q ∈ openSegment ℝ a b := by
  have positive : 0 < turn a b c := by
    rw [← turn_add_turn_add_turn a b c q, collinear, zero_add]
    exact add_pos left left'
  rcases combination_of_turn positive.ne' collinear with ⟨total, same⟩
  exact ⟨_, _, div_pos left positive, div_pos left' positive, total, same⟩

/-- On the line of one side of a counter-clockwise triangle and not to the right of the two others
is between the ends or at one of them. -/
theorem mem_segment_of_turn (positive : 0 < turn a b c) (collinear : turn a b q = 0)
    (left : 0 ≤ turn b c q) (left' : 0 ≤ turn c a q) : q ∈ segment ℝ a b := by
  rcases combination_of_turn positive.ne' collinear with ⟨total, same⟩
  exact ⟨_, _, div_nonneg left positive.le, div_nonneg left' positive.le, total, same⟩

/-- Between the ends of one side of a counter-clockwise triangle is strictly to the left of the two
others. -/
theorem turn_pos_of_mem_openSegment (positive : 0 < turn a b c) (mem : q ∈ openSegment ℝ a b) :
    0 < turn b c q ∧ 0 < turn c a q := by
  rcases mem with ⟨s, t, sPos, tPos, total, rfl⟩
  have first : s = 1 - t := by linarith
  subst first
  constructor
  · rw [turn_combination, turn_left_self, mul_zero, add_zero, turn_rotate]
    exact mul_pos sPos positive
  · rw [turn_combination, turn_right_self, mul_zero, zero_add, ← turn_rotate c a b]
    exact mul_pos tPos positive

end Segments

/-! ## Finite points -/

section Points

variable {p q : Point}

/-- The point lies on the segment from `a` to `b`, its ends included. -/
def Point.LiesOn (p a b : Point) : Prop :=
  p.place ∈ segment ℝ a.place b.place

/-- The point lies on the segment between the different places `a` and `b`, its ends excluded. -/
def Point.LiesBetween (p a b : Point) : Prop :=
  a.place ≠ b.place ∧ p.place ∈ openSegment ℝ a.place b.place

theorem Point.LiesBetween.liesOn {a b : Point} (between : p.LiesBetween a b) : p.LiesOn a b :=
  openSegment_subset_segment ℝ _ _ between.2

theorem Point.liesOn_of_start {a b : Point} (same : p.place = a.place) : p.LiesOn a b := by
  rw [Point.LiesOn, same]
  exact left_mem_segment ℝ _ _

theorem Point.liesOn_of_finish {a b : Point} (same : p.place = b.place) : p.LiesOn a b := by
  rw [Point.LiesOn, same]
  exact right_mem_segment ℝ _ _

theorem Point.LiesOn.determinant_eq_zero {a b : Point} (on : p.LiesOn a b) :
    determinant a b p = 0 := by
  have line := turn_eq_zero_of_mem_segment on
  rwa [turn_place, Int.cast_eq_zero] at line

theorem Point.liesOn_comm {a b : Point} : p.LiesOn a b ↔ p.LiesOn b a := by
  rw [Point.LiesOn, Point.LiesOn, segment_symm]

theorem Point.LiesBetween.symm {a b : Point} (between : p.LiesBetween a b) :
    p.LiesBetween b a := by
  rw [Point.LiesBetween, openSegment_symm]
  exact ⟨between.1.symm, between.2⟩

theorem mem_Ioo_min_max_iff {u v w : Int} :
    (w : ℝ) ∈ Set.Ioo (min (u : ℝ) v) (max u v) ↔ u < w ∧ w < v ∨ v < w ∧ w < u := by
  rw [Set.mem_Ioo, min_lt_iff, lt_max_iff]
  simp only [Int.cast_lt]
  omega

/-- Whether a point lies between two others can be told from the coordinates alone. -/
theorem Point.liesBetween_iff {a b : Point} : p.LiesBetween a b ↔
    determinant a b p = 0 ∧
      ((unitsOf a.x < unitsOf p.x ∧ unitsOf p.x < unitsOf b.x ∨
          unitsOf b.x < unitsOf p.x ∧ unitsOf p.x < unitsOf a.x) ∨
        unitsOf a.y < unitsOf p.y ∧ unitsOf p.y < unitsOf b.y ∨
          unitsOf b.y < unitsOf p.y ∧ unitsOf p.y < unitsOf a.y) := by
  rw [← mem_Ioo_min_max_iff, ← mem_Ioo_min_max_iff]
  constructor
  · intro between
    exact ⟨between.liesOn.determinant_eq_zero, between_of_mem_openSegment between.2 between.1⟩
  · rintro ⟨line, between⟩
    have between' : Between a.place b.place p.place := between
    refine ⟨between'.ne, mem_openSegment_of_between ?_ between'⟩
    rw [turn_place, line, Int.cast_zero]

instance (p a b : Point) : Decidable (p.LiesBetween a b) :=
  decidable_of_iff _ Point.liesBetween_iff.symm

/-- Neither at the ends of a segment nor between them is outside. -/
theorem Point.not_liesOn {a b : Point} (left : p.place ≠ a.place) (right : p.place ≠ b.place)
    (outside : ¬ p.LiesBetween a b) : ¬ p.LiesOn a b := by
  intro on
  have between := mem_openSegment_of_ne_left_right left.symm right.symm on
  refine outside ⟨fun same => ?_, between⟩
  rw [same, openSegment_same] at between
  exact right between

theorem coincides_iff_place (pFinite : p.isFinite = true) (qFinite : q.isFinite = true) :
    p.coincides q = true ↔ p.place = q.place := by
  rw [Point.isFinite, Bool.and_eq_true] at pFinite qFinite
  rw [Point.coincides, Bool.and_eq_true, beq_iff_unitsOf pFinite.1 qFinite.1,
    beq_iff_unitsOf pFinite.2 qFinite.2, Point.place, Point.place, Prod.mk.injEq, Int.cast_inj,
    Int.cast_inj]

end Points

end PlanarMesh
