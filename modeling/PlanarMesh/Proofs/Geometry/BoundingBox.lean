import PlanarMesh.Geometry.BoundingBox
import PlanarMesh.Proofs.Number.Order

/-!
# Boxes around points

Collecting points is collecting their coordinates, axis by axis (`BoundingBox.ofPoints_eq`).  Along
each axis the least and the greatest coordinate bound the others, and lie within any other bounds;
only without coordinates the bounds are the wrong way round.  Hence the box of some points contains
all of them, is contained in every box that does, and is empty if and only if there are no points.
-/

namespace PlanarMesh

namespace Double

/-- The least of some doubles, plus infinity without any. -/
def least (xs : List Float) : Float :=
  xs.foldl lesser (1 / 0)

/-- The greatest of some doubles, minus infinity without any. -/
def greatest (xs : List Float) : Float :=
  xs.foldl greater (-1 / 0)

theorem not_infinity_le : ¬ (1 / 0 : Float) ≤ -1 / 0 := by
  decide +kernel

section Bounds

variable {xs : List Float} (numbers : ∀ x ∈ xs, x.isNaN = false)

include numbers

theorem le_least_iff :
    (least xs).isNaN = false ∧ ∀ c, c ≤ least xs ↔ c ≤ 1 / 0 ∧ ∀ x ∈ xs, c ≤ x :=
  foldl_iff (R := (· ≤ ·)) le_lesser_iff rfl numbers

theorem greatest_le_iff :
    (greatest xs).isNaN = false ∧ ∀ c, greatest xs ≤ c ↔ -1 / 0 ≤ c ∧ ∀ x ∈ xs, x ≤ c :=
  foldl_iff (R := fun c x => x ≤ c) greater_le_iff rfl numbers

/-- The least and the greatest bound all. -/
theorem between {x : Float} (mem : x ∈ xs) : least xs ≤ x ∧ x ≤ greatest xs := by
  rcases le_least_iff numbers with ⟨number, le_iff⟩
  rcases greatest_le_iff numbers with ⟨number', le_iff'⟩
  exact ⟨((le_iff _).1 (le_refl number)).2 x mem, ((le_iff' _).1 (le_refl number')).2 x mem⟩

/-- Between the least and the greatest lies nothing beyond other bounds. -/
theorem within {low high z : Float} (covers : ∀ x ∈ xs, low ≤ x ∧ x ≤ high) (below : least xs ≤ z)
    (above : z ≤ greatest xs) : low ≤ z ∧ z ≤ high := by
  cases xs with
  | nil => exact absurd (le_trans below above) not_infinity_le
  | cons x xs =>
    rcases covers x List.mem_cons_self with ⟨lowLe, leHigh⟩
    have lowest : low ≤ least (x :: xs) := ((le_least_iff numbers).2 low).2
      ⟨le_infinity (numbers_of_le lowLe).1, fun y mem => (covers y mem).1⟩
    have highest : greatest (x :: xs) ≤ high := ((greatest_le_iff numbers).2 high).2
      ⟨minus_infinity_le (numbers_of_le leHigh).2, fun y mem => (covers y mem).2⟩
    exact ⟨le_trans lowest below, le_trans above highest⟩

theorem greatest_lt_least_iff : greatest xs < least xs ↔ xs = [] := by
  constructor
  · intro inverted
    by_contra some
    rcases List.exists_mem_of_ne_nil xs some with ⟨x, mem⟩
    rcases between numbers mem with ⟨below, above⟩
    have le := le_trans below above
    exact (not_lt_iff (numbers_of_le le).2 (numbers_of_le le).1).2 le inverted
  · rintro rfl
    show (-1 / 0 : Float) < 1 / 0
    decide +kernel

end Bounds

end Double

namespace BoundingBox

/-- Collecting points is collecting their coordinates, axis by axis. -/
theorem ofPoints_eq (points : List Point) :
    ofPoints points =
      ⟨⟨Double.least (points.map Point.x), Double.least (points.map Point.y)⟩,
        ⟨Double.greatest (points.map Point.x), Double.greatest (points.map Point.y)⟩⟩ := by
  have folded : ∀ box : BoundingBox, points.foldl expand box =
      ⟨⟨(points.map Point.x).foldl lesser box.min.x, (points.map Point.y).foldl lesser box.min.y⟩,
        ⟨(points.map Point.x).foldl greater box.max.x,
          (points.map Point.y).foldl greater box.max.y⟩⟩ := by
    induction points with
    | nil => exact fun box => rfl
    | cons p points inductionHypothesis => exact fun box => inductionHypothesis (box.expand p)
  exact folded inverse

theorem contains_iff {box : BoundingBox} {p : Point} : box.contains p = true ↔
    (box.min.x ≤ p.x ∧ p.x ≤ box.max.x) ∧ box.min.y ≤ p.y ∧ p.y ≤ box.max.y := by
  simp [contains, and_assoc]

section OfPoints

variable {points : List Point} (finite : ∀ p ∈ points, p.isFinite = true)

include finite

theorem numbers_of_isFinite : (∀ x ∈ points.map Point.x, x.isNaN = false) ∧
    ∀ y ∈ points.map Point.y, y.isNaN = false := by
  simp only [List.forall_mem_map]
  constructor
  · intro p mem
    exact isNaN_eq_false_of_isFinite (Bool.and_eq_true_iff.1 (finite p mem)).1
  · intro p mem
    exact isNaN_eq_false_of_isFinite (Bool.and_eq_true_iff.1 (finite p mem)).2

/-- The box of some points contains them. -/
theorem contains_ofPoints {p : Point} (mem : p ∈ points) :
    (ofPoints points).contains p = true := by
  rcases numbers_of_isFinite finite with ⟨xs, ys⟩
  rw [contains_iff, ofPoints_eq]
  exact ⟨Double.between xs (List.mem_map_of_mem mem), Double.between ys (List.mem_map_of_mem mem)⟩

/-- A box that contains some points contains their box. -/
theorem contains_of_ofPoints {box : BoundingBox} {p : Point}
    (covers : ∀ q ∈ points, box.contains q = true) (mem : (ofPoints points).contains p = true) :
    box.contains p = true := by
  rcases numbers_of_isFinite finite with ⟨xs, ys⟩
  simp only [contains_iff] at covers mem ⊢
  rw [ofPoints_eq] at mem
  have alongX : ∀ x ∈ points.map Point.x, box.min.x ≤ x ∧ x ≤ box.max.x :=
    List.forall_mem_map.2 fun q mem => (covers q mem).1
  have alongY : ∀ y ∈ points.map Point.y, box.min.y ≤ y ∧ y ≤ box.max.y :=
    List.forall_mem_map.2 fun q mem => (covers q mem).2
  exact ⟨Double.within xs alongX mem.1.1 mem.1.2, Double.within ys alongY mem.2.1 mem.2.2⟩

/-- The box of some points is empty if and only if there are none. -/
theorem isEmpty_ofPoints : (ofPoints points).isEmpty = true ↔ points = [] := by
  rcases numbers_of_isFinite finite with ⟨xs, ys⟩
  rw [isEmpty, ofPoints_eq, Bool.or_eq_true, decide_eq_true_iff, decide_eq_true_iff,
    Double.greatest_lt_least_iff xs, Double.greatest_lt_least_iff ys, List.map_eq_nil_iff,
    List.map_eq_nil_iff, or_self]

end OfPoints

end BoundingBox

end PlanarMesh
