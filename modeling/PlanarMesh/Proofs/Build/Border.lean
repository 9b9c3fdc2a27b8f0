import PlanarMesh.Proofs.Build.Grid

/-!
# The border of a grid

The border of a list of triangles runs along the sides that have a triangle on one side only.  For
a grid these are the four sides of the rectangle (`exit_grid_iff`).  With the cells to the right,
the border leaves every point once that is not inside (`exists_skirts_iff`, `Skirts.unique`) and
goes once around: what it carries from point to point, both ways, is the same at all of its points
as at the least corner (`skirts_iff_of_closed`).
-/

namespace PlanarMesh

namespace TriangleList

/-- From point to point along the border of a grid, with the cells to the right. -/
inductive Skirts (nx ny : Nat) : Nat → Nat → Prop
  | west {i : Nat} (column : i < nx) : Skirts nx ny (place nx (i + 1) 0) (place nx i 0)
  | north {j : Nat} (row : j < ny) : Skirts nx ny (place nx 0 j) (place nx 0 (j + 1))
  | east {i : Nat} (column : i < nx) : Skirts nx ny (place nx i ny) (place nx (i + 1) ny)
  | south {j : Nat} (row : j < ny) : Skirts nx ny (place nx nx (j + 1)) (place nx nx j)

/-- The places of the points that do not lie on the border of a grid. -/
def innerPlaces (nx ny : Nat) : List Nat :=
  (List.range (ny - 1)).flatMap fun j => (List.range (nx - 1)).map fun i => place nx (i + 1) (j + 1)

variable {nx ny i i' j j' v x y : Nat}

/-! ## The border -/

/-- What is the same at every step of a count is the same at its start. -/
theorem iff_zero_of_steps {p : Nat → Prop} {n : Nat} (steps : ∀ k < n, p k ↔ p (k + 1)) :
    ∀ k ≤ n, p k ↔ p 0 := by
  intro k bound
  induction k with
  | zero => exact Iff.rfl
  | succ k inductionHypothesis =>
    exact (steps k bound).symm.trans (inductionHypothesis (Nat.le_of_succ_le bound))

/-- The border leaves a point where the triangles around it end, counter-clockwise. -/
theorem exit_iff_heading (columns : 0 < nx) : Exit (gridTriangles nx ny) v x ↔
    ∃ d : Heading, d.Sector nx ny v ∧ ¬ d.left.Sector nx ny v ∧
      (x : Int) = v + d.left.offset nx := by
  rw [Exit, mem_sides_back_grid_iff, mem_sides_grid_iff]
  constructor
  · rintro ⟨⟨d, sector, heads⟩, missing⟩
    exact ⟨d, sector, fun sector' => missing ⟨d.left, sector', heads⟩, heads⟩
  · rintro ⟨d, sector, ends, heads⟩
    refine ⟨⟨d, sector, heads⟩, ?_⟩
    rintro ⟨e, sector', heads'⟩
    have same : d.left.offset nx = e.offset nx := by omega
    rw [Heading.offset_inj columns] at same
    exact ends (same ▸ sector')

/-- The border leaves a point where the cells around it end. -/
theorem exit_place_iff (columns : 0 < nx) (left : i ≤ nx) (right : j ≤ ny) :
    Exit (gridTriangles nx ny) (place nx i j) x ↔ ∃ d : Heading, d.Inside nx ny i j ∧
      ¬ d.left.Inside nx ny i j ∧ (x : Int) = place nx i j + d.left.offset nx := by
  simp only [exit_iff_heading columns, Heading.sector_place_iff left right]

theorem skirts_of_exit (columns : 0 < nx) (exit : Exit (gridTriangles nx ny) v x) :
    Skirts nx ny v x := by
  obtain ⟨i, j, left, right, rfl⟩ : ∃ i j, i ≤ nx ∧ j ≤ ny ∧ v = place nx i j := by
    rcases (exit_iff_heading columns).1 exit with ⟨d, sector, -, -⟩
    exact sector.exists_place
  rcases (exit_place_iff columns left right).1 exit with ⟨d, inside, ends, heads⟩
  cases d with
  | east | west => exact absurd inside ends
  | northeast =>
    obtain rfl : i = 0 := by
      simp only [Heading.Inside, Heading.left] at inside ends
      omega
    obtain rfl : x = place nx 0 (j + 1) := by
      rw [place_succ_right]
      simp only [Heading.offset, Heading.left] at heads
      omega
    exact .north inside.2
  | north =>
    obtain rfl : j = 0 := by
      simp only [Heading.Inside, Heading.left] at inside ends
      omega
    obtain ⟨k, rfl⟩ := Nat.exists_eq_add_one_of_ne_zero (Nat.ne_of_gt inside.1)
    obtain rfl : x = place nx k 0 := by
      rw [place_succ_left] at heads
      simp only [Heading.offset, Heading.left] at heads
      omega
    exact .west left
  | southwest =>
    obtain rfl : i = nx := by
      simp only [Heading.Inside, Heading.left] at inside ends
      omega
    obtain ⟨k, rfl⟩ := Nat.exists_eq_add_one_of_ne_zero (Nat.ne_of_gt inside.2)
    obtain rfl : x = place i i k := by
      rw [place_succ_right] at heads
      simp only [Heading.offset, Heading.left] at heads
      omega
    exact .south right
  | south =>
    obtain rfl : j = ny := by
      simp only [Heading.Inside, Heading.left] at inside ends
      omega
    obtain rfl : x = place nx (i + 1) j := by
      rw [place_succ_left]
      simp only [Heading.offset, Heading.left] at heads
      omega
    exact .east inside.1

theorem Skirts.exit (columns : 0 < nx) (rows : 0 < ny) (skirts : Skirts nx ny v x) :
    Exit (gridTriangles nx ny) v x := by
  cases skirts with
  | @west i column =>
    refine (exit_place_iff columns column (Nat.zero_le ny)).2 ⟨.north, ⟨i.succ_pos, rows⟩,
      fun inside => Nat.lt_irrefl 0 inside.2, ?_⟩
    rw [place_succ_left]
    simp only [Heading.offset, Heading.left]
    omega
  | @north j row =>
    refine (exit_place_iff columns (Nat.zero_le nx) row.le).2 ⟨.northeast, ⟨columns, row⟩,
      fun inside => Nat.lt_irrefl 0 inside.1, ?_⟩
    rw [place_succ_right]
    simp only [Heading.offset, Heading.left]
    omega
  | @east i column =>
    refine (exit_place_iff columns column.le le_rfl).2 ⟨.south, ⟨column, rows⟩,
      fun inside => Nat.lt_irrefl ny inside.2, ?_⟩
    rw [place_succ_left]
    simp only [Heading.offset, Heading.left]
    omega
  | @south j row =>
    refine (exit_place_iff columns le_rfl row).2 ⟨.southwest, ⟨columns, j.succ_pos⟩,
      fun inside => Nat.lt_irrefl nx inside.1, ?_⟩
    rw [place_succ_right]
    simp only [Heading.offset, Heading.left]
    omega

/-- The border runs along the four sides of the rectangle. -/
theorem exit_grid_iff (columns : 0 < nx) (rows : 0 < ny) :
    Exit (gridTriangles nx ny) v x ↔ Skirts nx ny v x :=
  ⟨skirts_of_exit columns, fun skirts => skirts.exit columns rows⟩

/-- The border leaves each point only once. -/
theorem Skirts.unique (columns : 0 < nx) (rows : 0 < ny) (skirts : Skirts nx ny v x)
    (skirts' : Skirts nx ny v y) : x = y := by
  generalize same : v = w at skirts'
  cases skirts <;> cases skirts' <;> rw [place_inj (by omega) (by omega)] at same <;>
    exact (place_inj (by omega) (by omega)).2 (by omega)

/-- The border leaves every point but those inside. -/
theorem exists_skirts_iff (columns : 0 < nx) (rows : 0 < ny) (left : i ≤ nx) (right : j ≤ ny) :
    (∃ x, Skirts nx ny (place nx i j) x) ↔ ¬ ((0 < i ∧ i < nx) ∧ 0 < j ∧ j < ny) := by
  constructor
  · rintro ⟨x, skirts⟩
    generalize same : place nx i j = v at skirts
    cases skirts <;> rw [place_inj left (by omega)] at same <;> omega
  · intro outside
    rcases Nat.eq_zero_or_pos i with rfl | positive
    · rcases Nat.lt_or_eq_of_le right with row | rfl
      · exact ⟨_, .north row⟩
      · exact ⟨_, .east columns⟩
    · rcases Nat.eq_zero_or_pos j with rfl | positive'
      · obtain ⟨k, rfl⟩ := Nat.exists_eq_succ_of_ne_zero (Nat.ne_of_gt positive)
        exact ⟨_, .west left⟩
      · rcases Nat.lt_or_eq_of_le left with column | rfl
        · obtain rfl : j = ny := by omega
          exact ⟨_, .east column⟩
        · obtain ⟨k, rfl⟩ := Nat.exists_eq_succ_of_ne_zero (Nat.ne_of_gt positive')
          exact ⟨_, .south right⟩

/-- What passes along the border in both directions is the same at all of its points. -/
theorem skirts_iff_of_closed {p : Nat → Prop} (closed : ∀ v x, Skirts nx ny v x → (p v ↔ p x))
    (skirts : Skirts nx ny v x) : p v ↔ p (place nx 0 0) := by
  have bottom := iff_zero_of_steps (p := fun i => p (place nx i 0)) fun i column =>
    (closed _ _ (.west column)).symm
  have side := iff_zero_of_steps (p := fun j => p (place nx 0 j)) fun j row =>
    closed _ _ (.north row)
  have top := iff_zero_of_steps (p := fun i => p (place nx i ny)) fun i column =>
    closed _ _ (.east column)
  have side' := iff_zero_of_steps (p := fun j => p (place nx nx j)) fun j row =>
    (closed _ _ (.south row)).symm
  cases skirts with
  | west column => exact bottom _ column
  | north row => exact side _ row.le
  | east column => exact (top _ column.le).trans (side ny le_rfl)
  | south row => exact (side' _ row).trans (bottom nx le_rfl)

/-! ## Inner points -/

theorem mem_innerPlaces : v ∈ innerPlaces nx ny ↔
    ∃ i j, (0 < i ∧ i < nx) ∧ (0 < j ∧ j < ny) ∧ v = place nx i j := by
  simp only [innerPlaces, List.mem_flatMap, List.mem_map, List.mem_range]
  constructor
  · rintro ⟨j, row, i, column, rfl⟩
    exact ⟨i + 1, j + 1, by omega, by omega, rfl⟩
  · rintro ⟨i, j, column, row, rfl⟩
    refine ⟨j - 1, by omega, i - 1, by omega, ?_⟩
    rw [Nat.sub_add_cancel column.1, Nat.sub_add_cancel row.1]

theorem length_innerPlaces : (innerPlaces nx ny).length = (nx - 1) * (ny - 1) := by
  simp [innerPlaces, List.length_flatMap, Nat.mul_comm]

theorem nodup_innerPlaces : (innerPlaces nx ny).Nodup := by
  have apart {i i' j j' : Nat} (column : i < nx - 1) (column' : i' < nx - 1)
      (same : place nx (i + 1) (j + 1) = place nx (i' + 1) (j' + 1)) : i = i' ∧ j = j' := by
    rw [place_inj (by omega) (by omega)] at same
    omega
  refine List.nodup_flatMap.2
    ⟨fun j _ => ?_, List.nodup_range.imp fun {j j'} other v mem mem' => ?_⟩
  · refine (List.nodup_map_iff_inj_on List.nodup_range).2 fun i mem i' mem' same => ?_
    exact (apart (List.mem_range.1 mem) (List.mem_range.1 mem') same).1
  · rcases List.mem_map.1 mem with ⟨i, column, rfl⟩
    rcases List.mem_map.1 mem' with ⟨i', column', same⟩
    exact other (apart (List.mem_range.1 column') (List.mem_range.1 column) same).2.symm

end TriangleList

end PlanarMesh
