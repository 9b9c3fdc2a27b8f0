import Mathlib.Tactic.Ring
import PlanarMesh.Proofs.Build.Sides

/-!
# Grids

A grid of `nx` times `ny` cells has its points in rows of `nx + 1`, so that the place of a point
tells its column and its row.  Each cell is cut along its rising diagonal into a lower and an upper
triangle.

From a point there are six directions in which another point can be a corner of the same triangle.
In counter-clockwise order they are the `Heading`s, and whatever the size of the grid, the triangle
to the left of a heading leads on to the next one (`arc_iff`).  So at each point the arcs make up
one cycle or parts of it, and all that depends on where the point lies is which of the six triangles
are there (`Heading.sector_place_iff`).  From this follows that the grid can be built
(`buildable_grid`).
-/

namespace PlanarMesh

namespace TriangleList

/-- The place of the point in column `i` and row `j`. -/
def place (nx i j : Nat) : Nat :=
  j * (nx + 1) + i

/-- The triangles of a grid, row by row. -/
def gridTriangles (nx ny : Nat) : List (Corners Nat) :=
  (List.range ny).flatMap fun j => (List.range nx).flatMap fun i => cellTriangles nx i j

/-- The triangle below the diagonal of the cell with its least corner at `z`. -/
def lowerTriangle (nx z : Nat) : Corners Nat :=
  ⟨z, z + 1, z + (nx + 1) + 1⟩

/-- The triangle above the diagonal of the cell with its least corner at `z`. -/
def upperTriangle (nx z : Nat) : Corners Nat :=
  ⟨z, z + (nx + 1) + 1, z + (nx + 1)⟩

/-- Some cell has its least corner at `z`. -/
def Cell (nx ny z : Nat) : Prop :=
  ∃ i j, i < nx ∧ j < ny ∧ z = place nx i j

variable {nx ny i i' j j' v x y z : Nat} {t t' : Corners Nat}

/-! ## Places -/

theorem place_succ_left : place nx (i + 1) j = place nx i j + 1 :=
  rfl

theorem place_succ_right : place nx i (j + 1) = place nx i j + (nx + 1) := by
  unfold place
  ring

/-- A place tells its column and its row. -/
theorem place_inj (bound : i ≤ nx) (bound' : i' ≤ nx) :
    place nx i j = place nx i' j' ↔ i = i' ∧ j = j' := by
  constructor
  · intro same
    have column {i j : Nat} (bound : i ≤ nx) : place nx i j % (nx + 1) = i := by
      rw [place, Nat.mul_comm, Nat.mul_add_mod, Nat.mod_eq_of_lt (Nat.lt_succ_of_le bound)]
    have row {i j : Nat} (bound : i ≤ nx) : place nx i j / (nx + 1) = j := by
      rw [place, Nat.mul_comm, Nat.mul_add_div nx.succ_pos,
        Nat.div_eq_of_lt (Nat.lt_succ_of_le bound), Nat.add_zero]
    have columns := congrArg (· % (nx + 1)) same
    have rows := congrArg (· / (nx + 1)) same
    simp only [column bound, column bound', row bound, row bound'] at columns rows
    exact ⟨columns, rows⟩
  · rintro ⟨rfl, rfl⟩
    rfl

theorem place_lt (left : i ≤ nx) (right : j ≤ ny) : place nx i j < (ny + 1) * (nx + 1) := by
  calc
    place nx i j < j * (nx + 1) + (nx + 1) := Nat.add_lt_add_left (Nat.lt_succ_of_le left) _
    _ = (j + 1) * (nx + 1) := by ring
    _ ≤ (ny + 1) * (nx + 1) := Nat.mul_le_mul_right _ (Nat.succ_le_succ right)

theorem exists_place (bound : v < (ny + 1) * (nx + 1)) :
    ∃ i j, i ≤ nx ∧ j ≤ ny ∧ v = place nx i j := by
  refine ⟨v % (nx + 1), v / (nx + 1), Nat.le_of_lt_succ (Nat.mod_lt _ nx.succ_pos),
    Nat.le_of_lt_succ (Nat.div_lt_of_lt_mul ?_), ?_⟩
  · rwa [Nat.mul_comm]
  · rw [place, Nat.mul_comm, Nat.div_add_mod]

/-! ## Triangles -/

theorem mem_gridTriangles : t ∈ gridTriangles nx ny ↔
    ∃ z, Cell nx ny z ∧ (t = lowerTriangle nx z ∨ t = upperTriangle nx z) := by
  simp only [gridTriangles, List.mem_flatMap, List.mem_range, Cell]
  constructor
  · rintro ⟨j, row, i, column, mem⟩
    exact ⟨place nx i j, ⟨i, j, column, row, rfl⟩, List.mem_pair.1 mem⟩
  · rintro ⟨_, ⟨i, j, column, row, rfl⟩, mem⟩
    exact ⟨j, row, i, column, List.mem_pair.2 mem⟩

theorem a_of_mem_cellTriangles (mem : t ∈ cellTriangles nx i j) : t.a = place nx i j := by
  rcases List.mem_pair.1 mem with rfl | rfl <;> rfl

theorem nodup_gridTriangles : (gridTriangles nx ny).Nodup := by
  have apart {i i' j j' : Nat} (column : i < nx) (column' : i' < nx)
      (other : ¬ (i = i' ∧ j = j')) :
      (cellTriangles nx i j).Disjoint (cellTriangles nx i' j') := by
    intro t mem mem'
    rw [← place_inj column.le column'.le, ← a_of_mem_cellTriangles mem,
      ← a_of_mem_cellTriangles mem'] at other
    exact other rfl
  refine List.nodup_flatMap.2 ⟨fun j _ => List.nodup_flatMap.2 ⟨fun i _ => ?_, ?_⟩, ?_⟩
  · simp [cellTriangles]
  · refine List.nodup_range.imp_of_mem fun {i i'} mem mem' other => ?_
    exact apart (List.mem_range.1 mem) (List.mem_range.1 mem') fun same => other same.1
  · refine List.nodup_range.imp fun {j j'} other t mem mem' => ?_
    rcases List.mem_flatMap.1 mem with ⟨i, column, here⟩
    rcases List.mem_flatMap.1 mem' with ⟨i', column', there⟩
    exact apart (List.mem_range.1 column) (List.mem_range.1 column') (fun same => other same.2)
      here there

theorem length_gridTriangles : (gridTriangles nx ny).length = 2 * nx * ny := by
  simp [gridTriangles, cellTriangles, List.length_flatMap]
  ring

end TriangleList

/-! ## Headings -/

/-- The directions in which the triangles at a point have their other corners, counter-clockwise. -/
inductive Heading where
  | east
  | northeast
  | north
  | west
  | southwest
  | south
deriving DecidableEq

namespace Heading

open TriangleList

/-- All headings. -/
def all : List Heading :=
  [east, northeast, north, west, southwest, south]

/-- The next heading, counter-clockwise. -/
def left : Heading → Heading
  | east => northeast
  | northeast => north
  | north => west
  | west => southwest
  | southwest => south
  | south => east

/-- How much further on the neighbouring place is. -/
def offset (nx : Nat) : Heading → Int
  | east => 1
  | northeast => (nx + 1) + 1
  | north => nx + 1
  | west => -1
  | southwest => -((nx + 1) + 1)
  | south => -(nx + 1)

/-- Where a heading starts with a triangle to its left, seen from the least corner of the cell. -/
def corner (nx : Nat) : Heading → Nat
  | east => 0
  | northeast => 0
  | north => 1
  | west => (nx + 1) + 1
  | southwest => (nx + 1) + 1
  | south => nx + 1

/-- The triangle to the left of a heading, in the cell with its least corner at `z`. -/
def triangle (nx z : Nat) : Heading → Corners Nat
  | east | north | southwest => lowerTriangle nx z
  | northeast | west | south => upperTriangle nx z

/-- There is a triangle to the left of the heading from `v` on. -/
def Sector (nx ny : Nat) (d : Heading) (v : Nat) : Prop :=
  ∃ z, Cell nx ny z ∧ v = z + d.corner nx

/-- There is a cell to the left of the heading from the point in column `i` and row `j` on. -/
def Inside (nx ny i j : Nat) : Heading → Prop
  | east | northeast => i < nx ∧ j < ny
  | north => 0 < i ∧ j < ny
  | west | southwest => 0 < i ∧ 0 < j
  | south => i < nx ∧ 0 < j

variable {nx ny i j v x y z : Nat} {d e : Heading}

theorem mem_all (d : Heading) : d ∈ all := by
  cases d <;> decide

theorem nodup_all : all.Nodup := by
  decide

/-- What passes from each heading to the next one holds of all. -/
theorem forall_of_left {p : Heading → Prop} (passes : ∀ d, p d → p d.left) (holds : p d)
    (e : Heading) : p e := by
  have first := passes _ holds
  have second := passes _ first
  have third := passes _ second
  have fourth := passes _ third
  have fifth := passes _ fourth
  cases d <;> cases e <;> assumption

theorem offset_inj (columns : 0 < nx) : d.offset nx = e.offset nx ↔ d = e := by
  constructor
  · cases d <;> cases e <;> simp [offset] <;> omega
  · rintro rfl
    rfl

/-- A point with a cell to the left of every heading is inside of the grid, and only such. -/
theorem forall_inside_iff : (∀ d, Inside nx ny i j d) ↔ (0 < i ∧ i < nx) ∧ 0 < j ∧ j < ny := by
  constructor
  · intro all
    exact ⟨⟨(all north).1, (all east).1⟩, (all south).2, (all east).2⟩
  · rintro ⟨⟨left, right⟩, below, above⟩ d
    cases d <;> exact ⟨‹_›, ‹_›⟩

theorem Sector.exists_place (sector : Sector nx ny d v) :
    ∃ i j, i ≤ nx ∧ j ≤ ny ∧ v = place nx i j := by
  rcases sector with ⟨_, ⟨i, j, column, row, rfl⟩, rfl⟩
  apply TriangleList.exists_place
  have far : place nx (i + 1) (j + 1) < (ny + 1) * (nx + 1) := place_lt column row
  rw [place_succ_left, place_succ_right] at far
  cases d <;> simp only [corner] <;> omega

/-- Along either side of the triangle to the left of a heading there is a point. -/
theorem Sector.exists_end (sector : Sector nx ny d v) :
    (∃ x : Nat, (x : Int) = v + d.offset nx) ∧ ∃ y : Nat, (y : Int) = v + d.left.offset nx := by
  rcases sector with ⟨z, -, rfl⟩
  have before : 0 ≤ ((z + d.corner nx : Nat) : Int) + d.offset nx := by
    cases d <;> simp only [corner, offset] <;> omega
  have onward : 0 ≤ ((z + d.corner nx : Nat) : Int) + d.left.offset nx := by
    cases d <;> simp only [corner, offset, left] <;> omega
  exact ⟨⟨_, Int.toNat_of_nonneg before⟩, _, Int.toNat_of_nonneg onward⟩

theorem exists_inside (columns : 0 < nx) (rows : 0 < ny) (left : i ≤ nx) (right : j ≤ ny) :
    ∃ d, Inside nx ny i j d := by
  rcases Nat.lt_or_eq_of_le left with column | rfl
  · rcases Nat.lt_or_eq_of_le right with row | rfl
    · exact ⟨east, column, row⟩
    · exact ⟨south, column, rows⟩
  · rcases Nat.lt_or_eq_of_le right with row | rfl
    · exact ⟨north, columns, row⟩
    · exact ⟨west, columns, rows⟩

theorem sector_place_iff (left : i ≤ nx) (right : j ≤ ny) :
    Sector nx ny d (place nx i j) ↔ Inside nx ny i j d := by
  -- The least corner of the cell is `k` columns and `l` rows back.
  have shifted {k l : Nat} (narrow : k ≤ 1)
      (back : ∀ i j, place nx i j + d.corner nx = place nx (i + k) (j + l)) :
      Sector nx ny d (place nx i j) ↔ (k ≤ i ∧ i - k < nx) ∧ l ≤ j ∧ j - l < ny := by
    constructor
    · rintro ⟨_, ⟨i', j', column, row, rfl⟩, same⟩
      rw [back, place_inj left (by omega)] at same
      omega
    · rintro ⟨⟨first, column⟩, first', row⟩
      refine ⟨_, ⟨i - k, j - l, column, row, rfl⟩, ?_⟩
      rw [back, Nat.sub_add_cancel first, Nat.sub_add_cancel first']
  have diagonal (i j : Nat) : place nx i j + (nx + 1 + 1) = place nx (i + 1) (j + 1) := by
    rw [place_succ_left, place_succ_right]
    rfl
  cases d with
  | east | northeast =>
    rw [shifted (k := 0) (l := 0) zero_le_one fun _ _ => rfl]
    simp [Inside]
  | north =>
    rw [shifted (k := 1) (l := 0) le_rfl fun _ _ => rfl]
    simp only [Inside]
    omega
  | west | southwest =>
    rw [shifted (k := 1) (l := 1) le_rfl diagonal]
    simp only [Inside]
    omega
  | south =>
    rw [shifted (k := 0) (l := 1) zero_le_one fun _ _ => place_succ_right.symm]
    simp only [Inside]
    omega

end Heading

namespace TriangleList

variable {nx ny i j v x y z : Nat} {t t' : Corners Nat}

/-! ## Arcs -/

theorem lowerTriangle_turns_iff : (lowerTriangle nx z).Turns v x y ↔
    ∃ d ∈ [Heading.east, .north, .southwest],
      v = z + d.corner nx ∧ (x : Int) = v + d.offset nx ∧ (y : Int) = v + d.left.offset nx := by
  simp only [Corners.turns_iff, lowerTriangle, List.mem_cons, List.not_mem_nil, or_false,
    exists_eq_or_imp, exists_eq_left, Heading.corner, Heading.offset, Heading.left]
  omega

theorem upperTriangle_turns_iff : (upperTriangle nx z).Turns v x y ↔
    ∃ d ∈ [Heading.northeast, .west, .south],
      v = z + d.corner nx ∧ (x : Int) = v + d.offset nx ∧ (y : Int) = v + d.left.offset nx := by
  simp only [Corners.turns_iff, upperTriangle, List.mem_cons, List.not_mem_nil, or_false,
    exists_eq_or_imp, exists_eq_left, Heading.corner, Heading.offset, Heading.left]
  omega

/-- At each of its corners a triangle of the grid lies to the left of a heading. -/
theorem turns_grid_iff : t ∈ gridTriangles nx ny ∧ t.Turns v x y ↔
    ∃ (d : Heading) (z : Nat), Cell nx ny z ∧ t = d.triangle nx z ∧ v = z + d.corner nx ∧
      (x : Int) = v + d.offset nx ∧ (y : Int) = v + d.left.offset nx := by
  constructor
  · rintro ⟨mem, turns⟩
    rcases mem_gridTriangles.1 mem with ⟨z, cell, rfl | rfl⟩
    · rcases lowerTriangle_turns_iff.1 turns with ⟨d, kind, heads⟩
      refine ⟨d, z, cell, ?_, heads⟩
      simp only [List.mem_cons, List.not_mem_nil, or_false] at kind
      rcases kind with rfl | rfl | rfl <;> rfl
    · rcases upperTriangle_turns_iff.1 turns with ⟨d, kind, heads⟩
      refine ⟨d, z, cell, ?_, heads⟩
      simp only [List.mem_cons, List.not_mem_nil, or_false] at kind
      rcases kind with rfl | rfl | rfl <;> rfl
  · rintro ⟨d, z, cell, rfl, heads⟩
    cases d with
    | east | north | southwest =>
      exact ⟨mem_gridTriangles.2 ⟨z, cell, .inl rfl⟩,
        lowerTriangle_turns_iff.2 ⟨_, by simp, heads⟩⟩
    | northeast | west | south =>
      exact ⟨mem_gridTriangles.2 ⟨z, cell, .inr rfl⟩,
        upperTriangle_turns_iff.2 ⟨_, by simp, heads⟩⟩

/-- The triangle to the left of a heading leads on to the next heading. -/
theorem arc_iff : Arc (gridTriangles nx ny) v x y ↔
    ∃ d : Heading, d.Sector nx ny v ∧ (x : Int) = v + d.offset nx ∧
      (y : Int) = v + d.left.offset nx := by
  simp only [Arc, turns_grid_iff]
  constructor
  · rintro ⟨t, d, z, cell, -, start, ends⟩
    exact ⟨d, ⟨z, cell, start⟩, ends⟩
  · rintro ⟨d, ⟨z, cell, start⟩, ends⟩
    exact ⟨_, d, z, cell, rfl, start, ends⟩

/-- The side along a heading belongs to the triangle to its left. -/
theorem mem_sides_grid_iff : (v, x) ∈ sides (gridTriangles nx ny) ↔
    ∃ d : Heading, d.Sector nx ny v ∧ (x : Int) = v + d.offset nx := by
  constructor
  · intro side
    rcases exists_arc side with ⟨y, arc⟩
    rcases arc_iff.1 arc with ⟨d, sector, heads, -⟩
    exact ⟨d, sector, heads⟩
  · rintro ⟨d, sector, heads⟩
    rcases sector.exists_end with ⟨-, y, onward⟩
    exact (arc_iff.2 ⟨d, sector, heads, onward⟩).side

/-- The side back along a heading belongs to the triangle to its right. -/
theorem mem_sides_back_grid_iff : (x, v) ∈ sides (gridTriangles nx ny) ↔
    ∃ d : Heading, d.Sector nx ny v ∧ (x : Int) = v + d.left.offset nx := by
  constructor
  · intro side
    rcases exists_arc side with ⟨y, arc⟩
    rcases arc_iff.1 arc.rotate with ⟨d, sector, -, heads⟩
    exact ⟨d, sector, heads⟩
  · rintro ⟨d, sector, heads⟩
    rcases sector.exists_end with ⟨⟨y, before⟩, -⟩
    exact (arc_iff.2 ⟨d, sector, before, heads⟩).side_back

/-! ## Grids can be built -/

theorem nodup_corners_grid (mem : t ∈ gridTriangles nx ny) : t.toList.Nodup := by
  rw [Corners.nodup_iff]
  rcases mem_gridTriangles.1 mem with ⟨z, -, rfl | rfl⟩ <;>
    simp only [lowerTriangle, upperTriangle] <;> omega

/-- A directed side tells the heading and where it starts, and so the triangle. -/
theorem nodup_sides_grid (columns : 0 < nx) : (sides (gridTriangles nx ny)).Nodup := by
  refine List.nodup_flatMap.2 ⟨fun t mem => Corners.nodup_sides (nodup_corners_grid mem), ?_⟩
  refine nodup_gridTriangles.imp_of_mem fun {t t'} mem mem' other s side side' => ?_
  rcases s with ⟨v, x⟩
  rcases Corners.exists_turns side with ⟨y, turns⟩
  rcases Corners.exists_turns side' with ⟨y', turns'⟩
  rcases turns_grid_iff.1 ⟨mem, turns⟩ with ⟨d, z, -, rfl, start, heads, -⟩
  rcases turns_grid_iff.1 ⟨mem', turns'⟩ with ⟨e, z', -, rfl, start', heads', -⟩
  have same : d.offset nx = e.offset nx := by omega
  rw [Heading.offset_inj columns] at same
  subst same
  have same' : z = z' := by omega
  exact other (by rw [same'])

/-- A closed cycle of arcs passes from heading to heading, all around the point. -/
theorem fanned_grid (columns : 0 < nx) : Fanned (gridTriangles nx ny) := by
  intro v c nonempty nodup chain x y arc
  have onward {w : Nat} {d : Heading} (mem : w ∈ c) (heads : (w : Int) = v + d.offset nx) :
      ∃ w', c.Adjacent w w' ∧ (w' : Int) = v + d.left.offset nx := by
    rcases Cycle.exists_adjacent mem with ⟨w', adjacent⟩
    rcases arc_iff.1 (chain.rel adjacent) with ⟨e, -, heads', heads''⟩
    have same : d.offset nx = e.offset nx := by omega
    rw [Heading.offset_inj columns] at same
    exact ⟨w', adjacent, same ▸ heads''⟩
  rcases arc_iff.1 arc with ⟨d, -, heads, heads'⟩
  have somewhere : ∃ (e : Heading) (w : Nat), w ∈ c ∧ (w : Int) = v + e.offset nx := by
    rcases Cycle.exists_mem nonempty with ⟨w, mem⟩
    rcases Cycle.exists_adjacent mem with ⟨w', adjacent⟩
    rcases arc_iff.1 (chain.rel adjacent) with ⟨e, -, start, -⟩
    exact ⟨e, w, mem, start⟩
  rcases somewhere with ⟨e, start⟩
  have everywhere := Heading.forall_of_left
    (p := fun d => ∃ w : Nat, w ∈ c ∧ (w : Int) = v + d.offset nx) (fun d ⟨w, mem, heads⟩ => by
      rcases onward mem heads with ⟨w', adjacent, heads'⟩
      exact ⟨w', adjacent.mem_right, heads'⟩) start d
  rcases everywhere with ⟨w, mem, same⟩
  rcases onward mem same with ⟨w', adjacent, same'⟩
  have first : w = x := by omega
  have second : w' = y := by omega
  rwa [first, second] at adjacent

/-- A grid can be built over as many points as it has. -/
theorem buildable_grid (columns : 0 < nx) {points : List Point}
    (enough : points.length = (ny + 1) * (nx + 1)) :
    Buildable ⟨points, gridTriangles nx ny⟩ where
  places t mem v corner := by
    rcases mem_gridTriangles.1 mem with ⟨_, ⟨i, j, column, row, rfl⟩, kind⟩
    have far : place nx (i + 1) (j + 1) < (ny + 1) * (nx + 1) := place_lt column row
    rw [place_succ_left, place_succ_right] at far
    rw [enough]
    rcases kind with rfl | rfl <;>
      rcases Corners.mem_toList.1 corner with rfl | rfl | rfl <;>
      simp only [lowerTriangle, upperTriangle] <;> omega
  corners t mem := nodup_corners_grid mem
  sides := nodup_sides_grid columns
  fanned := fanned_grid columns

/-! ## Rectangles -/

/-- A rectangle that is not empty is a grid. -/
theorem exists_rectangle {min max : Point} (columns : 0 < nx) (rows : 0 < ny)
    (wide : min.x < max.x) (high : min.y < max.y) :
    ∃ points : List Point, points.length = (ny + 1) * (nx + 1) ∧
      rectangle nx ny min max = .ok ⟨points, gridTriangles nx ny⟩ := by
  have cells : ¬ (nx = 0 ∨ ny = 0) := by omega
  rw [rectangle, if_neg cells, if_pos ⟨wide, high⟩]
  refine ⟨_, ?_, rfl⟩
  simp [List.length_flatMap]

/-! ## Connection -/

/-- What passes from triangle to triangle across their sides holds of all if it holds of the
first. -/
theorem forall_grid_of_shared {p : Corners Nat → Prop}
    (passes : ∀ t ∈ gridTriangles nx ny, ∀ t' ∈ gridTriangles nx ny, ∀ v x,
      (v, x) ∈ t.sides → (x, v) ∈ t'.sides → p t → p t')
    (first : p (lowerTriangle nx (place nx 0 0))) : ∀ t ∈ gridTriangles nx ny, p t := by
  have lower {i j : Nat} (column : i < nx) (row : j < ny) :
      lowerTriangle nx (place nx i j) ∈ gridTriangles nx ny :=
    mem_gridTriangles.2 ⟨_, ⟨i, j, column, row, rfl⟩, .inl rfl⟩
  have upper {i j : Nat} (column : i < nx) (row : j < ny) :
      upperTriangle nx (place nx i j) ∈ gridTriangles nx ny :=
    mem_gridTriangles.2 ⟨_, ⟨i, j, column, row, rfl⟩, .inr rfl⟩
  -- Within a cell the two triangles share the diagonal.
  have onto {i j : Nat} (column : i < nx) (row : j < ny)
      (holds : p (lowerTriangle nx (place nx i j))) : p (upperTriangle nx (place nx i j)) :=
    passes _ (lower column row) _ (upper column row) _ _
      (Corners.mem_sides.2 (.inr (.inr ⟨rfl, rfl⟩))) (Corners.mem_sides.2 (.inl ⟨rfl, rfl⟩)) holds
  have back {i j : Nat} (column : i < nx) (row : j < ny)
      (holds : p (upperTriangle nx (place nx i j))) : p (lowerTriangle nx (place nx i j)) :=
    passes _ (upper column row) _ (lower column row) _ _
      (Corners.mem_sides.2 (.inl ⟨rfl, rfl⟩)) (Corners.mem_sides.2 (.inr (.inr ⟨rfl, rfl⟩))) holds
  have above {i j : Nat} (column : i < nx) (row : j + 1 < ny)
      (holds : p (upperTriangle nx (place nx i j))) :
      p (lowerTriangle nx (place nx i (j + 1))) := by
    refine passes _ (upper column (Nat.lt_of_succ_lt row)) _ (lower column row) _ _
      (Corners.mem_sides.2 (.inr (.inl ⟨rfl, rfl⟩))) (Corners.mem_sides.2 (.inl ⟨?_, ?_⟩)) holds <;>
      simp only [upperTriangle, lowerTriangle, place_succ_right]
  have beside {i j : Nat} (column : i + 1 < nx) (row : j < ny)
      (holds : p (lowerTriangle nx (place nx i j))) :
      p (upperTriangle nx (place nx (i + 1) j)) := by
    refine passes _ (lower (Nat.lt_of_succ_lt column) row) _ (upper column row) _ _
      (Corners.mem_sides.2 (.inr (.inl ⟨rfl, rfl⟩)))
      (Corners.mem_sides.2 (.inr (.inr ⟨?_, rfl⟩))) holds
    simp only [upperTriangle, lowerTriangle, place_succ_left]
    omega
  have column {j : Nat} (columns : 0 < nx) (row : j < ny) :
      p (lowerTriangle nx (place nx 0 j)) := by
    induction j with
    | zero => exact first
    | succ j inductionHypothesis =>
      have before := Nat.lt_of_succ_lt row
      exact above columns row (onto columns before (inductionHypothesis before))
  have everywhere {i j : Nat} (bound : i < nx) (row : j < ny) :
      p (lowerTriangle nx (place nx i j)) := by
    induction i with
    | zero => exact column bound row
    | succ i inductionHypothesis =>
      exact back bound row (beside bound row (inductionHypothesis (Nat.lt_of_succ_lt bound)))
  intro t mem
  rcases mem_gridTriangles.1 mem with ⟨_, ⟨i, j, bound, row, rfl⟩, rfl | rfl⟩
  · exact everywhere bound row
  · exact onto bound row (everywhere bound row)

end TriangleList

end PlanarMesh
