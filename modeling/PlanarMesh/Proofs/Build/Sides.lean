import Mathlib.Data.List.Nodup
import PlanarMesh.Edit.Build
import PlanarMesh.Proofs.CyclicOrder

/-!
# Triangle lists that can be built

A list of triangles over places in a list of points is judged without any mesh.  Each triangle
has three directed sides, and at each of its corners it makes an arc: it leads from the corner
after to the one before (`Arc`).  What can be built are the lists whose triangles have three
different corners, whose directed sides do not repeat, and in which no arc at a place lies off a
closed cycle of arcs at it (`Buildable`).

None of this depends on the order of the triangles (`Buildable.of_perm`), and what starts a list
that can be built can be built as well (`Fanned.of_append`).
-/

namespace PlanarMesh

namespace Corners

/-- The directed sides, in loop order. -/
def sides (t : Corners Nat) : List (Nat × Nat) :=
  [(t.a, t.b), (t.b, t.c), (t.c, t.a)]

/-- Read from a suitable corner on, the triangle is `v`, `x`, `y`. -/
def Turns (t : Corners Nat) (v x y : Nat) : Prop :=
  t = ⟨v, x, y⟩ ∨ t.rotate = ⟨v, x, y⟩ ∨ t.rotate.rotate = ⟨v, x, y⟩

variable {t : Corners Nat} {u v x y y' : Nat}

theorem turns_iff : t.Turns v x y ↔ v = t.a ∧ x = t.b ∧ y = t.c ∨
    v = t.b ∧ x = t.c ∧ y = t.a ∨ v = t.c ∧ x = t.a ∧ y = t.b := by
  cases t
  simp only [Turns, rotate, Corners.mk.injEq, eq_comm]

theorem mem_sides : (v, x) ∈ t.sides ↔ v = t.a ∧ x = t.b ∨ v = t.b ∧ x = t.c ∨
    v = t.c ∧ x = t.a := by
  simp [sides]

theorem Turns.rotate (turns : t.Turns v x y) : t.Turns x y v := by
  rw [turns_iff] at *
  tauto

theorem Turns.side (turns : t.Turns v x y) : (v, x) ∈ t.sides := by
  rw [turns_iff] at turns
  rw [mem_sides]
  tauto

theorem exists_turns (side : (v, x) ∈ t.sides) : ∃ y, t.Turns v x y := by
  simp only [turns_iff]
  rcases mem_sides.1 side with ⟨rfl, rfl⟩ | ⟨rfl, rfl⟩ | ⟨rfl, rfl⟩
  · exact ⟨t.c, .inl ⟨rfl, rfl, rfl⟩⟩
  · exact ⟨t.a, .inr (.inl ⟨rfl, rfl, rfl⟩)⟩
  · exact ⟨t.b, .inr (.inr ⟨rfl, rfl, rfl⟩)⟩

/-- A triangle whose sides do not repeat makes one arc at each corner. -/
theorem Turns.unique (turns : t.Turns v x y) (turns' : t.Turns v x y') (nodup : t.sides.Nodup) :
    y = y' := by
  rw [turns_iff] at turns turns'
  simp [sides] at nodup
  omega

theorem nodup_iff : t.toList.Nodup ↔ t.a ≠ t.b ∧ t.b ≠ t.c ∧ t.c ≠ t.a := by
  simp [toList, @eq_comm _ t.c]
  tauto

theorem nodup_sides (nodup : t.toList.Nodup) : t.sides.Nodup := by
  rw [nodup_iff] at nodup
  simp [sides]
  omega

end Corners

namespace TriangleList

variable {triangles more triangles' : List (Corners Nat)} {v x y y' : Nat}

/-- The directed sides of all triangles. -/
def sides (triangles : List (Corners Nat)) : List (Nat × Nat) :=
  triangles.flatMap Corners.sides

/-- Some triangle is `v`, `x`, `y` up to rotation. -/
def Arc (triangles : List (Corners Nat)) (v x y : Nat) : Prop :=
  ∃ t ∈ triangles, t.Turns v x y

/-- The border leads from `v` to `x`, with a triangle to the right and none to the left. -/
def Exit (triangles : List (Corners Nat)) (v x : Nat) : Prop :=
  (x, v) ∈ sides triangles ∧ (v, x) ∉ sides triangles

/-- A closed cycle of arcs at a place contains all arcs at it. -/
def Fanned (triangles : List (Corners Nat)) : Prop :=
  ∀ (v : Nat) (c : Cycle Nat), c ≠ Cycle.nil → c.Nodup → c.Chain (Arc triangles v) →
    ∀ x y, Arc triangles v x y → c.Adjacent x y

/-- The list can be built. -/
structure Buildable (list : TriangleList) : Prop where
  places : ∀ t ∈ list.triangles, ∀ v ∈ t.toList, v < list.points.length
  corners : ∀ t ∈ list.triangles, t.toList.Nodup
  sides : (sides list.triangles).Nodup
  fanned : Fanned list.triangles

/-! ## Arcs and sides -/

theorem sides_append : sides (triangles ++ more) = sides triangles ++ sides more :=
  List.flatMap_append

theorem sides_concat (t : Corners Nat) : sides (triangles ++ [t]) = sides triangles ++ t.sides := by
  simp [sides]

namespace Arc

theorem rotate (arc : Arc triangles v x y) : Arc triangles x y v :=
  arc.imp fun _ member => ⟨member.1, member.2.rotate⟩

theorem side (arc : Arc triangles v x y) : (v, x) ∈ sides triangles := by
  rcases arc with ⟨t, mem, turns⟩
  exact List.mem_flatMap.2 ⟨t, mem, turns.side⟩

/-- The third side of the triangle leads back to the corner. -/
theorem side_back (arc : Arc triangles v x y) : (y, v) ∈ sides triangles :=
  arc.rotate.rotate.side

theorem append_left (arc : Arc triangles v x y) : Arc (triangles ++ more) v x y := by
  rcases arc with ⟨t, mem, turns⟩
  exact ⟨t, List.mem_append_left more mem, turns⟩

end Arc

theorem arc_concat_iff {t : Corners Nat} :
    Arc (triangles ++ [t]) v x y ↔ Arc triangles v x y ∨ t.Turns v x y := by
  simp [Arc, or_and_right, exists_or]

theorem arc_concat_self (triangles : List (Corners Nat)) (t : Corners Nat) :
    Arc (triangles ++ [t]) t.a t.b t.c :=
  ⟨t, by simp, .inl rfl⟩

theorem exists_arc (side : (v, x) ∈ sides triangles) : ∃ y, Arc triangles v x y := by
  rcases List.mem_flatMap.1 side with ⟨t, mem, side⟩
  rcases Corners.exists_turns side with ⟨y, turns⟩
  exact ⟨y, t, mem, turns⟩

/-- A side is a side of one triangle if sides do not repeat. -/
theorem eq_of_mem_sides {s : Nat × Nat} {t t' : Corners Nat} (nodup : (sides triangles).Nodup)
    (mem : t ∈ triangles) (mem' : t' ∈ triangles) (side : s ∈ t.sides) (side' : s ∈ t'.sides) :
    t = t' := by
  by_contra other
  have symmetric : Std.Symm (Function.onFun List.Disjoint Corners.sides) :=
    ⟨fun _ _ apart => apart.symm⟩
  exact (List.nodup_flatMap.1 nodup).2.forall mem mem' other side side'

/-- At most one arc starts at each place if sides do not repeat. -/
theorem Arc.unique (arc : Arc triangles v x y) (arc' : Arc triangles v x y')
    (nodup : (sides triangles).Nodup) : y = y' := by
  rcases arc with ⟨t, mem, turns⟩
  rcases arc' with ⟨t', mem', turns'⟩
  cases eq_of_mem_sides nodup mem mem' turns.side turns'.side
  exact turns.unique turns' ((List.nodup_flatMap.1 nodup).1 t mem)

/-! ## Order and parts of the list -/

theorem Fanned.of_append (fanned : Fanned (triangles ++ more)) : Fanned triangles :=
  fun v c nonempty nodup chain x y arc =>
    fanned v c nonempty nodup (chain.imp fun _ _ => Arc.append_left) x y arc.append_left

theorem arc_congr (same : triangles.Perm triangles') :
    Arc triangles v x y ↔ Arc triangles' v x y :=
  exists_congr fun _ => and_congr_left' same.mem_iff

theorem Buildable.of_perm {points : List Point} (same : triangles.Perm triangles')
    (buildable : Buildable ⟨points, triangles⟩) : Buildable ⟨points, triangles'⟩ where
  places t mem := buildable.places t (same.mem_iff.2 mem)
  corners t mem := buildable.corners t (same.mem_iff.2 mem)
  sides := (same.flatMap_right Corners.sides).nodup_iff.1 buildable.sides
  fanned v c nonempty nodup chain x y arc :=
    buildable.fanned v c nonempty nodup (chain.imp fun _ _ => (arc_congr same).2) x y
      ((arc_congr same).2 arc)

theorem buildable_iff_of_perm {points : List Point} (same : triangles.Perm triangles') :
    Buildable ⟨points, triangles⟩ ↔ Buildable ⟨points, triangles'⟩ :=
  ⟨.of_perm same, .of_perm same.symm⟩

/-! ## Defects -/

theorem defect?_eq_none_iff {points place : Nat} {t : Corners Nat} :
    defect? points place t = none ↔ (∀ v ∈ t.toList, v < points) ∧ t.toList.Nodup := by
  unfold defect?
  cases found : t.toList.find? fun v => points ≤ v with
  | some v =>
    have missing : points ≤ v := by simpa using List.find?_some found
    have mem := List.mem_of_find?_eq_some found
    constructor
    · intro impossible
      cases impossible
    · intro good
      exact absurd (good.1 v mem) (Nat.not_lt.2 missing)
  | none =>
    have bounds : ∀ v ∈ t.toList, v < points := by simpa using found
    rw [and_iff_right bounds, Corners.nodup_iff]
    simp only [ite_eq_right_iff, reduceCtorEq, imp_false, not_or, ne_eq]

/-- Nothing is wrong with a list whose triangles have three different points as corners. -/
theorem firstDefect?_eq_none_iff {list : TriangleList} : list.firstDefect? = none ↔
    ∀ t ∈ list.triangles, (∀ v ∈ t.toList, v < list.points.length) ∧ t.toList.Nodup := by
  simp only [firstDefect?, List.findSome?_eq_none_iff, defect?_eq_none_iff]
  constructor
  · intro whole t mem
    rcases List.mem_iff_getElem?.1 mem with ⟨place, here⟩
    exact whole (t, place) (List.mem_zipIdx_iff_getElem?.2 here)
  · rintro whole ⟨t, place⟩ mem
    exact whole t (List.mem_of_getElem? (List.mem_zipIdx_iff_getElem?.1 mem))

end TriangleList

end PlanarMesh
