/-!
# Corners

What belongs to the three corners, or the three sides, of a triangle.
-/

namespace PlanarMesh

/-- Three things around a triangle, in loop order. -/
structure Corners (α : Type) where
  a : α
  b : α
  c : α
deriving DecidableEq

namespace Corners

variable {α β ε : Type}

/-- The three, in loop order. -/
def toList (t : Corners α) : List α :=
  [t.a, t.b, t.c]

/-- Apply a function at each corner. -/
def map (f : α → β) (t : Corners α) : Corners β :=
  ⟨f t.a, f t.b, f t.c⟩

/-- Apply a fallible function, corner by corner. -/
def mapM (f : α → Except ε β) (t : Corners α) : Except ε (Corners β) :=
  return ⟨← f t.a, ← f t.b, ← f t.c⟩

/-- The same triangle, read from its next corner on. -/
def rotate (t : Corners α) : Corners α :=
  ⟨t.b, t.c, t.a⟩

@[simp]
theorem mem_toList {x : α} {t : Corners α} : x ∈ t.toList ↔ x = t.a ∨ x = t.b ∨ x = t.c := by
  simp [toList]

end Corners

end PlanarMesh
