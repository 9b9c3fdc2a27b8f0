import PlanarMesh.Edit.Euler

/-!
# Refinement

Splitting an edge or a face by a new node.  The triangles around the split element are
replaced by smaller ones with the winding of those they replace.  No orientation is asked
for, and the position of the new node is taken as given.

```text
  splitEdge                           splitFace

        n₃                                c
       /  \                             / | \
      /    \                           /  |  \
    n₁--x--n₂                         /   x   \
      \    /                         /  /   \  \
       \  /                         a ---------- b
        n₄
```
-/

namespace PlanarMesh

/-- A triangle at an edge that is about to be split, seen from the edge. -/
structure Wing where
  /-- The half-edge after the split one. -/
  next : HalfedgeId
  /-- The half-edge before the split one. -/
  prev : HalfedgeId
  /-- The corner opposite the split one. -/
  apex : NodeId

/-- The triangle that `h` borders, if any. -/
def Mesh.wing (m : Mesh) (h : HalfedgeId) : Except MeshError (Option Wing) := do
  if ← m.isBoundary h then return none
  let prev ← m.prev h
  let next ← m.next h
  let apex ← m.origin prev
  return some ⟨next, prev, apex⟩

namespace Edit

/-- Replace a wing by two triangles around the new node; `toStart` and `toEnd` lead from the
new node to where the split half-edge started and ended. -/
def splitWing (n : NodeId) (toStart toEnd : HalfedgeId) : Option Wing → Edit Unit
  | none => return
  | some wing => do
    let toApex ← addEdge n wing.apex
    let _ ← addFace toEnd wing.next toApex.pair
    let _ ← addFace toApex wing.prev toStart.pair

/-- Put a new node on an edge.  The edge becomes two, and so does each triangle at it. -/
def splitEdge (e : EdgeId) (position : Point) : Edit NodeId := do
  let n₁ ← query fun m =>
    match m.halfedge? e.first with
    | none => .error (.invalidEdge e)
    | some record => .ok record.origin
  let n₂ ← query fun m => m.origin e.second
  let left ← query fun m => m.wing e.first
  let right ← query fun m => m.wing e.second
  removeEdge e
  let n ← addNode position
  let to₁ ← addEdge n n₁
  let to₂ ← addEdge n n₂
  splitWing n to₁ to₂ left
  splitWing n to₂ to₁ right
  record (.splitEdge e n ([left, right].countP Option.isSome))
  checkAfter .splitEdge
  return n

/-- Put a new node into a face, which becomes three. -/
def splitFace (f : FaceId) (position : Point) : Edit NodeId := do
  let h₁ := (← query fun m => m.face f).halfedge
  let h₂ ← query fun m => m.next h₁
  let h₃ ← query fun m => m.prev h₁
  let a ← query fun m => m.origin h₁
  let b ← query fun m => m.origin h₂
  let c ← query fun m => m.origin h₃
  removeFace f
  let n ← addNode position
  let toA ← addEdge n a
  let toB ← addEdge n b
  let toC ← addEdge n c
  let f₁ ← addFace toA h₁ toB.pair
  let f₂ ← addFace toB h₂ toC.pair
  let f₃ ← addFace toC h₃ toA.pair
  record (.splitFace f n f₁ f₂ f₃)
  checkAfter .splitFace
  return n

end Edit

end PlanarMesh
