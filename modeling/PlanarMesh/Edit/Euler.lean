import PlanarMesh.Edit.Splice

/-!
# Elementary edits

Adding and removing nodes, edges and faces, one at a time.  Each edit checks its arguments
first, then splices, and ends with a journal entry and the check of the mesh's invariants.
Removing a record first removes what stands on it: a node its edges, an edge its faces.
-/

namespace PlanarMesh

namespace Edit

/-! ## Nodes and faces -/

/-- Add an isolated node. -/
def addNode (position : Point) : Edit NodeId := do
  let n ← insertNode ⟨position, none⟩
  invalidateCache
  record (.addNode n position)
  return n

/-- Remove a face.  Its half-edges become boundary half-edges and stay where they are. -/
def removeFace (f : FaceId) : Edit Unit := do
  let h := (← query fun m => m.face f).halfedge
  let following ← query fun m => m.next h
  let preceding ← query fun m => m.prev h
  setFace h none
  setFace following none
  setFace preceding none
  let _ ← dropFace f
  record (.removeFace f)
  checkAfter .removeFace

/-- Refuse half-edges that border a face already. -/
def requireFree (h : HalfedgeId) : Edit Unit := do
  unless ← query fun m => m.isBoundary h do
    refuse (.addFace .notFree)

/-- Refuse half-edges of which the second does not start where the first ends. -/
def requireChained (h g : HalfedgeId) : Edit Unit := do
  unless (← query fun m => m.target h) = (← query fun m => m.origin g) do
    refuse (.addFace .notAChain)

/-- Make `out` follow `incoming` as two sides of a new face. -/
def mergeCorner (incoming out : HalfedgeId) : Edit Unit :=
  onRefusal (mergeAdjacent incoming out) fun
    | .topology _ => refuse (.addFace .nonManifold)
    | error => refuse error

/-- Add the face with the sides `h₁`, `h₂`, `h₃`.  They must border no face yet, and each
must end where the next one starts. -/
def addFace (h₁ h₂ h₃ : HalfedgeId) : Edit FaceId := do
  requireFree h₁
  requireFree h₂
  requireFree h₃
  requireChained h₁ h₂
  requireChained h₂ h₃
  requireChained h₃ h₁
  mergeCorner h₁ h₂
  mergeCorner h₂ h₃
  mergeCorner h₃ h₁
  let f ← insertFace ⟨h₁⟩
  setFace h₁ (some f)
  setFace h₂ (some f)
  setFace h₃ (some f)
  record (.addFace f h₁ h₂ h₃)
  checkAfter .addFace
  return f

/-! ## Edges -/

/-- Attach one side of a new edge.  If it cannot be attached, take back what was done. -/
def attachSide (h : HalfedgeId) (n : NodeId) (takeBack : Edit Unit) : Edit Unit :=
  onRefusal (attach h n) fun error => do
    takeBack
    match error with
    | .topology cause => refuse (.attachToCompleteMesh cause)
    | error => refuse error

/-- Connect two nodes by a new edge and answer the half-edge that leaves the first. -/
def addEdge (n₁ n₂ : NodeId) : Edit HalfedgeId := do
  let _ ← query fun m => m.node n₁
  let _ ← query fun m => m.node n₂
  if n₁ = n₂ then refuse (.selfLoop n₁)
  let e ← insertEdge n₁ n₂
  attachSide e.first n₁ do
    let _ ← dropEdge e
  attachSide e.second n₂ do
    detach e.first
    let _ ← dropEdge e
  record (.addEdge e n₁ n₂)
  checkAfter .addEdge
  return e.first

/-- Remove the face that a half-edge borders, if any. -/
def removeFaceAt (h : HalfedgeId) : Edit Unit := do
  match ← query fun m => m.faceOf h with
  | none => return
  | some f => removeFace f

/-- Remove an edge, and first the faces on its sides. -/
def removeEdge (e : EdgeId) : Edit Unit := do
  let _ ← query fun m => m.edge e
  removeFaceAt e.first
  removeFaceAt e.second
  detach e.first
  detach e.second
  let _ ← dropEdge e
  record (.removeEdge e)
  checkAfter .removeEdge

/-- Remove the edges at a node, one representative after the other, and count them.  Every
round drops an edge, so more rounds than there are edges are never needed. -/
def removeEdgesAt (n : NodeId) : Nat → Edit Nat
  | 0 => return 0
  | rounds + 1 => do
    match (← query fun m => m.node n).halfedge with
    | none => return 0
    | some h =>
      removeEdge h.edge
      return (← removeEdgesAt n rounds) + 1

/-- Remove a node with its edges and the faces that these border. -/
def removeNode (n : NodeId) : Edit Unit := do
  let rounds := (← get).mesh.edgeCount + 1
  let removed ← removeEdgesAt n rounds
  let _ ← dropNode n
  invalidateCache
  record (.removeNode n removed)
  checkAfter .removeNode

/-! ## Triangles -/

/-- The half-edge between two nodes, and the edge it belongs to if it had to be added. -/
def findOrAddEdge (n₁ n₂ : NodeId) : Edit (HalfedgeId × List EdgeId) := do
  match ← query fun m => m.findHalfedge n₁ n₂ with
  | some h => return (h, [])
  | none =>
    let h ← addEdge n₁ n₂
    return (h, [h.edge])

/-- Run an edit; if it is refused, remove the given edges before passing the refusal on. -/
def undoing {α : Type} (added : List EdgeId) (edit : Edit α) : Edit α :=
  onRefusal edit fun error => do
    added.forM removeEdge
    refuse error

/-- Add the triangle between three nodes.  Edges that are already there are used, missing
ones are added, and removed again, the last one first, if the triangle is refused. -/
def addTriangle (a b c : NodeId) : Edit FaceId := do
  let (h₁, added₁) ← findOrAddEdge a b
  let (h₂, added₂) ← undoing added₁ (findOrAddEdge b c)
  let (h₃, added₃) ← undoing (added₂ ++ added₁) (findOrAddEdge c a)
  undoing (added₃ ++ added₂ ++ added₁) (addFace h₁ h₂ h₃)

end Edit

end PlanarMesh
