import PlanarMesh.Mesh.Incidence

/-!
# Validity

`checkTopology` decides whether the records of a mesh fit together as half-edges of a
triangulated surface; it answers with the first violation that it meets.  The pointer checks
are always made; the walks around nodes and faces can be switched off.

`checkWinding` asks in addition that every face runs counter-clockwise.  It needs an
orientation kernel, and it can also be told merely to list the offending faces.
-/

namespace PlanarMesh

/-- What to do about faces that are not counter-clockwise. -/
inductive WindingPolicy where
  | ignore
  /-- Report each of them and go on. -/
  | warn
  /-- Refuse the mesh at the first of them. -/
  | refuse
deriving DecidableEq

/-- Which checks to make beyond the pointer checks. -/
structure ValidationOptions where
  /-- Walk around every node, and require the walks to close and to cover all half-edges. -/
  incidenceCycles : Bool := true
  /-- Walk around every face, and require triangles whose half-edges report the face. -/
  faceLoops : Bool := true
  winding : WindingPolicy := .ignore
deriving DecidableEq

namespace ValidationOptions

/-- All checks of the structure, none of the winding. -/
def topology : ValidationOptions :=
  {}

/-- All checks, and every face must be counter-clockwise. -/
def all : ValidationOptions :=
  { winding := .refuse }

/-- Only the checks of single pointers. -/
def pointersOnly : ValidationOptions :=
  { incidenceCycles := false, faceLoops := false }

end ValidationOptions

namespace Mesh

/-! ## Pointers -/

/-- The representative half-edge of a node, if it has one, is live and starts there. -/
def checkRepresentative (m : Mesh) (n : NodeId) : Except MeshError Unit := do
  match (← m.node n).halfedge with
  | none => return
  | some h =>
    match m.halfedge? h with
    | none => violated (.representativeDead n h)
    | some record =>
      require (record.origin = n) (.representativeElsewhere n h record.origin)

/-- The pointers of a half-edge are live, `next` and `prev` are inverse to each other at it,
and the half-edge after it starts where it ends. -/
def checkHalfedge (m : Mesh) (h : HalfedgeId) : Except MeshError Unit := do
  let record ← m.halfedge h
  require (m.containsNode record.origin) (.originDead h record.origin)
  require (m.containsHalfedge record.next) (.pointerDead h .next record.next)
  require (m.containsHalfedge record.prev) (.pointerDead h .prev record.prev)
  require ((← m.next record.prev) = h) (.nextOfPrev h)
  require ((← m.prev record.next) = h) (.prevOfNext h)
  require ((← m.origin record.next) = (← m.target h)) (.nextStartsElsewhere h)
  match record.face with
  | none => return
  | some f => require (m.containsFace f) (.faceDead h f)

/-! ## Incidence cycles -/

/-- The number of half-edges from `h` on around the node `n` up to the return to `start`,
if every one of them starts at `n` and the fuel suffices to get back. -/
def cycleLength (m : Mesh) (n : NodeId) (start : HalfedgeId) :
    Nat → HalfedgeId → Except MeshError Nat
  | 0, _ => violated (.cycleOpen n)
  | fuel + 1, h => do
    require ((← m.origin h) = n) (.cycleLeavesNode n h)
    let following ← m.next h.pair
    if following = start then return 1
    return (← cycleLength m n start fuel following) + 1

/-- The number of half-edges around a node.  A cycle longer than the number of all
half-edges does not close. -/
def checkIncidenceCycle (m : Mesh) (n : NodeId) : Except MeshError Nat := do
  match (← m.node n).halfedge with
  | none => return 0
  | some start => cycleLength m n start (m.halfedgeCount + 1) start

/-! ## Face loops -/

/-- One step along the loop of a face: the half-edge after `h`, if `h` reports the face. -/
def checkFaceStep (m : Mesh) (f : FaceId) (step : Nat) (h : HalfedgeId) :
    Except MeshError HalfedgeId := do
  match m.halfedge? h with
  | none => violated (.faceLoopDead f h)
  | some record =>
    require (record.face = some f) (.faceLoopReports h step f record.face)
    return record.next

/-- Three steps from the half-edge of a face stay on half-edges of that face and lead back. -/
def checkFaceLoop (m : Mesh) (f : FaceId) : Except MeshError Unit := do
  let h₁ := (← m.face f).halfedge
  let h₂ ← m.checkFaceStep f 0 h₁
  let h₃ ← m.checkFaceStep f 1 h₂
  let back ← m.checkFaceStep f 2 h₃
  require (back = h₁) (.faceNotTriangle f)

/-- The number of half-edges that report a face. -/
def facedCount (m : Mesh) : Nat :=
  m.halfedgeIds.countP fun h => (m.halfedge? h).any fun record => record.face.isSome

/-! ## The whole mesh -/

/-- The cycles around all nodes close and together pass every half-edge once. -/
def checkIncidenceCycles (m : Mesh) : Except MeshError Unit := do
  let lengths ← m.nodeIds.mapM m.checkIncidenceCycle
  let total := lengths.foldl (· + ·) 0
  require (total = m.halfedgeCount) (.cyclesCover total m.halfedgeCount)

/-- The loops of all faces are triangles, and no other half-edge reports a face. -/
def checkFaceLoops (m : Mesh) : Except MeshError Unit := do
  m.faceIds.forM m.checkFaceLoop
  require (m.facedCount = 3 * m.faceCount) (.facedCount m.facedCount (3 * m.faceCount))

/-- Check how the records refer to each other. -/
def checkTopology (m : Mesh) (options : ValidationOptions) : Except MeshError Unit := do
  m.nodeIds.forM m.checkRepresentative
  m.halfedgeIds.forM m.checkHalfedge
  if options.incidenceCycles then m.checkIncidenceCycles
  if options.faceLoops then m.checkFaceLoops

/-- The checks that a mesh must pass to be loaded and after every edit. -/
def checkInvariants (m : Mesh) : Except MeshError Unit :=
  m.checkTopology .topology

/-! ## Winding -/

/-- The orientation of a face, as a kernel sees it. -/
def faceOrientation (m : Mesh) (kernel : Kernel) (f : FaceId) :
    Except MeshError OrientedSide := do
  let t ← m.facePositions f
  return kernel.triangleOrientation t.a t.b t.c

/-- Under the refusing policy, the face must be counter-clockwise; under any policy, its
corners must be readable. -/
def checkFaceWinding (m : Mesh) (kernel : Kernel) (policy : WindingPolicy) (f : FaceId) :
    Except MeshError Unit := do
  let side ← m.faceOrientation kernel f
  require (side = .positive || policy ≠ .refuse) (.faceWinding f side)

/-- The winding of all faces, unless winding is ignored. -/
def checkWinding (m : Mesh) (kernel : Kernel) (policy : WindingPolicy) :
    Except MeshError Unit :=
  if policy = .ignore then .ok ()
  else m.faceIds.forM (m.checkFaceWinding kernel policy)

/-- Check how the records refer to each other and, if asked for, the winding of the faces. -/
def check (m : Mesh) (kernel : Kernel) (options : ValidationOptions) :
    Except MeshError Unit := do
  m.checkTopology options
  m.checkWinding kernel options.winding

/-- The faces that are not counter-clockwise, with their orientations, among those before
the first face whose corners cannot be read. -/
def misorientedFaces (m : Mesh) (kernel : Kernel) : List (FaceId × OrientedSide) :=
  m.faceIds.map (fun f => (f, m.faceOrientation kernel f))
    |>.takeWhile (fun entry => entry.2.toBool)
    |>.filterMap fun entry =>
      match entry.2 with
      | .ok side => if side = .positive then none else some (entry.1, side)
      | .error _ => none

end Mesh

end PlanarMesh
