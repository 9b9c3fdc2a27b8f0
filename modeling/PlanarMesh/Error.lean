import PlanarMesh.Geometry.Orientation
import PlanarMesh.Handle

/-!
# Errors

Everything a query or an edit of a mesh can be refused for, each cause a constructor, and
the one wording of each cause in `MeshError.message`.  Broken invariants are causes of their
own (`Violation`), since the validity checks tell many of them apart.

A `Fault` is how an edit ends early: it was refused, or it ran to its end and the check of
the mesh's invariants that follows every edit failed.
-/

namespace PlanarMesh

/-- A splice would need a non-manifold configuration. -/
inductive TopologyError where
  /-- Every half-edge that arrives at the node borders a face. -/
  | noFreeSlot (node : NodeId)
deriving DecidableEq

/-- The wording of a failed splice. -/
def TopologyError.message : TopologyError → String
  | noFreeSlot node => s!"bad topology: no free incident half-edge at node {node}"

/-- Why three half-edges were refused as the sides of a face. -/
inductive AddFaceReason where
  | notFree
  | notAChain
  | nonManifold
deriving DecidableEq

/-- The wording of a refused face, without its introduction. -/
def AddFaceReason.message : AddFaceReason → String
  | notFree => "half-edges are not free"
  | notAChain => "half-edges do not form a chain"
  | nonManifold => "attempting to create a non-manifold mesh"

/-- Input from outside the mesh that makes no sense. -/
inductive InputError where
  | missingVertex (triangle vertex : Nat)
  | repeatedVertex (triangle a b c : Nat)
  | noCells
  | emptyRectangle (min max : Point)
  | facedHalfedge (h : HalfedgeId)
deriving DecidableEq

/-- The wording of senseless input, without its introduction. -/
def InputError.message : InputError → String
  | missingVertex t v => s!"triangle {t} references missing vertex {v}"
  | repeatedVertex t a b c => s!"triangle {t} repeats a vertex: [{a}, {b}, {c}]"
  | noCells => "nx and ny must be positive"
  | emptyRectangle min max => s!"empty rectangle [{min}, {max}]"
  | facedHalfedge h => s!"half-edge {h} borders a face"

/-- The two pointers along a loop of half-edges. -/
inductive LoopPointer where
  | next
  | prev
deriving DecidableEq

/-- The pointer as messages call it. -/
def LoopPointer.name : LoopPointer → String
  | next => "next"
  | prev => "prev"

/-- A structural invariant that does not hold. -/
inductive Violation where
  | representativeDead (n : NodeId) (h : HalfedgeId)
  | representativeElsewhere (n : NodeId) (h : HalfedgeId) (origin : NodeId)
  | originDead (h : HalfedgeId) (origin : NodeId)
  | pointerDead (h : HalfedgeId) (pointer : LoopPointer) (other : HalfedgeId)
  | nextOfPrev (h : HalfedgeId)
  | prevOfNext (h : HalfedgeId)
  | nextStartsElsewhere (h : HalfedgeId)
  | faceDead (h : HalfedgeId) (f : FaceId)
  | cycleLeavesNode (n : NodeId) (h : HalfedgeId)
  | cycleOpen (n : NodeId)
  | cyclesCover (covered total : Nat)
  | faceLoopDead (f : FaceId) (h : HalfedgeId)
  | faceLoopReports (h : HalfedgeId) (step : Nat) (f : FaceId) (reported : Option FaceId)
  | faceNotTriangle (f : FaceId)
  | facedCount (faced expected : Nat)
  | faceWinding (f : FaceId) (side : OrientedSide)
  | searchAtIsolated (n : NodeId)
  | searchOpen (n : NodeId)
  | walkAtBoundary (h : HalfedgeId)
  | boundaryLoopFaced (start h : HalfedgeId)
deriving DecidableEq

/-- The wording of a violation, without its introduction. -/
def Violation.message : Violation → String
  | representativeDead n h => s!"node {n} points at dead half-edge {h}"
  | representativeElsewhere n h origin => s!"node {n} representative {h} starts at {origin}"
  | originDead h origin => s!"half-edge {h} starts at dead node {origin}"
  | pointerDead h pointer other => s!"half-edge {h} has dead {pointer.name} {other}"
  | nextOfPrev h => s!"next(prev({h})) != {h}"
  | prevOfNext h => s!"prev(next({h})) != {h}"
  | nextStartsElsewhere h => s!"half-edge {h}: next starts away from the twin's origin"
  | faceDead h f => s!"half-edge {h} reports dead face {f}"
  | cycleLeavesNode n h =>
    s!"incidence cycle of node {n} reaches {h}, which starts elsewhere"
  | cycleOpen n => s!"incidence cycle of node {n} does not close"
  | cyclesCover covered total => s!"incidence cycles cover {covered} of {total} half-edges"
  | faceLoopDead f h => s!"face {f} loop reaches dead half-edge {h}"
  | faceLoopReports h step f reported =>
    let found := match reported with
      | none => "None"
      | some g => s!"Some({g.tagged})"
    s!"half-edge {h} at step {step} of face {f} reports {found}"
  | faceNotTriangle f => s!"face {f} is not a triangle"
  | facedCount faced expected => s!"{faced} half-edges report a face, expected {expected}"
  | faceWinding f side => s!"face {f} is not counter-clockwise ({side.name})"
  | searchAtIsolated n => s!"free-slot search at isolated node {n}"
  | searchOpen n => s!"incidence cycle at node {n} does not close"
  | walkAtBoundary h => s!"point location walked into boundary half-edge {h}"
  | boundaryLoopFaced start h => s!"boundary loop through {start} reaches faced half-edge {h}"

/-- Why a query or an edit was refused. -/
inductive MeshError where
  | invalidNode (n : NodeId)
  | invalidHalfedge (h : HalfedgeId)
  | invalidEdge (e : EdgeId)
  | invalidFace (f : FaceId)
  /-- An edge was to connect a node with itself. -/
  | selfLoop (n : NodeId)
  | topology (cause : TopologyError)
  /-- A new edge found no room at one of its end nodes. -/
  | attachToCompleteMesh (cause : TopologyError)
  | addFace (reason : AddFaceReason)
  /-- Point location had no face to start from. -/
  | noFaces
  | walkExhausted (steps : Nat)
  | invalidInput (cause : InputError)
  | invariantViolation (cause : Violation)
deriving DecidableEq

namespace MeshError

/-- The name of the kind of error. -/
def kindName : MeshError → String
  | invalidNode _ => "InvalidNode"
  | invalidHalfedge _ => "InvalidHalfedge"
  | invalidEdge _ => "InvalidEdge"
  | invalidFace _ => "InvalidFace"
  | selfLoop _ => "SelfLoop"
  | topology _ => "Topology"
  | attachToCompleteMesh _ => "AttachToCompleteMesh"
  | addFace _ => "AddFace"
  | noFaces => "NoFaces"
  | walkExhausted _ => "WalkExhausted"
  | invalidInput _ => "InvalidInput"
  | invariantViolation _ => "InvariantViolation"

/-- The whole message of an error. -/
def message : MeshError → String
  | invalidNode n => s!"invalid node handle {n}"
  | invalidHalfedge h => s!"invalid half-edge handle {h}"
  | invalidEdge e => s!"invalid edge handle {e}"
  | invalidFace f => s!"invalid face handle {f}"
  | selfLoop n => s!"edge endpoints must differ (self-loop at node {n})"
  | topology cause => cause.message
  | attachToCompleteMesh cause =>
    s!"trying to attach an edge to a complete mesh: {cause.message}"
  | addFace reason => s!"cannot add face: {reason.message}"
  | noFaces => "point location requires a mesh with at least one face"
  | walkExhausted steps => s!"point location did not terminate within {steps} steps"
  | invalidInput cause => s!"invalid input: {cause.message}"
  | invariantViolation cause => s!"invariant violated: {cause.message}"

end MeshError

/-- A record that was found, or the error for its absence. -/
def orInvalid {α : Type} (error : MeshError) : Option α → Except MeshError α
  | some record => .ok record
  | none => .error error

/-- Refuse because of a violated invariant. -/
def violated {α : Type} (cause : Violation) : Except MeshError α :=
  .error (.invariantViolation cause)

/-- Refuse unless the condition holds. -/
def require (condition : Bool) (cause : Violation) : Except MeshError Unit :=
  if condition then .ok () else violated cause

@[simp]
theorem orInvalid_eq_ok_iff {α : Type} {error : MeshError} {found : Option α} {record : α} :
    orInvalid error found = .ok record ↔ found = some record := by
  cases found <;> simp [orInvalid]

@[simp]
theorem require_eq_ok_iff {condition : Bool} {cause : Violation} :
    require condition cause = .ok () ↔ condition = true := by
  cases condition <;> simp [require, violated]

/-- A computation in two stages succeeds when both do. -/
theorem bind_eq_ok_iff {α β : Type} {first : Except MeshError α} {second : α → Except MeshError β}
    {result : β} :
    first >>= second = .ok result ↔ ∃ value, first = .ok value ∧ second value = .ok result := by
  cases first <;> simp [bind, Except.bind]

theorem toOption_eq_some_iff {α : Type} {computed : Except MeshError α} {value : α} :
    computed.toOption = some value ↔ computed = .ok value := by
  cases computed <;> simp [Except.toOption]

/-- The edits after which the invariants of the mesh are checked. -/
inductive CheckedEdit where
  | addEdge
  | removeEdge
  | addFace
  | removeFace
  | removeNode
  | splitEdge
  | splitFace
  /-- A check that was asked for outside of any edit. -/
  | mesh
deriving DecidableEq

/-- The edit as messages call it. -/
def CheckedEdit.name : CheckedEdit → String
  | addEdge => "add_edge"
  | removeEdge => "remove_edge"
  | addFace => "add_face"
  | removeFace => "remove_face"
  | removeNode => "remove_node"
  | splitEdge => "split_edge"
  | splitFace => "split_face"
  | mesh => "Mesh"

/-- How an edit ends early. -/
inductive Fault where
  /-- The edit was refused. -/
  | refused (error : MeshError)
  /-- The edit was carried out and left the mesh with a broken invariant. -/
  | broken (edit : CheckedEdit) (error : MeshError)
deriving DecidableEq

/-- The message of a fault; that of a broken invariant says after which edit it broke. -/
def Fault.message : Fault → String
  | refused error => error.message
  | broken edit error => s!"[invariants] {edit.name}: {error.message}"

end PlanarMesh
