import PlanarMesh.Error
import PlanarMesh.PointLocation

/-!
# The journal

What edits, walks and checks report about themselves while they run.  An entry says what
happened; its level and its wording are functions of the entry.
-/

namespace PlanarMesh

/-- How much attention an entry deserves, most severe first. -/
inductive Level where
  | warn
  | debug
  | trace
deriving DecidableEq

namespace Level

/-- The level as it is written in front of an entry. -/
def name : Level → String
  | warn => "WARN"
  | debug => "DEBUG"
  | trace => "TRACE"

/-- The place of a level, the most severe first. -/
def rank : Level → Nat
  | warn => 0
  | debug => 1
  | trace => 2

/-- Whether entries of level `entry` are kept by a reader who asks for `level`. -/
def admits (level entry : Level) : Bool :=
  entry.rank ≤ level.rank

end Level

/-- Something that happened. -/
inductive JournalEntry where
  | addNode (n : NodeId) (position : Point)
  | removeNode (n : NodeId) (edges : Nat)
  | addEdge (e : EdgeId) (n₁ n₂ : NodeId)
  | removeEdge (e : EdgeId)
  | addFace (f : FaceId) (h₁ h₂ h₃ : HalfedgeId)
  | removeFace (f : FaceId)
  | splitEdge (e : EdgeId) (n : NodeId) (faces : Nat)
  | splitFace (f : FaceId) (n : NodeId) (f₁ f₂ f₃ : FaceId)
  | build (nodes triangles : Nat)
  | attachIsolated (h : HalfedgeId) (n : NodeId)
  | attach (h : HalfedgeId) (n : NodeId) (after : HalfedgeId)
  | mergeAdjacent (incoming out freeSlot : HalfedgeId)
  | detach (h : HalfedgeId) (n : NodeId)
  | locateStep (step : Nat) (h : HalfedgeId) (transition : Transition)
  | locateGaveUp (steps : Nat)
  | misoriented (f : FaceId) (side : OrientedSide)
deriving DecidableEq

namespace JournalEntry

/-- Single pointers and steps are traced; whole edits are worth debugging; a face that runs
the wrong way is worth a warning. -/
def level : JournalEntry → Level
  | addNode .. | attachIsolated .. | attach .. | mergeAdjacent .. | detach ..
  | locateStep .. => .trace
  | removeNode .. | addEdge .. | removeEdge .. | addFace .. | removeFace ..
  | splitEdge .. | splitFace .. | build .. | locateGaveUp .. => .debug
  | misoriented .. => .warn

/-- The wording of an entry. -/
def message : JournalEntry → String
  | addNode n p =>
    let x := Decimal.text p.x
    let y := Decimal.text p.y
    s!"add_node {n} at ({x}, {y})"
  | removeNode n edges => s!"remove_node {n}: removed {edges} incident edges"
  | addEdge e n₁ n₂ => s!"add_edge {n₁} -> {n₂}: edge {e}"
  | removeEdge e => s!"remove_edge {e}"
  | addFace f h₁ h₂ h₃ => s!"add_face {f}: {h₁} -> {h₂} -> {h₃}"
  | removeFace f => s!"remove_face {f}"
  | splitEdge e n faces => s!"split_edge {e}: node {n}, {faces} adjacent face(s) split"
  | splitFace f n f₁ f₂ f₃ =>
    s!"split_face {f}: node {n}, faces [{f₁.tagged}, {f₂.tagged}, {f₃.tagged}]"
  | build nodes triangles => s!"build_into: {nodes} nodes, {triangles} triangles"
  | attachIsolated h n => s!"attach {h} to isolated node {n}"
  | attach h n after => s!"attach {h} to node {n} after {after}"
  | mergeAdjacent incoming out freeSlot =>
    s!"merge_adjacent {incoming} -> {out} (free slot {freeSlot})"
  | detach h n => s!"detach {h} from node {n}"
  | locateStep step h transition => s!"locate step {step}: {h} -> {transition.tagged}"
  | locateGaveUp steps => s!"locate gave up after {steps} steps"
  | misoriented f side => s!"face {f} is not counter-clockwise ({side.name})"

end JournalEntry

end PlanarMesh
