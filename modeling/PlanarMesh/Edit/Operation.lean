import PlanarMesh.Edit.Build
import PlanarMesh.Edit.Refinement

/-!
# Operations

The public edits as data, so that one can speak of a sequence of them.  The meshes that they can
make are the results of running some sequence of operations (`Mesh.run`), with whatever arguments
and whether or not each of them succeeds, on the empty mesh.
-/

namespace PlanarMesh

/-- A public edit with its arguments. -/
inductive Operation where
  | addNode (position : Point)
  | removeNode (n : NodeId)
  | addEdge (n₁ n₂ : NodeId)
  | removeEdge (e : EdgeId)
  | addFace (h₁ h₂ h₃ : HalfedgeId)
  | removeFace (f : FaceId)
  | addTriangle (a b c : NodeId)
  | splitEdge (e : EdgeId) (position : Point)
  | splitFace (f : FaceId) (position : Point)
  | build (list : TriangleList)

/-- What an operation answers. -/
inductive Reply where
  | done
  | node (n : NodeId)
  | halfedge (h : HalfedgeId)
  | face (f : FaceId)
  | nodes (ns : List NodeId)
deriving DecidableEq

namespace Operation

/-- The edit that an operation stands for. -/
def edit : Operation → Edit Reply
  | addNode position => return .node (← Edit.addNode position)
  | removeNode n => do
    Edit.removeNode n
    return .done
  | addEdge n₁ n₂ => return .halfedge (← Edit.addEdge n₁ n₂)
  | removeEdge e => do
    Edit.removeEdge e
    return .done
  | addFace h₁ h₂ h₃ => return .face (← Edit.addFace h₁ h₂ h₃)
  | removeFace f => do
    Edit.removeFace f
    return .done
  | addTriangle a b c => return .face (← Edit.addTriangle a b c)
  | splitEdge e position => return .node (← Edit.splitEdge e position)
  | splitFace f position => return .node (← Edit.splitFace f position)
  | build list => return .nodes (← Edit.build list)

/-- What comes of an operation on a mesh: its reply or fault, and the mesh afterwards. -/
def outcome (operation : Operation) (m : Mesh) : Except Fault Reply × Mesh :=
  match operation.edit (Session.on m) with
  | .ok reply s => (.ok reply, s.mesh)
  | .error fault s => (.error fault, s.mesh)

/-- The mesh after an operation, whether or not it succeeded. -/
def result (operation : Operation) (m : Mesh) : Mesh :=
  (operation.outcome m).2

end Operation

namespace Mesh

/-- The mesh after a sequence of operations. -/
def run (m : Mesh) (operations : List Operation) : Mesh :=
  operations.foldl (fun m operation => operation.result m) m

@[simp]
theorem run_nil (m : Mesh) : m.run [] = m :=
  rfl

@[simp]
theorem run_cons (m : Mesh) (operation : Operation) (operations : List Operation) :
    m.run (operation :: operations) = (operation.result m).run operations :=
  rfl

theorem run_append (m : Mesh) (first second : List Operation) :
    m.run (first ++ second) = (m.run first).run second :=
  List.foldl_append

/-- What the operations of a sequence answer, one after the other. -/
def replies (m : Mesh) : List Operation → List (Except Fault Reply)
  | [] => []
  | operation :: operations => (operation.outcome m).1 :: (operation.result m).replies operations

@[simp]
theorem replies_nil (m : Mesh) : m.replies [] = [] :=
  rfl

@[simp]
theorem replies_cons (m : Mesh) (operation : Operation) (operations : List Operation) :
    m.replies (operation :: operations) =
      (operation.outcome m).1 :: (operation.result m).replies operations :=
  rfl

end Mesh

end PlanarMesh
