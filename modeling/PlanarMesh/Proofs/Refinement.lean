import PlanarMesh.Proofs.Reachability

/-!
# Refining reachable meshes

On a mesh that operations lead to, an edge or a face can be split exactly when it is live, and
only what is said to change changes.  Splitting what is not live leaves the mesh as it is.
-/

namespace PlanarMesh

namespace Operation

open Mesh

variable {m : Mesh}

/-- What comes of splitting an edge of a sound mesh. -/
theorem outcome_splitEdge (sound : m.Sound) (e : EdgeId) (position : Point) :
    (m.containsEdge e = false ∧
        (splitEdge e position).outcome m = (.error (.refused (.invalidEdge e)), m)) ∨
      ∃ n₁ n₂ k₁ k₂ x m', m.Leads e.first n₁ n₂ ∧ m.Flanked e.first k₁ ∧
        m.Flanked e.second k₂ ∧ (splitEdge e position).outcome m = (.ok (.node x), m') ∧
        m.SplitsEdge e n₁ n₂ (k₁ ++ k₂) position x m' := by
  have ends : (splitEdge e position).edit.Ends (Session.on m)
      (fun reply m' => ∃ n₁ n₂ k₁ k₂ x, reply = .node x ∧ m.Leads e.first n₁ n₂ ∧
        m.Flanked e.first k₁ ∧ m.Flanked e.second k₂ ∧
        m.SplitsEdge e n₁ n₂ (k₁ ++ k₂) position x m')
      (fun error m' => m.containsEdge e = false ∧ m' = m ∧ error = .invalidEdge e) := by
    refine (Edit.splitEdge_ends (s := Session.on m) sound).bind ?_ fun _ _ => id
    rintro x t ⟨-, n₁, n₂, k₁, k₂, leads, first, second, splits, -⟩
    exact ⟨n₁, n₂, k₁, k₂, x, rfl, leads, first, second, splits⟩
  rcases outcome_of_ends ends with
    ⟨-, m', ended, n₁, n₂, k₁, k₂, x, rfl, leads, first, second, splits⟩ |
    ⟨_, _, ended, dead, rfl, rfl⟩
  · exact .inr ⟨n₁, n₂, k₁, k₂, x, m', leads, first, second, ended, splits⟩
  · exact .inl ⟨dead, ended⟩

/-- What comes of splitting a face of a sound mesh. -/
theorem outcome_splitFace (sound : m.Sound) (f : FaceId) (position : Point) :
    (m.containsFace f = false ∧
        (splitFace f position).outcome m = (.error (.refused (.invalidFace f)), m)) ∨
      ∃ a b c x m', m.faceNodes f = .ok ⟨a, b, c⟩ ∧
        (splitFace f position).outcome m = (.ok (.node x), m') ∧
        m.SplitsFace f a b c position x m' := by
  have ends : (splitFace f position).edit.Ends (Session.on m)
      (fun reply m' => ∃ a b c x, reply = .node x ∧ m.faceNodes f = .ok ⟨a, b, c⟩ ∧
        m.SplitsFace f a b c position x m')
      (fun error m' => m.containsFace f = false ∧ m' = m ∧ error = .invalidFace f) := by
    refine (Edit.splitFace_ends (s := Session.on m) sound).bind ?_ fun _ _ => id
    rintro x t ⟨-, a, b, c, corners, splits⟩
    exact ⟨a, b, c, x, rfl, corners, splits⟩
  rcases outcome_of_ends ends with
    ⟨-, m', ended, a, b, c, x, rfl, corners, splits⟩ | ⟨_, _, ended, dead, rfl, rfl⟩
  · exact .inr ⟨a, b, c, x, m', corners, ended, splits⟩
  · exact .inl ⟨dead, ended⟩

end Operation

namespace Mesh

/-- Whatever operations were run: splitting an edge fails only when the edge is not live, and
then the mesh stays as it is. -/
theorem splitEdge_of_operations (operations : List Operation) (e : EdgeId) (position : Point) :
    let m := empty.run operations
    (m.containsEdge e = false ∧
        (Operation.splitEdge e position).outcome m = (.error (.refused (.invalidEdge e)), m)) ∨
      ∃ n₁ n₂ k₁ k₂ x m', m.Leads e.first n₁ n₂ ∧ m.Flanked e.first k₁ ∧
        m.Flanked e.second k₂ ∧
        (Operation.splitEdge e position).outcome m = (.ok (.node x), m') ∧
        m.SplitsEdge e n₁ n₂ (k₁ ++ k₂) position x m' :=
  Operation.outcome_splitEdge (sound_empty.run operations) e position

/-- Whatever operations were run: splitting a face fails only when the face is not live, and
then the mesh stays as it is. -/
theorem splitFace_of_operations (operations : List Operation) (f : FaceId) (position : Point) :
    let m := empty.run operations
    (m.containsFace f = false ∧
        (Operation.splitFace f position).outcome m = (.error (.refused (.invalidFace f)), m)) ∨
      ∃ a b c x m', m.faceNodes f = .ok ⟨a, b, c⟩ ∧
        (Operation.splitFace f position).outcome m = (.ok (.node x), m') ∧
        m.SplitsFace f a b c position x m' :=
  Operation.outcome_splitFace (sound_empty.run operations) f position

end Mesh

end PlanarMesh
