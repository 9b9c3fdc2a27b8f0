import PlanarMesh.Edit.Basic
import PlanarMesh.Snapshot.Records

/-!
# Saving and loading meshes

A mesh is saved slot by slot, versions included, so that handles keep their meaning when the
snapshot is loaded.  Loading checks the invariants of the mesh: a snapshot whose records do
not fit together is rejected.
-/

namespace PlanarMesh

/-- Why a document was not loaded. -/
inductive LoadError where
  /-- The document does not have the form of the value. -/
  | malformed
  /-- The records of the mesh do not fit together. -/
  | rejected (error : MeshError)
deriving DecidableEq

namespace Mesh

/-- The snapshot of a mesh. -/
def save (m : Mesh) : Document :=
  .record [("nodes", Storable.write m.nodes), ("edges", Storable.write m.edges),
    ("faces", Storable.write m.faces)]

/-- The three stores of a snapshot as a mesh, whether or not its records fit together. -/
def readRecords? (document : Document) : Option Mesh := do
  match ← document.fields? ["nodes", "edges", "faces"] with
  | [nodes, edges, faces] =>
    return ⟨← Storable.readField? nodes, ← Storable.readField? edges,
      ← Storable.readField? faces, none⟩
  | _ => none

/-- The mesh of a snapshot. -/
def load (document : Document) : Except LoadError Mesh :=
  match readRecords? document with
  | none => .error .malformed
  | some m =>
    match m.checkInvariants with
    | .ok () => .ok m
    | .error error => .error (.rejected error)

end Mesh

/-- The value of a document. -/
def Storable.restore {α : Type} [Storable α] (document : Document) : Except LoadError α :=
  match read? document with
  | none => .error .malformed
  | some value => .ok value

end PlanarMesh
