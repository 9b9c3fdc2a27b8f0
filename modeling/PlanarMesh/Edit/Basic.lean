import PlanarMesh.Edit.Journal
import PlanarMesh.Mesh.Validity

/-!
# Edits

An edit transforms a mesh, keeps a journal, and either yields a value or ends early with a
fault.  What was written before a fault stays written: whether an edit that fails leaves the
mesh as it found it is a property to be proved of the edit, not of the machinery.

The building blocks are few: questions to the mesh, checked writes to single fields, single
records stored or dropped, and the check that ends every public edit.  The lemmas named
`_apply` say what each of them makes of a session, so that an edit built from them can be
computed on a session without unfolding the monad.
-/

namespace PlanarMesh

/-- A mesh under edit and what the edits have reported so far. -/
structure Session where
  mesh : Mesh
  journal : Array JournalEntry

/-- A session on the given mesh with an empty journal. -/
def Session.on (m : Mesh) : Session :=
  ⟨m, #[]⟩

/-- A mesh edit with a result of type `α`.  A fault keeps the session as it was when the
fault arose. -/
abbrev Edit (α : Type) :=
  EStateM Fault Session α

namespace Edit

variable {α β : Type}

/-- Put something into the journal. -/
def record (entry : JournalEntry) : Edit Unit :=
  modify fun s => { s with journal := s.journal.push entry }

/-- End the edit early, refused. -/
def refuse (error : MeshError) : Edit α :=
  throw (.refused error)

/-- Ask a question of the mesh; its error refuses the edit. -/
def query (question : Mesh → Except MeshError α) : Edit α := do
  match question (← get).mesh with
  | .ok answer => return answer
  | .error error => refuse error

/-- Write to the mesh. -/
def update (change : Mesh → Mesh) : Edit Unit :=
  modify fun s => { s with mesh := change s.mesh }

/-- Handle a refusal; broken invariants are not handled. -/
def onRefusal (edit : Edit α) (handler : MeshError → Edit α) : Edit α :=
  tryCatch edit fun
    | .refused error => handler error
    | fault => throw fault

/-- Run an edit that takes over the journal of the session but not its mesh: it works on a
mesh of its own, which replaces the session's mesh only if the edit succeeds. -/
def replacing (edit : Edit α) : Edit α := fun s =>
  match edit ⟨.empty, s.journal⟩ with
  | .ok a t => .ok a t
  | .error fault t => .error fault { s with journal := t.journal }

/-- The check that every edit ends with. -/
def checkAfter (edit : CheckedEdit) : Edit Unit := do
  match (← get).mesh.checkInvariants with
  | .ok () => return
  | .error error => throw (.broken edit error)

/-! ## Checked writes -/

/-- Change the record of a live node. -/
def modifyNode (n : NodeId) (f : Node → Node) : Edit Unit := do
  let _ ← query fun m => m.node n
  update fun m => m.modifyNode n f

/-- Change the record of a live half-edge. -/
def modifyHalfedge (h : HalfedgeId) (f : Halfedge → Halfedge) : Edit Unit := do
  let _ ← query fun m => m.halfedge h
  update fun m => m.modifyHalfedge h f

/-- Change the record of a live face. -/
def modifyFace (f : FaceId) (g : Face → Face) : Edit Unit := do
  let _ ← query fun m => m.face f
  update fun m => m.modifyFace f g

/-- Choose the half-edge that represents a node. -/
def setRepresentative (n : NodeId) (h : Option HalfedgeId) : Edit Unit :=
  modifyNode n fun record => { record with halfedge := h }

/-- Let `h` start at `n`. -/
def setOrigin (h : HalfedgeId) (n : NodeId) : Edit Unit :=
  modifyHalfedge h fun record => { record with origin := n }

/-- Let `h` point forward to `g`; whether `g` points back is not looked at. -/
def setNext (h g : HalfedgeId) : Edit Unit :=
  modifyHalfedge h fun record => { record with next := g }

/-- Let `h` point back to `g`; whether `g` points forward is not looked at. -/
def setPrev (h g : HalfedgeId) : Edit Unit :=
  modifyHalfedge h fun record => { record with prev := g }

/-- Let `h` report the face `f`, or none. -/
def setFace (h : HalfedgeId) (f : Option FaceId) : Edit Unit :=
  modifyHalfedge h fun record => { record with face := f }

/-- Choose the half-edge from which a face is walked. -/
def setFaceHalfedge (f : FaceId) (h : HalfedgeId) : Edit Unit :=
  modifyFace f fun record => { record with halfedge := h }

/-- Let `g` follow `h` on their loop. -/
def link (h g : HalfedgeId) : Edit Unit := do
  setNext h g
  setPrev g h

/-! ## Single records -/

/-- Store a node record and answer its handle. -/
def insertNode (record : Node) : Edit NodeId := do
  let n := (← get).mesh.nodes.nextKey
  update fun m => { m with nodes := m.nodes.insert record }
  return n

/-- Store an edge between two nodes that is not attached to them yet. -/
def insertEdge (n₁ n₂ : NodeId) : Edit EdgeId := do
  let e := (← get).mesh.edges.nextKey
  update fun m => { m with edges := m.edges.insert (.between e n₁ n₂) }
  return e

/-- Store a face record and answer its handle. -/
def insertFace (record : Face) : Edit FaceId := do
  let f := (← get).mesh.faces.nextKey
  update fun m => { m with faces := m.faces.insert record }
  return f

/-- Drop a node record, whatever refers to it, and answer whether it was live. -/
def dropNode (n : NodeId) : Edit Bool := do
  let live := (← get).mesh.containsNode n
  update fun m => { m with nodes := m.nodes.erase n }
  return live

/-- Drop an edge record, whatever refers to it, and answer whether it was live. -/
def dropEdge (e : EdgeId) : Edit Bool := do
  let live := (← get).mesh.containsEdge e
  update fun m => { m with edges := m.edges.erase e }
  return live

/-- Drop a face record, whatever refers to it, and answer whether it was live. -/
def dropFace (f : FaceId) : Edit Bool := do
  let live := (← get).mesh.containsFace f
  update fun m => { m with faces := m.faces.erase f }
  return live

/-! ## The bounding box -/

/-- The bounding box, which is kept for the next time. -/
def boundingBox : Edit BoundingBox := do
  update Mesh.cacheBox
  return (← get).mesh.boundingBox

/-- Forget what was derived from node positions. -/
def invalidateCache : Edit Unit :=
  update Mesh.invalidateCache

/-! ## What each building block does to a session -/

theorem bind_apply (first : Edit α) (second : α → Edit β) (s : Session) :
    (first >>= second) s =
      match first s with
      | .ok a t => second a t
      | .error fault t => .error fault t := by
  show EStateM.bind first second s = _
  unfold EStateM.bind
  cases first s <;> rfl

@[simp]
theorem record_apply (entry : JournalEntry) (s : Session) :
    record entry s = .ok () { s with journal := s.journal.push entry } :=
  rfl

@[simp]
theorem update_apply (change : Mesh → Mesh) (s : Session) :
    update change s = .ok () { s with mesh := change s.mesh } :=
  rfl

@[simp]
theorem refuse_apply (error : MeshError) (s : Session) :
    (refuse error : Edit α) s = .error (.refused error) s :=
  rfl

theorem query_apply (question : Mesh → Except MeshError α) (s : Session) :
    query question s =
      match question s.mesh with
      | .ok answer => .ok answer s
      | .error error => .error (.refused error) s := by
  simp only [query, bind_apply]
  show (match question s.mesh with | .ok answer => _ | .error error => _ : Edit α) s = _
  cases question s.mesh <;> rfl

theorem onRefusal_apply (edit : Edit α) (handler : MeshError → Edit α) (s : Session) :
    onRefusal edit handler s =
      match edit s with
      | .ok a t => .ok a t
      | .error (.refused error) t => handler error t
      | .error (.broken kind error) t => .error (.broken kind error) t := by
  show EStateM.tryCatch edit _ s = _
  unfold EStateM.tryCatch
  cases edit s with
  | ok a t => rfl
  | error fault t => cases fault <;> rfl

theorem checkAfter_apply (edit : CheckedEdit) (s : Session) :
    checkAfter edit s =
      match s.mesh.checkInvariants with
      | .ok () => .ok () s
      | .error error => .error (.broken edit error) s := by
  simp only [checkAfter, bind_apply]
  show (match s.mesh.checkInvariants with | .ok () => _ | .error error => _ : Edit Unit) s = _
  cases s.mesh.checkInvariants <;> rfl

theorem modifyHalfedge_apply (h : HalfedgeId) (f : Halfedge → Halfedge) (s : Session) :
    modifyHalfedge h f s =
      if s.mesh.containsHalfedge h then .ok () { s with mesh := s.mesh.modifyHalfedge h f }
      else .error (.refused (.invalidHalfedge h)) s := by
  cases found : s.mesh.halfedge? h <;>
    simp [modifyHalfedge, bind_apply, query_apply, Mesh.halfedge, Mesh.containsHalfedge, found,
      orInvalid]

theorem modifyNode_apply (n : NodeId) (f : Node → Node) (s : Session) :
    modifyNode n f s =
      if s.mesh.containsNode n then .ok () { s with mesh := s.mesh.modifyNode n f }
      else .error (.refused (.invalidNode n)) s := by
  cases found : s.mesh.node? n <;>
    simp [modifyNode, bind_apply, query_apply, Mesh.node, Mesh.containsNode, found,
      orInvalid]

@[simp]
theorem insertNode_apply (record : Node) (s : Session) :
    insertNode record s = .ok s.mesh.nodes.nextKey
      { s with mesh := { s.mesh with nodes := s.mesh.nodes.insert record } } :=
  rfl

@[simp]
theorem insertEdge_apply (n₁ n₂ : NodeId) (s : Session) :
    insertEdge n₁ n₂ s =
      let e := s.mesh.edges.nextKey
      .ok e { s with mesh := { s.mesh with edges := s.mesh.edges.insert (.between e n₁ n₂) } } :=
  rfl

@[simp]
theorem insertFace_apply (record : Face) (s : Session) :
    insertFace record s = .ok s.mesh.faces.nextKey
      { s with mesh := { s.mesh with faces := s.mesh.faces.insert record } } :=
  rfl

@[simp]
theorem dropNode_apply (n : NodeId) (s : Session) :
    dropNode n s = .ok (s.mesh.containsNode n)
      { s with mesh := { s.mesh with nodes := s.mesh.nodes.erase n } } :=
  rfl

@[simp]
theorem dropEdge_apply (e : EdgeId) (s : Session) :
    dropEdge e s = .ok (s.mesh.containsEdge e)
      { s with mesh := { s.mesh with edges := s.mesh.edges.erase e } } :=
  rfl

@[simp]
theorem dropFace_apply (f : FaceId) (s : Session) :
    dropFace f s = .ok (s.mesh.containsFace f)
      { s with mesh := { s.mesh with faces := s.mesh.faces.erase f } } :=
  rfl

end Edit

end PlanarMesh
