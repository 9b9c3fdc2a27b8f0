import PlanarMesh.Edit.Basic
import PlanarMesh.Proofs.Validity

/-!
# Outcomes of edits

`edit.Ends s returns refuses` says how an edit on the session `s` ends: in a value and a mesh
that satisfy `returns`, or refused, with an error and a mesh that satisfy `refuses`.  It never
ends with a broken invariant.  The journal plays no part in what follows an edit.

The rules follow the structure of edits: one for a step after another (`Ends.bind`), one for
handled refusals (`Ends.onRefusal`), and one for each building block whose result is known
(`ends_bind_of_ok`).
-/

namespace PlanarMesh

namespace Edit

variable {α β : Type}

/-- The edit ends in a value and a mesh, or in an error and a mesh, as described. -/
def Ends (edit : Edit α) (s : Session) (returns : α → Mesh → Prop)
    (refuses : MeshError → Mesh → Prop) : Prop :=
  match edit s with
  | .ok a t => returns a t.mesh
  | .error (.refused error) t => refuses error t.mesh
  | .error (.broken _ _) _ => False

variable {edit : Edit α} {s : Session} {returns returns' : α → Mesh → Prop}
  {refuses refuses' : MeshError → Mesh → Prop}

theorem ends_of_ok {a : α} {t : Session} (ended : edit s = .ok a t) (holds : returns a t.mesh) :
    edit.Ends s returns refuses := by
  rwa [Ends, ended]

theorem Ends.mono (ends : edit.Ends s returns refuses)
    (weaker : ∀ a m, returns a m → returns' a m)
    (weaker' : ∀ error m, refuses error m → refuses' error m) :
    edit.Ends s returns' refuses' := by
  unfold Ends at *
  split <;> simp_all

theorem Ends.bind {next : α → Edit β} {returns' : β → Mesh → Prop}
    (ends : edit.Ends s returns refuses)
    (continues : ∀ a t, returns a t.mesh → (next a).Ends t returns' refuses')
    (stops : ∀ error m, refuses error m → refuses' error m) :
    (edit >>= next).Ends s returns' refuses' := by
  unfold Ends at ends
  split at ends
  · next a t ended =>
    have follows := continues a t ends
    unfold Ends at *
    rwa [bind_apply, ended]
  · next error t ended =>
    unfold Ends
    rw [bind_apply, ended]
    exact stops error t.mesh ends
  · exact ends.elim

/-- An edit that is never refused returns. -/
theorem Ends.exists_ok (ends : edit.Ends s returns refuses)
    (accepted : ∀ error m, ¬ refuses error m) :
    ∃ a t, edit s = .ok a t ∧ returns a t.mesh := by
  unfold Ends at ends
  split at ends
  · next a t ended => exact ⟨a, t, ended, ends⟩
  · next error t ended => exact absurd ends (accepted error t.mesh)
  · exact ends.elim

/-- What an edit answers can be ignored. -/
theorem Ends.discard {holds : Mesh → Prop} (ends : edit.Ends s (fun _ m => holds m) refuses) :
    (do let _ ← edit).Ends s (fun _ m => holds m) refuses :=
  ends.bind (fun _ _ => id) fun _ _ => id

/-- A step with a known result is taken. -/
theorem ends_bind_of_ok {next : α → Edit β} {returns : β → Mesh → Prop} {a : α} {t : Session}
    (ended : edit s = .ok a t) :
    (edit >>= next).Ends s returns refuses ↔ (next a).Ends t returns refuses := by
  unfold Ends
  rw [bind_apply, ended]

/-- A refused step ends the edit. -/
theorem ends_bind_of_refused {next : α → Edit β} {returns : β → Mesh → Prop}
    {error : MeshError} {t : Session} (ended : edit s = .error (.refused error) t) :
    (edit >>= next).Ends s returns refuses ↔ refuses error t.mesh := by
  unfold Ends
  rw [bind_apply, ended]

@[simp]
theorem ends_pure {a : α} : (pure a : Edit α).Ends s returns refuses ↔ returns a s.mesh :=
  Iff.rfl

@[simp]
theorem ends_refuse {error : MeshError} :
    (refuse error : Edit α).Ends s returns refuses ↔ refuses error s.mesh :=
  Iff.rfl

/-- A handled refusal goes on with the handler. -/
theorem Ends.onRefusal {handler : MeshError → Edit α}
    (ends : edit.Ends s returns refuses)
    (handles : ∀ error t, refuses error t.mesh → (handler error).Ends t returns refuses') :
    (onRefusal edit handler).Ends s returns refuses' := by
  unfold Ends at ends
  split at ends
  · next a t ended =>
    unfold Ends
    rwa [onRefusal_apply, ended]
  · next error t ended =>
    have handled := handles error t ends
    unfold Ends at *
    rwa [onRefusal_apply, ended]
  · exact ends.elim

/-! ## Steps with known results -/

theorem get_apply (s : Session) : (get : Edit Session) s = .ok s s :=
  rfl

theorem replacing_of_ok {a : α} {t : Session} (ended : edit ⟨.empty, s.journal⟩ = .ok a t) :
    replacing edit s = .ok a t := by
  rw [replacing, ended]

theorem query_of_ok {question : Mesh → Except MeshError α} {answer : α}
    (answers : question s.mesh = .ok answer) : query question s = .ok answer s := by
  rw [query_apply, answers]

theorem query_of_error {question : Mesh → Except MeshError α} {error : MeshError}
    (fails : question s.mesh = .error error) :
    query question s = .error (.refused error) s := by
  rw [query_apply, fails]

theorem checkAfter_of_sound {kind : CheckedEdit} (sound : s.mesh.Sound) :
    checkAfter kind s = .ok () s := by
  rw [checkAfter_apply, sound.checkInvariants]

theorem query_orInvalid {question : Mesh → Except MeshError α} {error : MeshError}
    {found : Option α} {answer : α} (checked : question s.mesh = orInvalid error found)
    (resolved : found = some answer) : query question s = .ok answer s :=
  query_of_ok (by rw [checked, resolved]; rfl)

theorem query_next {h g : HalfedgeId} (next : s.mesh.next? h = some g) :
    query (fun m => m.next h) s = .ok g s :=
  query_orInvalid (s.mesh.next_eq_orInvalid h) next

theorem query_prev {h g : HalfedgeId} (prev : s.mesh.prev? h = some g) :
    query (fun m => m.prev h) s = .ok g s :=
  query_orInvalid (s.mesh.prev_eq_orInvalid h) prev

theorem query_origin {h : HalfedgeId} {n : NodeId} (start : s.mesh.origin? h = some n) :
    query (fun m => m.origin h) s = .ok n s :=
  query_orInvalid (s.mesh.origin_eq_orInvalid h) start

theorem query_target {h : HalfedgeId} {n : NodeId} (finish : s.mesh.origin? h.pair = some n) :
    query (fun m => m.target h) s = .ok n s :=
  query_orInvalid (s.mesh.origin_eq_orInvalid h.pair) finish

theorem query_faceOf {h : HalfedgeId} {face : Option FaceId}
    (reports : s.mesh.faceOf? h = some face) : query (fun m => m.faceOf h) s = .ok face s :=
  query_orInvalid (s.mesh.faceOf_eq_orInvalid h) reports

theorem query_isBoundary {h : HalfedgeId} {face : Option FaceId}
    (reports : s.mesh.faceOf? h = some face) :
    query (fun m => m.isBoundary h) s = .ok face.isNone s :=
  query_orInvalid (s.mesh.isBoundary_eq_orInvalid h) (by rw [reports]; rfl)

theorem query_node {n : NodeId} {record : Node} (found : s.mesh.node? n = some record) :
    query (fun m => m.node n) s = .ok record s :=
  query_of_ok (Mesh.node_eq_ok_iff.2 found)

theorem query_face {f : FaceId} {record : Face} (found : s.mesh.face? f = some record) :
    query (fun m => m.face f) s = .ok record s :=
  query_of_ok (Mesh.face_eq_ok_iff.2 found)

theorem link_of_live {h g : HalfedgeId} (hLive : s.mesh.containsHalfedge h = true)
    (gLive : s.mesh.containsHalfedge g = true) :
    link h g s = .ok () { s with mesh := s.mesh.link h g } := by
  have stillLive : (s.mesh.modifyHalfedge h fun record =>
      { record with next := g }).containsHalfedge g = true := by
    simp only [Mesh.containsHalfedge, Mesh.halfedge?_modifyHalfedge] at *
    split <;> simp_all
  simp only [link, setNext, setPrev, bind_apply, modifyHalfedge_apply, hLive, if_true,
    stillLive]
  rfl

end Edit

end PlanarMesh
