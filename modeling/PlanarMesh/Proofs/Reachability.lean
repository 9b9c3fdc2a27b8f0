import PlanarMesh.Edit.Operation
import PlanarMesh.Proofs.Edit.SplitEdge
import PlanarMesh.Proofs.Edit.SplitFace
import PlanarMesh.Proofs.Edit.Triangle

/-!
# Reachable meshes

Every public edit keeps a sound mesh sound, whether it returns or is refused, and none of the
checks after an edit ever fails.  So all meshes that operations lead to from the empty one are
sound (`Sound.run`), and what soundness means for a reader of the mesh holds of all of them
(`WellFormed`).
-/

namespace PlanarMesh

namespace Edit

open Mesh

variable {α : Type}

/-- The edit keeps `P` true of the mesh, also when it is refused. -/
def Maintains (P : Mesh → Prop) (edit : Edit α) : Prop :=
  ∀ s : Session, P s.mesh → edit.Ends s (fun _ m => P m) (fun _ m => P m)

/-- The edit leaves a sound mesh sound. -/
abbrev KeepsSound (edit : Edit α) : Prop :=
  edit.Maintains Mesh.Sound

namespace Maintains

variable {β : Type} {P : Mesh → Prop} {edit : Edit α} {next : α → Edit β}

theorem pure (a : α) : Maintains P (Pure.pure a : Edit α) := fun _ holds => holds

theorem bind (first : Maintains P edit) (later : ∀ a, Maintains P (next a)) :
    Maintains P (edit >>= next) := fun s holds =>
  (first s holds).bind (fun a t still => later a t still) fun _ _ => id

theorem mapM {f : α → Edit β} {l : List α} (each : ∀ a ∈ l, Maintains P (f a)) :
    Maintains P (l.mapM f) := by
  induction l with
  | nil => exact .pure []
  | cons a l inductionHypothesis =>
    rw [List.mapM_cons]
    have rest := inductionHypothesis fun b mem => each b (List.mem_cons_of_mem a mem)
    exact (each a List.mem_cons_self).bind fun _ => rest.bind fun _ => .pure _

theorem forM {f : α → Edit PUnit} {l : List α} (each : ∀ a ∈ l, Maintains P (f a)) :
    Maintains P (l.forM f) := by
  induction l with
  | nil => exact .pure _
  | cons a l inductionHypothesis =>
    have rest := inductionHypothesis fun b mem => each b (List.mem_cons_of_mem a mem)
    exact (each a List.mem_cons_self).bind fun _ => rest

end Maintains

theorem keepsSound_addNode (position : Point) : KeepsSound (addNode position) := fun _ sound =>
  (addNode_ends sound).mono (fun _ _ added => added.sound) fun _ _ => False.elim

theorem keepsSound_removeNode (n : NodeId) : KeepsSound (removeNode n) := fun _ sound => by
  refine (removeNode_ends sound).mono ?_ fun _ _ refused => refused.2.1 ▸ sound
  rintro - m ⟨-, es, m₁, -, -, dropped⟩
  exact dropped.sound

theorem keepsSound_addEdge (n₁ n₂ : NodeId) : KeepsSound (addEdge n₁ n₂) := fun _ sound => by
  refine (addEdge_ends sound).mono ?_ fun _ _ refused => refused.2.sound sound
  rintro h m ⟨-, e, -, added⟩
  exact added.sound

theorem keepsSound_removeEdge (e : EdgeId) : KeepsSound (removeEdge e) := fun s sound => by
  refine (removeEdge_ends sound).mono ?_ fun _ _ refused => refused.2.1 ▸ sound
  rintro - m ⟨-, m₁, m₂, -, -, dropped⟩
  exact dropped.sound

theorem keepsSound_addFace (h₁ h₂ h₃ : HalfedgeId) : KeepsSound (addFace h₁ h₂ h₃) :=
  fun _ sound =>
    (addFace_ends sound).mono (fun _ _ added => added.2.sound) fun _ _ refused => refused.2.1

theorem keepsSound_removeFace (f : FaceId) : KeepsSound (removeFace f) := fun s sound => by
  refine (removeFace_ends sound).mono ?_ fun _ _ refused => refused.2.1 ▸ sound
  rintro - m ⟨t, removed⟩
  exact removed.sound

theorem keepsSound_addTriangle (a b c : NodeId) : KeepsSound (addTriangle a b c) :=
  fun _ sound => by
    refine (addTriangle_ends sound).mono ?_ fun _ _ refused => refused.2.1
    rintro f m ⟨h₁, h₂, h₃, m₁, m₂, m₃, -, -, added⟩
    exact added.sound

theorem keepsSound_splitEdge (e : EdgeId) (position : Point) :
    KeepsSound (splitEdge e position) := fun _ sound =>
  (splitEdge_ends sound).mono (fun _ _ split => split.1) fun _ _ refused => refused.2.1 ▸ sound

theorem keepsSound_splitFace (f : FaceId) (position : Point) :
    KeepsSound (splitFace f position) := fun _ sound =>
  (splitFace_ends sound).mono (fun _ _ split => split.1) fun _ _ refused => refused.2.1 ▸ sound

/-- What adding single nodes and triangles maintains, building from a list maintains, also if it is
refused halfway and leaves what was built until then. -/
theorem maintains_build {P : Mesh → Prop} (addsNode : ∀ position, Maintains P (addNode position))
    (addsTriangle : ∀ a b c, Maintains P (addTriangle a b c)) (list : TriangleList) :
    Maintains P (build list) := by
  unfold build
  have built : ∀ nodes : List NodeId, Maintains P (do
      list.triangles.forM fun t => do
        let _ ← addTriangle (nodes.getD t.a Key.null) (nodes.getD t.b Key.null)
          (nodes.getD t.c Key.null)
      record (.build list.points.length list.triangles.length)
      return nodes) := fun nodes =>
    (Maintains.forM fun t _ => (addsTriangle _ _ _).bind fun _ => .pure _).bind fun _ =>
      .bind (fun _ holds => holds) fun _ => .pure _
  cases list.firstDefect? with
  | some defect => exact fun _ holds => holds
  | none => exact (Maintains.mapM fun p _ => addsNode p).bind built

theorem keepsSound_build (list : TriangleList) : KeepsSound (build list) :=
  maintains_build keepsSound_addNode keepsSound_addTriangle list

end Edit

namespace Operation

open Mesh

theorem keepsSound_edit (operation : Operation) : operation.edit.KeepsSound := by
  cases operation with
  | addNode position => exact (Edit.keepsSound_addNode position).bind fun _ => .pure _
  | removeNode n => exact (Edit.keepsSound_removeNode n).bind fun _ => .pure _
  | addEdge n₁ n₂ => exact (Edit.keepsSound_addEdge n₁ n₂).bind fun _ => .pure _
  | removeEdge e => exact (Edit.keepsSound_removeEdge e).bind fun _ => .pure _
  | addFace h₁ h₂ h₃ => exact (Edit.keepsSound_addFace h₁ h₂ h₃).bind fun _ => .pure _
  | removeFace f => exact (Edit.keepsSound_removeFace f).bind fun _ => .pure _
  | addTriangle a b c => exact (Edit.keepsSound_addTriangle a b c).bind fun _ => .pure _
  | splitEdge e position => exact (Edit.keepsSound_splitEdge e position).bind fun _ => .pure _
  | splitFace f position => exact (Edit.keepsSound_splitFace f position).bind fun _ => .pure _
  | build list => exact (Edit.keepsSound_build list).bind fun _ => .pure _

/-- What comes of an operation is what its edit ends in. -/
theorem outcome_of_ends {operation : Operation} {m : Mesh} {returns : Reply → Mesh → Prop}
    {refuses : MeshError → Mesh → Prop}
    (ends : operation.edit.Ends (Session.on m) returns refuses) :
    (∃ reply m', operation.outcome m = (.ok reply, m') ∧ returns reply m') ∨
      ∃ error m', operation.outcome m = (.error (.refused error), m') ∧ refuses error m' := by
  unfold Edit.Ends at ends
  split at ends
  · next reply s ended => exact .inl ⟨reply, s.mesh, by rw [outcome, ended], ends⟩
  · next error s ended => exact .inr ⟨error, s.mesh, by rw [outcome, ended], ends⟩
  · exact ends.elim

theorem sound_result (operation : Operation) {m : Mesh} (sound : m.Sound) :
    (operation.result m).Sound := by
  rcases outcome_of_ends (operation.keepsSound_edit (Session.on m) sound) with
    ⟨reply, m', ended, still⟩ | ⟨error, m', ended, still⟩
  · rwa [result, ended]
  · rwa [result, ended]

/-- No check after an edit ever fails. -/
theorem outcome_ne_broken (operation : Operation) {m : Mesh} (sound : m.Sound)
    (kind : CheckedEdit) (error : MeshError) :
    (operation.outcome m).1 ≠ .error (.broken kind error) := by
  rcases outcome_of_ends (operation.keepsSound_edit (Session.on m) sound) with
    ⟨reply, m', ended, -⟩ | ⟨error', m', ended, -⟩
  · simp [ended]
  · simp [ended]

end Operation

namespace Mesh

theorem Sound.run {m : Mesh} (sound : m.Sound) (operations : List Operation) :
    (m.run operations).Sound := by
  induction operations generalizing m with
  | nil => exact sound
  | cons operation operations inductionHypothesis =>
    exact inductionHypothesis (operation.sound_result sound)

/-! ## What readers may rely on -/

/-- All checks of the structure pass, and beyond them: edges have two different ends, faces have
three different sides at three different nodes and are reported by these alone, and loops that
enter the boundary stay there. -/
structure WellFormed (m : Mesh) : Prop where
  checks : m.checkTopology {} = .ok ()
  ends_ne : ∀ h n, m.origin h = .ok n → m.target h ≠ .ok n
  loop : ∀ f, m.containsFace f = true → ∃ t ns, m.faceHalfedges f = .ok t ∧
    m.next t.c = .ok t.a ∧ t.toList.Nodup ∧ m.faceNodes f = .ok ns ∧ ns.toList.Nodup ∧
    ∀ h, m.faceOf h = .ok (some f) ↔ h ∈ t.toList
  boundary : ∀ h, m.isBoundary h = .ok true → ∃ g k, m.next h = .ok g ∧ m.prev h = .ok k ∧
    m.isBoundary g = .ok true ∧ m.isBoundary k = .ok true

/-- After a half-edge on the boundary comes another, and before it as well. -/
theorem Sound.exists_free {m : Mesh} (sound : m.Sound) {h : HalfedgeId} (free : m.Free h) :
    ∃ g k, m.next? h = some g ∧ m.prev? h = some k ∧ m.Free g ∧ m.Free k := by
  have live := containsHalfedge_iff_faceOf?.2 ⟨none, free⟩
  rcases containsHalfedge_iff_next?.1 live with ⟨g, next⟩
  rcases containsHalfedge_iff_prev?.1 live with ⟨k, prev⟩
  refine ⟨g, k, next, prev, (sound.faceOf?_next? next).trans free, ?_⟩
  exact (sound.faceOf?_next? (sound.prev?_eq_some_iff.1 prev)).symm.trans free

theorem Sound.wellFormed {m : Mesh} (sound : m.Sound) : m.WellFormed where
  checks := sound.checkInvariants
  ends_ne h n start finish := by
    rw [origin_eq_ok_iff] at start
    rw [target_eq_ok_iff] at finish
    exact sound.ends_ne h n start finish
  loop f live := by
    rcases Option.isSome_iff_exists.1 live with ⟨record, found⟩
    rcases sound.triangle f record found with ⟨⟨h₁, h₂, h₃⟩, first, triangle⟩
    rcases triangle.chain sound with ⟨a, b, c, chain⟩
    refine ⟨⟨h₁, h₂, h₃⟩, ⟨a, b, c⟩, faceHalfedges_of_triangle found first triangle, ?_, ?_,
      faceNodes_of_triangle found first triangle chain.side₁.start chain.side₂.start
        chain.side₃.start, ?_, fun h => ?_⟩
    · rw [next_eq_orInvalid, triangle.next_c]
      rfl
    · exact sound.nodup_triangle triangle
    · simp [Corners.toList, chain.ab, chain.bc, chain.ca.symm]
    · rw [faceOf_eq_ok_iff, triangle.reports_iff]
  boundary h free := by
    simp only [isBoundary_eq_true_iff, next_eq_orInvalid, prev_eq_orInvalid, orInvalid_eq_ok_iff]
      at free ⊢
    exact sound.exists_free free

/-- Whatever operations were run, and whether or not they succeeded: the next one trips no check
and leaves a well-formed mesh. -/
theorem wellFormed_of_operations (operations : List Operation) (operation : Operation) :
    (∀ kind error, (operation.outcome (empty.run operations)).1 ≠
        .error (.broken kind error)) ∧
      (operation.result (empty.run operations)).WellFormed := by
  have sound := sound_empty.run operations
  exact ⟨operation.outcome_ne_broken sound, (operation.sound_result sound).wellFormed⟩

end Mesh

end PlanarMesh
