import PlanarMesh.Proofs.Reachability

/-!
# Refused operations

An operation that is refused leaves all records as they were, with one exception.  A face is
refused only after some of its corners may have been joined, and what moved for that is not moved
back: then the half-edges without a face may be in another order (`Reordered`).

Building from a list stops at the first triangle that is refused and leaves what was built, so
nothing of this holds for it.
-/

namespace PlanarMesh

namespace Edit

open Mesh

variable {α : Type}

/-- If the edit is refused, it has taken back what it did, up to the order of free half-edges in
case some of them could not be joined. -/
def RollsBack (edit : Edit α) : Prop :=
  ∀ s : Session, s.mesh.Sound → edit.Ends s (fun _ _ => True) fun error m =>
    m.Sound ∧ s.mesh.RolledBack (error ≠ .addFace .nonManifold) m

theorem RollsBack.map {β : Type} {edit : Edit α} (rollsBack : RollsBack edit) (f : α → β) :
    RollsBack (do return f (← edit)) := fun s sound =>
  (rollsBack s sound).bind (fun _ _ => id) fun _ _ => id

/-- An edit that is refused before it has changed anything. -/
theorem rollsBack_of_unchanged {edit : Edit α}
    (unchanged : ∀ s : Session, s.mesh.Sound →
      edit.Ends s (fun _ _ => True) fun _ m => m = s.mesh) : RollsBack edit := fun s sound => by
  apply (unchanged s sound).mono fun _ _ => id
  rintro error m rfl
  exact ⟨sound, (SameRecords.refl _).rolledBack⟩

theorem rollsBack_addNode (position : Point) : RollsBack (addNode position) := fun _ sound =>
  (addNode_ends sound).mono (fun _ _ _ => trivial) fun _ _ => False.elim

theorem rollsBack_removeNode (n : NodeId) : RollsBack (removeNode n) :=
  rollsBack_of_unchanged fun _ sound =>
    (removeNode_ends sound).mono (fun _ _ _ => trivial) fun _ _ refused => refused.2.1

theorem rollsBack_addEdge (n₁ n₂ : NodeId) : RollsBack (addEdge n₁ n₂) := fun _ sound =>
  (addEdge_ends sound).mono (fun _ _ _ => trivial) fun _ _ refused =>
    ⟨refused.2.sound sound, refused.2.rolledBack⟩

theorem rollsBack_removeEdge (e : EdgeId) : RollsBack (removeEdge e) :=
  rollsBack_of_unchanged fun _ sound =>
    (removeEdge_ends sound).mono (fun _ _ _ => trivial) fun _ _ refused => refused.2.1

theorem rollsBack_addFace (h₁ h₂ h₃ : HalfedgeId) : RollsBack (addFace h₁ h₂ h₃) :=
  fun _ sound => (addFace_ends sound).mono (fun _ _ _ => trivial) fun _ _ refused =>
    ⟨refused.2.1, refused.2.2.1.rolledBack_of_refused refused.2.2.2⟩

theorem rollsBack_removeFace (f : FaceId) : RollsBack (removeFace f) :=
  rollsBack_of_unchanged fun _ sound =>
    (removeFace_ends sound).mono (fun _ _ _ => trivial) fun _ _ refused => refused.2.1

theorem rollsBack_addTriangle (a b c : NodeId) : RollsBack (addTriangle a b c) := fun _ sound =>
  (addTriangle_ends sound).mono (fun _ _ _ => trivial) fun _ _ refused =>
    ⟨refused.2.1, refused.2.2.mono fun other _ => other⟩

theorem rollsBack_splitEdge (e : EdgeId) (position : Point) :
    RollsBack (splitEdge e position) :=
  rollsBack_of_unchanged fun _ sound =>
    (splitEdge_ends sound).mono (fun _ _ _ => trivial) fun _ _ refused => refused.2.1

theorem rollsBack_splitFace (f : FaceId) (position : Point) :
    RollsBack (splitFace f position) :=
  rollsBack_of_unchanged fun _ sound =>
    (splitFace_ends sound).mono (fun _ _ _ => trivial) fun _ _ refused => refused.2.1

end Edit

namespace Operation

open Mesh

/-- The operation adds more than a single triangle. -/
def IsBuild : Operation → Prop
  | build _ => True
  | _ => False

instance : DecidablePred IsBuild := fun operation => by
  cases operation <;> unfold IsBuild <;> infer_instance

theorem rollsBack_edit {operation : Operation} (single : ¬ operation.IsBuild) :
    operation.edit.RollsBack := by
  cases operation with
  | addNode position => exact (Edit.rollsBack_addNode position).map _
  | removeNode n => exact (Edit.rollsBack_removeNode n).map fun _ => Reply.done
  | addEdge n₁ n₂ => exact (Edit.rollsBack_addEdge n₁ n₂).map _
  | removeEdge e => exact (Edit.rollsBack_removeEdge e).map fun _ => Reply.done
  | addFace h₁ h₂ h₃ => exact (Edit.rollsBack_addFace h₁ h₂ h₃).map _
  | removeFace f => exact (Edit.rollsBack_removeFace f).map fun _ => Reply.done
  | addTriangle a b c => exact (Edit.rollsBack_addTriangle a b c).map _
  | splitEdge e position => exact (Edit.rollsBack_splitEdge e position).map _
  | splitFace f position => exact (Edit.rollsBack_splitFace f position).map _
  | build list => exact absurd trivial single

/-- What a refused operation leaves of a sound mesh. -/
theorem rolledBack_result {operation : Operation} {m : Mesh} {error : MeshError}
    (sound : m.Sound) (single : ¬ operation.IsBuild)
    (refused : (operation.outcome m).1 = .error (.refused error)) :
    (operation.result m).Sound ∧
      m.RolledBack (error ≠ .addFace .nonManifold) (operation.result m) := by
  rcases outcome_of_ends (rollsBack_edit single (Session.on m) sound) with
    ⟨reply, m', ended, -⟩ | ⟨error', m', ended, still, rolledBack⟩
  · rw [ended] at refused
    cases refused
  · rw [result, ended]
    rw [ended] at refused
    cases refused
    exact ⟨still, rolledBack⟩

end Operation

namespace Mesh

/-- The same handles are live, and the records are as before except for the pointers along loops of
half-edges without a face.  At every node the same half-edges start, and the checks pass. -/
structure Reordered (m m' : Mesh) : Prop where
  node? : ∀ n, m'.node? n = m.node? n
  face? : ∀ f, m'.face? f = m.face? f
  origin? : ∀ h, m'.origin? h = m.origin? h
  faceOf? : ∀ h, m'.faceOf? h = m.faceOf? h
  next? : ∀ h f, m.faceOf? h = some (some f) → m'.next? h = m.next? h
  prev? : ∀ h f, m.faceOf? h = some (some f) → m'.prev? h = m.prev? h
  outgoing : ∀ n h, (∃ l, m'.outgoing n = .ok l ∧ h ∈ l) ↔ ∃ l, m.outgoing n = .ok l ∧ h ∈ l
  checks : m'.checkTopology {} = .ok ()

variable {m m' : Mesh}

/-- The half-edges that a walk around a node lists are those that start there. -/
theorem Sound.mem_outgoing_iff (sound : m.Sound) {n : NodeId} {h : HalfedgeId} :
    (∃ l, m.outgoing n = .ok l ∧ h ∈ l) ↔ m.origin? h = some n := by
  constructor
  · rintro ⟨l, lists, mem⟩
    cases live : m.containsNode n with
    | false =>
      rw [Mesh.outgoing, node_of_dead live] at lists
      cases lists
    | true =>
      rcases sound.exists_tour live with ⟨l', lists', around⟩
      cases lists.symm.trans lists'
      exact (around.mem_iff h).1 mem
  · intro start
    rcases sound.exists_tour (sound.origin_live h n start) with ⟨l, lists, around⟩
    exact ⟨l, lists, (around.mem_iff h).2 start⟩

theorem RolledBack.reordered {P : Prop} (rolledBack : m.RolledBack P m') (sound : m.Sound)
    (still : m'.Sound) : m.Reordered m' where
  node? := rolledBack.node?
  face? := rolledBack.face?
  origin? := rolledBack.origin?
  faceOf? := rolledBack.faceOf?
  next? _ _ := rolledBack.keeps_faced.next?_of_faced sound
  prev? _ _ := rolledBack.keeps_faced.prev?_of_faced sound
  outgoing n h := by rw [still.mem_outgoing_iff, sound.mem_outgoing_iff, rolledBack.origin?]
  checks := still.checkInvariants

/-- Whatever operations were run: if the next one is refused, and is not the building of a list,
then every record stays as it is.  Only if a face was refused because its sides could not be
joined, free half-edges may be in another order. -/
theorem refused_of_operations (operations : List Operation) {operation : Operation}
    {error : MeshError} (single : ¬ operation.IsBuild)
    (refused : (operation.outcome (empty.run operations)).1 = .error (.refused error)) :
    let m := empty.run operations
    let m' := operation.result m
    (error ≠ .addFace .nonManifold → m.SameRecords m') ∧
      (error = .addFace .nonManifold → m.Reordered m') := by
  have sound := sound_empty.run operations
  obtain ⟨still, rolledBack⟩ := Operation.rolledBack_result sound single refused
  exact ⟨rolledBack.sameRecords sound, fun _ => rolledBack.reordered sound still⟩

/-- Two triangles side by side, and a third one that meets both in a corner.  One more edge runs
behind the two, and at one of its ends another edge hangs. -/
def bowtie : List Operation :=
  [.build ⟨[⟨0, 0⟩, ⟨1, 0⟩, ⟨1, 1⟩, ⟨0, 1⟩, ⟨-1, 0⟩, ⟨0, -1⟩, ⟨0, 2⟩],
      [⟨0, 1, 2⟩, ⟨0, 2, 3⟩, ⟨0, 4, 5⟩]⟩,
    .addEdge ⟨4, 0⟩ ⟨2, 0⟩, .addEdge ⟨4, 0⟩ ⟨7, 0⟩]

/-- A triangle with a missing node for its third corner is refused after its first edge was added,
and all records are as before.  A triangle behind the two is refused at the corner where the third
one is in the way, and there what was joined before stays joined. -/
theorem refused_bowtie :
    let m := empty.run bowtie
    let incomplete : Operation := .addTriangle ⟨2, 0⟩ ⟨5, 0⟩ ⟨8, 0⟩
    let behind : Operation := .addTriangle ⟨1, 0⟩ ⟨4, 0⟩ ⟨2, 0⟩
    ¬ incomplete.IsBuild ∧ (incomplete.outcome m).1 = .error (.refused (.invalidNode ⟨8, 0⟩)) ∧
      m.SameRecords (incomplete.result m) ∧ ¬ behind.IsBuild ∧
      (behind.outcome m).1 = .error (.refused (.addFace .nonManifold)) ∧
      m.Reordered (behind.result m) ∧
      (behind.result m).next (Key.second ⟨5, 0⟩) ≠ m.next (Key.second ⟨5, 0⟩) := by
  intro m incomplete behind
  have first : ¬ incomplete.IsBuild := id
  have missing : (incomplete.outcome m).1 = .error (.refused (.invalidNode ⟨8, 0⟩)) := by
    decide +kernel
  have second : ¬ behind.IsBuild := id
  have blocked : (behind.outcome m).1 = .error (.refused (.addFace .nonManifold)) := by
    decide +kernel
  have restored := (refused_of_operations bowtie first missing).1 (by decide)
  have reordered := (refused_of_operations bowtie second blocked).2 rfl
  exact ⟨first, missing, restored, second, blocked, reordered, by decide +kernel⟩

end Mesh

end PlanarMesh
