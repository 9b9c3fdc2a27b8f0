import PlanarMesh.Proofs.Boundary.Splitting
import PlanarMesh.Proofs.FaceOutcome
import PlanarMesh.Proofs.Loading

/-!
# Joining half-edges

Half-edges without a face, one of which arrives where the other leaves, are joined by moving a
segment of the ring of their node past another (`SegmentMoved`).  It is done as a whole or not at
all (`mergeAdjacent_of_wellFormed`): if they can be joined, the mesh stays well-formed and nothing
else changes, and if not, nothing changes.  They cannot exactly if the corner between them is
blocked.

What readers may rely on is all that edits need (`wellFormed_iff_sound`), so this holds of every
well-formed mesh, wherever it comes from.
-/

namespace PlanarMesh

namespace Mesh

variable {m m' : Mesh} {v : NodeId} {i o : HalfedgeId}

/-! ## Well-formed meshes -/

theorem wellFormed_iff_sound : m.WellFormed ↔ m.Sound := by
  constructor
  · intro wellFormed
    have intact : m.Intact := checkTopology_tells.eq_ok_iff.1 wellFormed.checks
    exact intact.sound wellFormed.ends_ne
  · exact Sound.wellFormed

/-! ## Moved segments -/

/-- On `m'` two segments of the ring of `v` have changed places, so that `i` now ends the list that
`o` begins.  Nothing else has changed: neither the rings of other nodes nor the pointers of
half-edges with a face, nor any node, face, origin or reported face. -/
structure SegmentMoved (m : Mesh) (v : NodeId) (i o : HalfedgeId) (m' : Mesh) : Prop where
  nodes : m'.nodes = m.nodes
  faces : m'.faces = m.faces
  origin? : ∀ h, m'.origin? h = m.origin? h
  faceOf? : ∀ h, m'.faceOf? h = m.faceOf? h
  next?_of_faced : ∀ h f, m.faceOf? h = some (some f) → m'.next? h = m.next? h
  prev?_of_faced : ∀ h f, m.faceOf? h = some (some f) → m'.prev? h = m.prev? h
  ring_of_ne : ∀ n ring, n ≠ v → m.Ring n ring → m'.Ring n ring
  ring : ∃ A B C : List HalfedgeId, A.head? = some o ∧ B.getLast? = some i ∧
    m.Ring v ↑(A ++ B ++ C) ∧ m'.Ring v ↑(A ++ C ++ B)

/-- The ring of the node before and after. -/
theorem Regrouped.exists_segments (regrouped : m.Regrouped i o m') (sound : m.Sound)
    (joinable : m.Joinable i o) (oStart : m.origin? o = some v) (differ : i ≠ o) :
    ∃ A B C : List HalfedgeId, A.head? = some o ∧ B.getLast? = some i ∧
      m.Ring v ↑(A ++ B ++ C) ∧ m'.Ring v ↑(A ++ C ++ B) := by
  rcases joinable with follows | ⟨n, W, C, around, start, room⟩
  · -- There is nothing to move.
    rw [regrouped.unmoved follows]
    rcases sound.exists_gap follows oStart with ⟨l, around, start, last⟩
    rcases List.getLast?_eq_some_iff.1 last with ⟨W, rfl⟩
    have start' : W.head? = some o := by
      cases W with
      | nil => exact absurd (Option.some.inj start) differ
      | cons a W => exact start
    exact ⟨W, [i], [], start', rfl, by simpa using around, by simpa using around⟩
  · rcases exists_firstFree room with ⟨A, g, B, first⟩
    have oStart' := (around.mem_iff o).1 (by simp [List.mem_of_head? start])
    cases oStart'.symm.trans oStart
    have around' := regrouped.ring v W C A g B around start first
    rw [first.split] at around start
    refine ⟨A ++ [g], B ++ [i], C, ?_, by simp, by simpa using around, by simpa using around'⟩
    rwa [List.append_cons, List.head?_append_of_ne_nil _ (by simp)] at start

theorem Regrouped.segmentMoved (regrouped : m.Regrouped i o m') (sound : m.Sound)
    (joinable : m.Joinable i o) (oStart : m.origin? o = some v) (differ : i ≠ o) :
    m.SegmentMoved v i o m' where
  nodes := regrouped.nodes
  faces := regrouped.faces
  origin? := regrouped.origin?
  faceOf? := regrouped.faceOf?
  next?_of_faced _ _ := regrouped.keeps_faced.next?_of_faced sound
  prev?_of_faced _ _ := regrouped.keeps_faced.prev?_of_faced sound
  ring_of_ne n ring other := by
    apply regrouped.ring_of_ne n ring
    rw [oStart]
    exact fun same => other (Option.some.inj same).symm
  ring := regrouped.exists_segments sound joinable oStart differ

end Mesh

namespace Edit

open Mesh

variable {s : Session} {incoming out : HalfedgeId} {v : NodeId}

/-- On any well-formed mesh, let `incoming` and `out` be half-edges without a face on different
edges, of which the one ends at `v` and the other starts there.  If the corner between them is not
blocked they are joined: a segment of the ring of `v` is moved, and the mesh is well-formed again.
If it is blocked, that is, if they do not follow each other and a walk from the twin of `out` passes
no half-edge without a face before it reaches `incoming`, this is refused for want of a place at
`v`, and the mesh is as before. -/
theorem mergeAdjacent_of_wellFormed (wellFormed : s.mesh.WellFormed)
    (inFree : s.mesh.isBoundary incoming = .ok true) (outFree : s.mesh.isBoundary out = .ok true)
    (differ : incoming.edge ≠ out.edge) (finish : s.mesh.target incoming = .ok v)
    (start : s.mesh.origin out = .ok v) :
    (¬ s.mesh.Blocked incoming out → ∃ t, mergeAdjacent incoming out s = .ok () t ∧
        t.mesh.next incoming = .ok out ∧ t.mesh.WellFormed ∧
        s.mesh.SegmentMoved v incoming.pair out t.mesh) ∧
      (s.mesh.Blocked incoming out → ∃ t, mergeAdjacent incoming out s =
        .error (.refused (.topology (.noFreeSlot v))) t ∧ t.mesh = s.mesh) := by
  have sound := wellFormed_iff_sound.1 wellFormed
  rw [target_eq_ok_iff] at finish
  rw [origin_eq_ok_iff] at start
  rw [isBoundary_eq_true_iff] at inFree outFree
  have apart : incoming.pair ≠ out := by
    rintro rfl
    exact differ rfl
  have inFree' : s.mesh.Free incoming.pair.pair := by rwa [HalfedgeId.pair_pair]
  have blocked_iff := sound.blocked_iff finish start apart
  have ends := mergeAdjacent_ends sound finish start apart inFree' outFree
  rw [HalfedgeId.pair_pair] at blocked_iff ends
  rw [blocked_iff, not_not]
  unfold Ends at ends
  split at ends
  · next t ended =>
    rcases ends with ⟨joinable, regrouped⟩
    refine ⟨fun _ => ⟨t, ended, ?_, ?_, ?_⟩, fun closed => absurd joinable closed⟩
    · have next := regrouped.follows.1
      rw [HalfedgeId.pair_pair] at next
      exact next_eq_ok_iff.2 next
    · exact wellFormed_iff_sound.2 (regrouped.sound_of_joinable sound joinable)
    · exact regrouped.segmentMoved sound joinable start apart
  · next error t ended =>
    rcases ends with ⟨closed, unchanged, rfl⟩
    exact ⟨fun joinable => absurd joinable closed, fun _ => ⟨t, ended, unchanged⟩⟩
  · exact ends.elim

/-- At the top of the tripod a half-edge is moved to join two others.  At the waist of the hourglass
there is no place on the way around a triangle. -/
theorem mergeAdjacent_tripod :
    let m := empty.run tripod
    let i : HalfedgeId := ⟨⟨1, 0⟩, .second⟩
    let o : HalfedgeId := ⟨⟨2, 0⟩, .first⟩
    let m' := empty.run hourglass
    let i' : HalfedgeId := ⟨⟨1, 0⟩, .second⟩
    let o' : HalfedgeId := ⟨⟨3, 0⟩, .second⟩
    m.next i ≠ .ok o ∧
      (∃ t, mergeAdjacent i o (Session.on m) = .ok () t ∧ t.mesh.next i = .ok o ∧
        t.mesh.WellFormed ∧ m.SegmentMoved ⟨1, 0⟩ i.pair o t.mesh) ∧
      m'.Blocked i' o' ∧ ∃ t, mergeAdjacent i' o' (Session.on m') =
        .error (.refused (.topology (.noFreeSlot ⟨1, 0⟩))) t ∧ t.mesh = m' := by
  intro m i o m' i' o'
  have wellFormed : m.WellFormed := (sound_empty.run tripod).wellFormed
  have wellFormed' : m'.WellFormed := (sound_empty.run hourglass).wellFormed
  have moves : m.next i ≠ .ok o := by decide +kernel
  have unfaced : m.faceOf o.pair = .ok none := by decide +kernel
  have blocked : m'.Blocked i' o' :=
    blocked_of_next_pair (f := ⟨1, 0⟩) (by decide +kernel) (by decide +kernel) (by decide +kernel)
  have unblocked : ¬ m.Blocked i o := by
    intro blocked
    rcases blocked.faced o.pair (.start (by decide)) with ⟨f, faced⟩
    cases unfaced.symm.trans faced
  have ends : m.isBoundary i = .ok true ∧ m.isBoundary o = .ok true ∧
      m.target i = .ok ⟨1, 0⟩ ∧ m.origin o = .ok ⟨1, 0⟩ := by decide +kernel
  have ends' : m'.isBoundary i' = .ok true ∧ m'.isBoundary o' = .ok true ∧
      m'.target i' = .ok ⟨1, 0⟩ ∧ m'.origin o' = .ok ⟨1, 0⟩ := by decide +kernel
  -- From here on it does not matter which meshes these are.
  clear_value m m'
  rcases ends with ⟨inFree, outFree, finish, start⟩
  rcases ends' with ⟨inFree', outFree', finish', start'⟩
  have joined := mergeAdjacent_of_wellFormed (s := Session.on m) wellFormed inFree outFree
    (by decide) finish start
  have refused := mergeAdjacent_of_wellFormed (s := Session.on m') wellFormed' inFree' outFree'
    (by decide) finish' start'
  exact ⟨moves, joined.1 unblocked, blocked, refused.2 blocked⟩

end Edit

end PlanarMesh
