import PlanarMesh.Proofs.Edit.RemoveEdge
import PlanarMesh.Proofs.Locality

/-!
# Taking back edges

An edge that was added and is removed again leaves no trace.  Its half-edges entered the rings of
two nodes, and leaving them they leave the rings as these were.  They represent a node only if it
was isolated before, and then it is isolated again.

This is so, too, if the free half-edges were reordered in between, up to that order.  `RolledBack`
is the relation that both cases share, and that passes from edge to edge as edges are taken back,
the last one first (`removeEdges_ends`).
-/

namespace PlanarMesh

namespace Mesh

/-- The same handles are live, and the records are as before except for the order of half-edges
without a face.  If `exact` holds, so is their order. -/
structure RolledBack (exact : Prop) (m m' : Mesh) : Prop where
  node? : ∀ n, m'.node? n = m.node? n
  face? : ∀ f, m'.face? f = m.face? f
  origin? : ∀ h, m'.origin? h = m.origin? h
  faceOf? : ∀ h, m'.faceOf? h = m.faceOf? h
  keeps_faced : m.Keeps m' fun g => m.Free g.pair
  ring : exact → ∀ n ring, m.Ring n ring → m'.Ring n ring

/-- The edges were added to `m` one after the other, the first one last in the list. -/
inductive Extended (m : Mesh) : List EdgeId → Mesh → Prop
  | refl : Extended m [] m
  | edge {edges : List EdgeId} {m' m'' : Mesh} {n₁ n₂ : NodeId} {e : EdgeId}
      (extended : Extended m edges m') (able : m'.Connectable n₁ n₂)
      (added : m'.AddedEdge n₁ n₂ e m'') : Extended m (e :: edges) m''

variable {m m' m'' : Mesh} {P Q : Prop}

/-! ## Records after a rollback -/

theorem SameRecords.rolledBack (same : m.SameRecords m') : m.RolledBack P m' where
  node? := same.node?
  face? := same.face?
  origin? := same.origin?
  faceOf? := same.faceOf?
  keeps_faced _ _ _ := same.follows
  ring _ _ _ := same.ring

theorem Rearranged.rolledBack (rearranged : m.Rearranged m') (inexact : ¬ P) :
    m.RolledBack P m' where
  node? n := by
    rw [Mesh.node?, rearranged.nodes]
    rfl
  face? f := by
    rw [Mesh.face?, rearranged.faces]
    rfl
  origin? := rearranged.origin?
  faceOf? := rearranged.faceOf?
  keeps_faced := rearranged.keeps_faced
  ring holds := absurd holds inexact

/-- What a refused face leaves. -/
theorem Rearranged.rolledBack_of_refused {error : MeshError} (rearranged : m.Rearranged m')
    (reason : error = .addFace .nonManifold ∨ m' = m) :
    m.RolledBack (error ≠ .addFace .nonManifold) m' := by
  rcases reason with blocked | rfl
  · exact rearranged.rolledBack fun other => other blocked
  · exact (SameRecords.refl _).rolledBack

namespace RolledBack

theorem mono (rolledBack : m.RolledBack P m') (weaker : Q → P) : m.RolledBack Q m' :=
  { rolledBack with ring := fun exact => rolledBack.ring (weaker exact) }

/-- Where all rings are as before, so are all records. -/
theorem sameRecords (rolledBack : m.RolledBack P m') (sound : m.Sound) (exact : P) :
    m.SameRecords m' where
  node? := rolledBack.node?
  face? := rolledBack.face?
  halfedge? h := by
    by_cases live : m.containsHalfedge h = true
    · rcases sound.exists_leads live with ⟨n, n', leads⟩
      exact halfedge?_of_rings sound leads (rolledBack.ring exact n) (rolledBack.ring exact n')
        (rolledBack.origin? h) (rolledBack.faceOf? h)
    · have dead : m.halfedge? h = none := by simpa [containsHalfedge] using live
      have gone := rolledBack.origin? h
      rw [Mesh.origin?, Mesh.origin?, dead, Option.map_none, Option.map_eq_none_iff] at gone
      rw [gone, dead]

end RolledBack

/-- Half-edges that report a face keep their places on loops where only free ones are moved. -/
theorem Keeps.next?_of_faced (keeps : m.Keeps m' fun g => m.Free g.pair) (sound : m.Sound)
    {h : HalfedgeId} {f : FaceId} (reports : m.faceOf? h = some (some f)) :
    m'.next? h = m.next? h := by
  rcases containsHalfedge_iff_next?.1 (containsHalfedge_iff_faceOf?.2 ⟨_, reports⟩) with ⟨g, next⟩
  have faced : ¬ m.Free h.pair.pair := by simp [Free, reports]
  rw [next]
  simpa using (keeps h.pair g faced (sound.follows_of_next? next)).1

theorem Keeps.prev?_of_faced (keeps : m.Keeps m' fun g => m.Free g.pair) (sound : m.Sound)
    {h : HalfedgeId} {f : FaceId} (reports : m.faceOf? h = some (some f)) :
    m'.prev? h = m.prev? h := by
  rcases containsHalfedge_iff_prev?.1 (containsHalfedge_iff_faceOf?.2 ⟨_, reports⟩) with ⟨g, prev⟩
  have faced : ¬ m.Free g.pair.pair := by
    rw [HalfedgeId.pair_pair, Free, ← sound.faceOf?_next? (sound.prev?_eq_some_iff.1 prev), reports]
    simp
  rw [prev]
  simpa using (keeps g.pair h faced (sound.follows_of_prev? prev)).2

/-! ## One edge -/

section TakenBack

variable {m₁ m₂ m₃ : Mesh} {n₁ n₂ : NodeId} {e : EdgeId} (sound : m.Sound)
  (able : m.Connectable n₁ n₂) (added : m.AddedEdge n₁ n₂ e m₁) (rolledBack : m₁.RolledBack P m₂)
  (dropped : m₂.DroppedEdge e m₃)

include added rolledBack dropped

theorem origin?_of_takenBack (h : HalfedgeId) : m₃.origin? h = m.origin? h := by
  rw [dropped.origin?]
  by_cases taken : h.edge = e
  · rw [if_pos taken, origin?, halfedge?_of_fresh (taken.trans added.key)]
    rfl
  · rw [if_neg taken, rolledBack.origin?, added.origin?_of_ne taken]

theorem faceOf?_of_takenBack (h : HalfedgeId) : m₃.faceOf? h = m.faceOf? h := by
  rw [dropped.faceOf?]
  by_cases taken : h.edge = e
  · rw [if_pos taken, faceOf?, halfedge?_of_fresh (taken.trans added.key)]
    rfl
  · rw [if_neg taken, rolledBack.faceOf?, added.faceOf?, if_neg taken]

theorem keeps_faced_of_takenBack : m.Keeps m₃ fun g => m.Free g.pair := by
  intro g h faced follows
  have old : g.pair.edge ≠ e := added.edge_ne (h := g) follows.live_left
  have faced₁ : ¬ m₁.Free g.pair := mt (added.free_iff old).1 faced
  have faced₂ : ¬ m₂.Free g.pair := by rwa [Free, rolledBack.faceOf?]
  exact dropped.keeps_faced g h faced₂
    (rolledBack.keeps_faced g h faced₁ (added.keeps_faced g h faced follows))

include sound

/-- A node that the edge had to represent is isolated again. -/
theorem node?_of_takenBack (n : NodeId) : m₃.node? n = m.node? n := by
  have position : (m₃.node? n).map Node.position = (m.node? n).map Node.position := by
    rw [dropped.position, rolledBack.node?, added.node?, Option.map_map]
    rfl
  cases found : m.node? n with
  | none => simpa [found] using position
  | some record =>
    cases chosen : record.halfedge with
    | some r =>
      have start := sound.representative n record r found chosen
      apply dropped.represented n record r _ chosen
      · exact added.edge_ne (containsHalfedge_of_origin? start)
      · rw [rolledBack.node?, added.node?_of_represented found chosen]
    | none =>
      rw [found] at position
      rcases Option.map_eq_some_iff.1 position with ⟨record', found', placed⟩
      have bare : record'.halfedge = none := by
        by_contra represented
        rcases Option.ne_none_iff_exists'.1 represented with ⟨r, chosen'⟩
        have start := dropped.sound.representative n record' r found' chosen'
        rw [origin?_of_takenBack added rolledBack dropped] at start
        exact sound.isolated n record found chosen r start
      rw [found']
      cases record
      cases record'
      simp_all

include able

/-- The rings of the ends are as they were. -/
theorem ring_of_takenBack (exact : P) {n : NodeId} {ring : Cycle HalfedgeId}
    (around : m.Ring n ring) : m₃.Ring n ring := by
  have left {h : HalfedgeId} (taken : h.edge = e) (docked : m.Docked h n m₁)
      (live : m.containsNode n = true) (room : ¬ m.Interior n) : m₃.Ring n ring := by
    rcases docked.exists_ring_concat sound live room with ⟨l, around', entered⟩
    rw [around.unique around']
    exact dropped.ring n l h taken (rolledBack.ring exact n _ entered)
  by_cases first : n = n₁
  · subst first
    exact left rfl added.docked₁ able.live₁ able.room₁
  by_cases second : n = n₂
  · subst second
    exact left rfl added.docked₂ able.live₂ able.room₂
  · have around₂ := rolledBack.ring exact n ring (added.ring_of_ne n ring first second around)
    apply dropped.ring_of_ne n ring _ around₂
    intro h mem
    exact added.edge_ne (containsHalfedge_of_origin? ((around.mem_iff h).1 mem))

/-- Removing the edge that was added last restores what was there before. -/
theorem rolledBack_of_takenBack : m.RolledBack P m₃ where
  node? := node?_of_takenBack sound added rolledBack dropped
  face? f := by
    rw [Mesh.face?, dropped.faces, ← Mesh.face?, rolledBack.face?, added.face?]
  origin? := origin?_of_takenBack added rolledBack dropped
  faceOf? := faceOf?_of_takenBack added rolledBack dropped
  keeps_faced := keeps_faced_of_takenBack added rolledBack dropped
  ring holds _ _ := ring_of_takenBack sound able added rolledBack dropped holds

end TakenBack

/-! ## Many edges -/

namespace Extended

variable {edges edges' : List EdgeId}

theorem sound (extended : m.Extended edges m') (sound : m.Sound) : m'.Sound := by
  cases extended with
  | refl => exact sound
  | edge _ _ added => exact added.sound

theorem append (first : m.Extended edges m') (second : m'.Extended edges' m'') :
    m.Extended (edges' ++ edges) m'' := by
  induction second with
  | refl => exact first
  | edge _ able added inductionHypothesis => exact .edge inductionHypothesis able added

end Extended

/-- Opening a free side changes nothing. -/
theorem Opened.eq_of_free {h : HalfedgeId} (opened : m.Opened h m') (free : m.Free h) : m' = m := by
  cases opened with
  | free => rfl
  | face reports => cases reports.symm.trans free

end Mesh

namespace Edit

open Mesh

variable {s : Session} {m : Mesh} {P : Prop}

/-- Removing the edge that was added last restores what was there before. -/
theorem removeEdge_ends_of_added {m₁ : Mesh} {n₁ n₂ : NodeId} {e : EdgeId} (sound : m.Sound)
    (able : m.Connectable n₁ n₂) (added : m.AddedEdge n₁ n₂ e m₁)
    (rolledBack : m₁.RolledBack P s.mesh) (still : s.mesh.Sound) :
    (removeEdge e).Ends s (fun _ m' => m'.Sound ∧ m.RolledBack P m') (fun _ _ => False) := by
  have free {h : HalfedgeId} (taken : h.edge = e) : s.mesh.Free h := by
    rw [Free, rolledBack.faceOf?]
    exact added.free_new taken
  apply (removeEdge_ends still).mono
  · rintro - m₃ ⟨-, t₁, t₂, opened₁, opened₂, dropped⟩
    cases opened₁.eq_of_free (free rfl)
    cases opened₂.eq_of_free (free rfl)
    exact ⟨dropped.sound, rolledBack_of_takenBack sound able added rolledBack dropped⟩
  · rintro error m ⟨dead, -⟩
    have live := containsHalfedge_iff_faceOf?.2 ⟨none, free (h := e.first) rfl⟩
    rw [containsHalfedge_eq_containsEdge] at live
    cases dead.symm.trans live

/-- Removing the edges that were added, the last one first, restores what was there before. -/
theorem removeEdges_ends {edges : List EdgeId} {m₁ : Mesh} (sound : m.Sound)
    (extended : m.Extended edges m₁) (rolledBack : m₁.RolledBack P s.mesh) (still : s.mesh.Sound) :
    (edges.forM removeEdge).Ends s (fun _ m' => m'.Sound ∧ m.RolledBack P m')
      (fun _ _ => False) := by
  induction extended generalizing s with
  | refl => exact ⟨still, rolledBack⟩
  | edge extended able added inductionHypothesis =>
    apply (removeEdge_ends_of_added (extended.sound sound) able added rolledBack still).bind
    · rintro - t ⟨still', rolledBack'⟩
      exact inductionHypothesis rolledBack' still'
    · exact fun _ _ => id

end Edit

end PlanarMesh
