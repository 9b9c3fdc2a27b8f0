import PlanarMesh.Proofs.Splice.Relink

/-!
# What stays and what is read off it

If everything that follows stays but around closed loops, then every half-edge off these loops
keeps its record (`Keeps.halfedge?`).  A half-edge between nodes that keep their rings keeps its
record as well (`halfedge?_of_rings`).  The half-edges and the corner nodes of a face are those of
its triangle.
-/

namespace PlanarMesh

namespace Mesh

variable {m m' : Mesh}

/-- Half-edges off the loops that were opened up keep their records. -/
theorem Keeps.halfedge? (moved : HalfedgeId → Prop) (keeps : m.Keeps m' fun g => moved g.pair)
    (sound : m.Sound) (closed : ∀ h k, m.next? h = some k → moved h → moved k) {h : HalfedgeId}
    (live : m.containsHalfedge h = true) (still : ¬ moved h) (origin? : m'.origin? h = m.origin? h)
    (faceOf? : m'.faceOf? h = m.faceOf? h) : m'.halfedge? h = m.halfedge? h := by
  refine halfedge?_ext origin? ?_ ?_ faceOf?
  · rcases containsHalfedge_iff_next?.1 live with ⟨k, next⟩
    have kept := keeps h.pair k (by simpa using still) (sound.follows_of_next? next)
    rw [next]
    simpa using kept.1
  · rcases containsHalfedge_iff_prev?.1 live with ⟨k, prev⟩
    have before : ¬ moved k := fun was =>
      still (closed k h (sound.prev?_eq_some_iff.1 prev) was)
    have kept := keeps k.pair h (by simpa using before) (sound.follows_of_prev? prev)
    rw [prev]
    simpa using kept.2

/-- What follows around a node stays if the ring of the node does. -/
theorem Sound.follows_of_ring (sound : m.Sound) {n : NodeId}
    (kept : ∀ ring, m.Ring n ring → m'.Ring n ring) {g h : HalfedgeId}
    (start : m.origin? g = some n) (follows : m.Follows g h) : m'.Follows g h := by
  rcases sound.exists_ring n with ⟨ring, around⟩
  have mem := (around.mem_iff g).2 start
  exact (kept ring around).follows ((around.follows_iff mem).1 follows)

section Rings

variable (sound : m.Sound) {h : HalfedgeId} {n n' : NodeId}

include sound

/-- What comes after a half-edge stays if the ring where it ends does. -/
theorem Sound.next?_of_ring (kept : ∀ ring, m.Ring n ring → m'.Ring n ring)
    (finish : m.origin? h.pair = some n) : m'.next? h = m.next? h := by
  have live := containsHalfedge_of_origin? finish
  rw [containsHalfedge_pair] at live
  rcases containsHalfedge_iff_next?.1 live with ⟨k, next⟩
  have follows := sound.follows_of_ring kept finish (sound.follows_of_next? next)
  rw [next]
  simpa using follows.1

/-- What comes before a half-edge stays if the ring where it starts does. -/
theorem Sound.prev?_of_ring (kept : ∀ ring, m.Ring n ring → m'.Ring n ring)
    (start : m.origin? h = some n) : m'.prev? h = m.prev? h := by
  rcases containsHalfedge_iff_prev?.1 (containsHalfedge_of_origin? start) with ⟨k, prev⟩
  have before := sound.follows_of_prev? prev
  have start' : m.origin? k.pair = some n := by
    rw [← sound.origin?_of_follows before, start]
  rw [prev]
  simpa using (sound.follows_of_ring kept start' before).2

/-- Half-edges between nodes that keep their rings keep their records. -/
theorem halfedge?_of_rings (leads : m.Leads h n n')
    (kept : ∀ ring, m.Ring n ring → m'.Ring n ring)
    (kept' : ∀ ring, m.Ring n' ring → m'.Ring n' ring) (origin? : m'.origin? h = m.origin? h)
    (faceOf? : m'.faceOf? h = m.faceOf? h) : m'.halfedge? h = m.halfedge? h :=
  halfedge?_ext origin? (sound.next?_of_ring kept' leads.finish)
    (sound.prev?_of_ring kept leads.start) faceOf?

/-- If all rings stay, so do all pointers along loops. -/
theorem Sound.pointers_of_rings (origin? : ∀ h, m'.origin? h = m.origin? h)
    (kept : ∀ n ring, m.Ring n ring → m'.Ring n ring) (h : HalfedgeId) :
    m'.next? h = m.next? h ∧ m'.prev? h = m.prev? h := by
  cases start : m.origin? h with
  | none =>
    have dead' := (origin? h).trans start
    simp only [Mesh.origin?, Option.map_eq_none_iff] at start dead'
    simp [next?, prev?, start, dead']
  | some n =>
    rcases sound.exists_origin_pair start with ⟨n', finish, -⟩
    exact ⟨sound.next?_of_ring (kept n') finish, sound.prev?_of_ring (kept n) start⟩

end Rings

section Face

variable {g : FaceId} {record : Face} {t : Corners HalfedgeId} {a b c : NodeId}
  (found : m.face? g = some record) (first : t.a = record.halfedge)

include found first

theorem faceHalfedges_of_next (next_a : m.next? t.a = some t.b) (next_b : m.next? t.b = some t.c) :
    m.faceHalfedges g = .ok t := by
  rw [faceHalfedges, face_eq_ok_iff.2 found]
  simp [bind, Except.bind, pure, Except.pure, next_eq_orInvalid, ← first, next_a, next_b,
    orInvalid]

variable (triangle : m.Triangle g t)

include triangle

theorem faceHalfedges_of_triangle : m.faceHalfedges g = .ok t :=
  faceHalfedges_of_next found first triangle.next_a triangle.next_b

theorem faceNodes_of_triangle (startA : m.origin? t.a = some a) (startB : m.origin? t.b = some b)
    (startC : m.origin? t.c = some c) : m.faceNodes g = .ok ⟨a, b, c⟩ := by
  rw [faceNodes, faceHalfedges_of_triangle found first triangle]
  simp [bind, Except.bind, pure, Except.pure, Corners.mapM, origin_eq_orInvalid, startA, startB,
    startC, orInvalid]

end Face

/-- What the walk around a face goes by. -/
theorem faceHalfedges_eq_ok_iff {f : FaceId} {t : Corners HalfedgeId} :
    m.faceHalfedges f = .ok t ↔
      m.face? f = some ⟨t.a⟩ ∧ m.next? t.a = some t.b ∧ m.next? t.b = some t.c := by
  constructor
  · intro told
    rcases bind_eq_ok_iff.1 told with ⟨record, found, rest⟩
    rcases bind_eq_ok_iff.1 rest with ⟨h₂, next_a, rest'⟩
    rcases bind_eq_ok_iff.1 rest' with ⟨h₃, next_b, same⟩
    cases same
    rw [next_eq_ok_iff] at next_a next_b
    exact ⟨face_eq_ok_iff.1 found, next_a, next_b⟩
  · rintro ⟨found, next_a, next_b⟩
    exact faceHalfedges_of_next found rfl next_a next_b

end Mesh

end PlanarMesh
