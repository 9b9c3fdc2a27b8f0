import PlanarMesh.Proofs.Ring

/-!
# Sound meshes

A mesh is `Sound` when its records describe half-edges of a triangulated surface: edges
connect two different live nodes, every node has a ring and is represented on it, and every
live face is a triangle of exactly those half-edges that report it.

This is more than the checks after an edit test, and it is what edits preserve.  On a sound
mesh the boundary is closed along loops (`Sound.free_iff`), because a loop that enters a face
never left it.
-/

namespace PlanarMesh

namespace Mesh

/-- The loop of the face `f`, and the half-edges that report `f`, are the sides of `t`. -/
structure Triangle (m : Mesh) (f : FaceId) (t : Corners HalfedgeId) : Prop where
  next_a : m.next? t.a = some t.b
  next_b : m.next? t.b = some t.c
  next_c : m.next? t.c = some t.a
  reports_iff : ∀ h, m.faceOf? h = some (some f) ↔ h ∈ t.toList

/-- The records of the mesh fit together. -/
structure Sound (m : Mesh) : Prop where
  origin_live : ∀ h n, m.origin? h = some n → m.containsNode n = true
  ends_ne : ∀ h n, m.origin? h = some n → m.origin? h.pair ≠ some n
  exists_ring : ∀ n, ∃ ring, m.Ring n ring
  isolated : ∀ n record, m.node? n = some record → record.halfedge = none →
    ∀ h, m.origin? h ≠ some n
  representative : ∀ n record h, m.node? n = some record → record.halfedge = some h →
    m.origin? h = some n
  face_live : ∀ h f, m.faceOf? h = some (some f) → m.containsFace f = true
  triangle : ∀ f record, m.face? f = some record →
    ∃ t, t.a = record.halfedge ∧ m.Triangle f t

/-! ## Pointers -/

namespace Sound

variable {m : Mesh} (sound : m.Sound)

include sound

theorem exists_follows {h : HalfedgeId} {n : NodeId} (start : m.origin? h = some n) :
    ∃ g, m.Follows h g ∧ m.origin? g = some n := by
  rcases sound.exists_ring n with ⟨ring, around⟩
  rcases Cycle.exists_adjacent ((around.mem_iff h).2 start) with ⟨g, adjacent⟩
  exact ⟨g, around.follows adjacent, (around.mem_iff g).1 adjacent.mem_right⟩

theorem exists_follows_to {h : HalfedgeId} {n : NodeId} (start : m.origin? h = some n) :
    ∃ g, m.Follows g h ∧ m.origin? g = some n := by
  rcases sound.exists_ring n with ⟨ring, around⟩
  rcases Cycle.exists_adjacent_to ((around.mem_iff h).2 start) with ⟨g, adjacent⟩
  exact ⟨g, around.follows adjacent, (around.mem_iff g).1 adjacent.mem_left⟩

/-- The ring of a node, from a half-edge on to the one before it. -/
theorem exists_gap {g h : HalfedgeId} {n : NodeId} (follows : m.Follows g h)
    (start : m.origin? h = some n) :
    ∃ l : List HalfedgeId, m.Ring n ↑l ∧ l.head? = some h ∧ l.getLast? = some g := by
  rcases sound.exists_ring n with ⟨ring, around⟩
  have mem := around.mem_of_follows_right ((around.mem_iff h).2 start) follows
  rcases (around.follows_iff mem).1 follows with ⟨l, rfl, last, first⟩
  exact ⟨l, around, first, last⟩

/-- The ring of a node, from its representative on. -/
theorem exists_ring_from {n : NodeId} {record : Node} {r : HalfedgeId}
    (found : m.node? n = some record) (chosen : record.halfedge = some r) :
    ∃ l : List HalfedgeId, m.Ring n ↑l ∧ l.head? = some r := by
  rcases sound.exists_ring n with ⟨ring, around⟩
  obtain ⟨l, rfl⟩ := Cycle.exists_coe_cons
    ((around.mem_iff r).2 (sound.representative n record r found chosen))
  exact ⟨r :: l, around, rfl⟩

/-- A node at which something starts is represented on its ring. -/
theorem exists_representative {h : HalfedgeId} {n : NodeId}
    (start : m.origin? h = some n) : ∃ record r ring, m.node? n = some record ∧
      record.halfedge = some r ∧ m.Ring n ring ∧ r ∈ ring := by
  rcases Option.isSome_iff_exists.1 (sound.origin_live h n start) with ⟨record, found⟩
  rcases sound.exists_ring n with ⟨ring, around⟩
  cases chosen : record.halfedge with
  | none => exact absurd start (sound.isolated n record found chosen h)
  | some r =>
    exact ⟨record, r, ring, found, chosen, around,
      (around.mem_iff r).2 (sound.representative n record r found chosen)⟩

theorem exists_origin_pair {h : HalfedgeId} {n : NodeId} (start : m.origin? h = some n) :
    ∃ n', m.origin? h.pair = some n' ∧ n' ≠ n := by
  have live := containsHalfedge_of_origin? start
  rw [← containsHalfedge_pair] at live
  rcases containsHalfedge_iff_origin?.1 live with ⟨n', finish⟩
  exact ⟨n', finish, fun same => sound.ends_ne h n start (same ▸ finish)⟩

theorem ends_ne_of_leads {h : HalfedgeId} {n n' : NodeId} (leads : m.Leads h n n') : n ≠ n' := by
  rintro rfl
  exact sound.ends_ne h n leads.start leads.finish

theorem exists_leads {h : HalfedgeId} (live : m.containsHalfedge h = true) :
    ∃ n n', m.Leads h n n' := by
  rcases containsHalfedge_iff_origin?.1 live with ⟨n, start⟩
  rcases sound.exists_origin_pair start with ⟨n', finish, -⟩
  exact ⟨n, n', start, finish⟩

theorem follows_of_next? {h g : HalfedgeId} (next : m.next? h = some g) :
    m.Follows h.pair g := by
  have live : m.containsHalfedge h.pair = true := by
    rw [containsHalfedge_pair]
    exact containsHalfedge_iff_next?.2 ⟨g, next⟩
  rcases containsHalfedge_iff_origin?.1 live with ⟨n, start⟩
  rcases sound.exists_follows start with ⟨g', follows, _⟩
  have same : m.next? h = some g' := by simpa using follows.1
  rwa [Option.some.inj (next.symm.trans same)]

theorem follows_of_prev? {h g : HalfedgeId} (prev : m.prev? h = some g) :
    m.Follows g.pair h := by
  obtain ⟨n, start⟩ :=
    containsHalfedge_iff_origin?.1 (containsHalfedge_iff_prev?.2 ⟨g, prev⟩)
  rcases sound.exists_follows_to start with ⟨g', follows, _⟩
  rw [Option.some.inj (prev.symm.trans follows.2), HalfedgeId.pair_pair]
  exact follows

theorem prev?_eq_some_iff {h g : HalfedgeId} : m.prev? h = some g ↔ m.next? g = some h := by
  constructor
  · intro prev
    simpa using (sound.follows_of_prev? prev).1
  · intro next
    simpa using (sound.follows_of_next? next).2

theorem origin?_of_follows {g h : HalfedgeId} (follows : m.Follows g h) :
    m.origin? h = m.origin? g := by
  rcases containsHalfedge_iff_origin?.1 follows.live_left with ⟨n, start⟩
  rcases sound.exists_follows start with ⟨h', follows', start'⟩
  rw [follows.right_unique follows', start', start]

theorem origin?_next? {h g : HalfedgeId} (next : m.next? h = some g) :
    m.origin? g = m.origin? h.pair :=
  sound.origin?_of_follows (sound.follows_of_next? next)

theorem next?_injective {h h' g : HalfedgeId} (first : m.next? h = some g)
    (second : m.next? h' = some g) : h = h' :=
  HalfedgeId.pair_injective
    ((sound.follows_of_next? first).left_unique (sound.follows_of_next? second))

end Sound

/-! ## Triangles -/

namespace Triangle

variable {m : Mesh} {f : FaceId} {t : Corners HalfedgeId}

theorem rotate (triangle : m.Triangle f t) : m.Triangle f t.rotate where
  next_a := triangle.next_b
  next_b := triangle.next_c
  next_c := triangle.next_a
  reports_iff h := by
    rw [triangle.reports_iff, Corners.mem_toList, Corners.mem_toList]
    simp only [Corners.rotate]
    tauto

theorem faceOf?_a (triangle : m.Triangle f t) : m.faceOf? t.a = some (some f) :=
  (triangle.reports_iff t.a).2 (by simp)

theorem faceOf?_b (triangle : m.Triangle f t) : m.faceOf? t.b = some (some f) :=
  (triangle.reports_iff t.b).2 (by simp)

theorem faceOf?_c (triangle : m.Triangle f t) : m.faceOf? t.c = some (some f) :=
  (triangle.reports_iff t.c).2 (by simp)

/-- A triangle can be read from any of its sides on. -/
theorem exists_first (triangle : m.Triangle f t) {h : HalfedgeId} (mem : h ∈ t.toList) :
    ∃ t', t'.a = h ∧ m.Triangle f t' := by
  rcases Corners.mem_toList.1 mem with rfl | rfl | rfl
  · exact ⟨t, rfl, triangle⟩
  · exact ⟨t.rotate, rfl, triangle.rotate⟩
  · exact ⟨t.rotate.rotate, rfl, triangle.rotate.rotate⟩

/-- The second side starts at another node than the first. -/
theorem origin_b_ne (triangle : m.Triangle f t) (sound : m.Sound) :
    m.origin? t.b ≠ m.origin? t.a := by
  rw [sound.origin?_next? triangle.next_a]
  intro same
  obtain ⟨n, start⟩ := containsHalfedge_iff_origin?.1
    (containsHalfedge_iff_next?.2 ⟨_, triangle.next_a⟩)
  exact sound.ends_ne t.a n start (same.trans start)

theorem b_ne_a (triangle : m.Triangle f t) (sound : m.Sound) : t.b ≠ t.a := fun same =>
  triangle.origin_b_ne sound (congrArg m.origin? same)

end Triangle

namespace Sound

variable {m : Mesh} (sound : m.Sound)

include sound

/-- A half-edge that reports a face is the first side of the face's triangle, suitably read. -/
theorem exists_triangle {h : HalfedgeId} {f : FaceId} (faced : m.faceOf? h = some (some f)) :
    ∃ t, t.a = h ∧ m.Triangle f t := by
  have live := sound.face_live h f faced
  rcases Option.isSome_iff_exists.1 live with ⟨record, found⟩
  rcases sound.triangle f record found with ⟨t, _, triangle⟩
  exact triangle.exists_first ((triangle.reports_iff h).1 faced)

theorem faceOf?_next? {h g : HalfedgeId} (next : m.next? h = some g) :
    m.faceOf? g = m.faceOf? h := by
  obtain ⟨face, reported⟩ := containsHalfedge_iff_faceOf?.1
    (containsHalfedge_iff_next?.2 ⟨g, next⟩)
  obtain ⟨face', reported'⟩ := containsHalfedge_iff_faceOf?.1
    (sound.follows_of_next? next).live_right
  cases face with
  | some f =>
    rcases sound.exists_triangle reported with ⟨t, rfl, triangle⟩
    rw [Option.some.inj (next.symm.trans triangle.next_a), triangle.faceOf?_b,
      triangle.faceOf?_a]
  | none =>
    cases face' with
    | none => rw [reported, reported']
    | some f =>
      -- A loop that enters a triangle comes from the side before, which reports the face.
      rcases sound.exists_triangle reported' with ⟨t, rfl, triangle⟩
      rw [sound.next?_injective next triangle.next_c, triangle.faceOf?_c] at reported
      simp at reported

/-- The boundary is closed along loops: after a half-edge without a face comes another. -/
theorem free_iff {g h : HalfedgeId} (follows : m.Follows g h) : m.Free h ↔ m.Free g.pair := by
  unfold Free
  rw [sound.faceOf?_next? follows.1]

end Sound

/-! ## Same records -/

/-- The same handles are live in both meshes and resolve to the same records. -/
structure SameRecords (m m' : Mesh) : Prop where
  node? : ∀ n, m'.node? n = m.node? n
  halfedge? : ∀ h, m'.halfedge? h = m.halfedge? h
  face? : ∀ f, m'.face? f = m.face? f

namespace SameRecords

variable {m m' : Mesh}

theorem refl (m : Mesh) : m.SameRecords m :=
  ⟨fun _ => rfl, fun _ => rfl, fun _ => rfl⟩

variable (same : m.SameRecords m')

include same

theorem origin? (h : HalfedgeId) : m'.origin? h = m.origin? h :=
  congrArg (Option.map _) (same.halfedge? h)

theorem next? (h : HalfedgeId) : m'.next? h = m.next? h :=
  congrArg (Option.map _) (same.halfedge? h)

theorem prev? (h : HalfedgeId) : m'.prev? h = m.prev? h :=
  congrArg (Option.map _) (same.halfedge? h)

theorem faceOf? (h : HalfedgeId) : m'.faceOf? h = m.faceOf? h :=
  congrArg (Option.map _) (same.halfedge? h)

theorem follows {g h : HalfedgeId} (follows : m.Follows g h) : m'.Follows g h := by
  rwa [Follows, same.next?, same.prev?]

theorem ring {n : NodeId} {ring : Cycle HalfedgeId} (around : m.Ring n ring) : m'.Ring n ring :=
  around.of_keeps (fun h => by rw [same.origin?]) fun _ _ _ => same.follows

theorem triangle {f : FaceId} {t : Corners HalfedgeId} (triangle : m.Triangle f t) :
    m'.Triangle f t where
  next_a := (same.next? _).trans triangle.next_a
  next_b := (same.next? _).trans triangle.next_b
  next_c := (same.next? _).trans triangle.next_c
  reports_iff h := by rw [same.faceOf?, triangle.reports_iff]

theorem sound (sound : m.Sound) : m'.Sound where
  origin_live h n := by
    rw [same.origin?, containsNode, same.node?]
    exact sound.origin_live h n
  ends_ne h n := by
    rw [same.origin?, same.origin?]
    exact sound.ends_ne h n
  exists_ring n := (sound.exists_ring n).imp fun _ around => same.ring around
  isolated n record := by
    simp only [same.node?, same.origin?]
    exact sound.isolated n record
  representative n record h := by
    rw [same.node?, same.origin?]
    exact sound.representative n record h
  face_live h f := by
    rw [same.faceOf?, containsFace, same.face?]
    exact sound.face_live h f
  triangle f record := by
    rw [same.face?]
    intro found
    rcases sound.triangle f record found with ⟨t, first, loop⟩
    exact ⟨t, first, same.triangle loop⟩

end SameRecords

theorem sound_empty : Sound empty where
  origin_live h n start := by simp [origin?, halfedge?, edge?, empty] at start
  ends_ne h n start := by simp [origin?, halfedge?, edge?, empty] at start
  exists_ring n := ⟨.nil, ⟨Cycle.nodup_nil, Cycle.Chain.nil _⟩, fun h => by
    simp [origin?, halfedge?, edge?, empty]⟩
  isolated n record found := by simp [node?, empty] at found
  representative n record h found := by simp [node?, empty] at found
  face_live h f faced := by simp [faceOf?, halfedge?, edge?, empty] at faced
  triangle f record found := by simp [face?, empty] at found

end Mesh

end PlanarMesh
