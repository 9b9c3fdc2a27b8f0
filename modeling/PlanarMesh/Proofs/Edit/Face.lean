import PlanarMesh.Proofs.Splice.Corners

/-!
# Adding and removing faces

`AddedFace` and `RemovedFace` say what the two edits make of a mesh.  A face is added if its
three sides `Fit`: they are free, form a chain, and can be joined at all three corners.  Removing
a face is never refused and moves no pointer along loops.
-/

namespace PlanarMesh

namespace Mesh

/-- The half-edges can become the sides of a face. -/
structure Fits (m : Mesh) (h₁ h₂ h₃ : HalfedgeId) : Prop where
  free₁ : m.Free h₁
  free₂ : m.Free h₂
  free₃ : m.Free h₃
  chained₁ : m.origin? h₁.pair = m.origin? h₂
  chained₂ : m.origin? h₂.pair = m.origin? h₃
  chained₃ : m.origin? h₃.pair = m.origin? h₁
  joinable₁ : m.Joinable h₁.pair h₂
  joinable₂ : m.Joinable h₂.pair h₃
  joinable₃ : m.Joinable h₃.pair h₁

/-- The error names the first of the conditions on the sides of a face that they do not meet. -/
inductive Misfit (m : Mesh) (h₁ h₂ h₃ : HalfedgeId) : MeshError → Prop
  | dead {h : HalfedgeId} : h ∈ Corners.toList ⟨h₁, h₂, h₃⟩ → m.containsHalfedge h = false →
    Misfit m h₁ h₂ h₃ (.invalidHalfedge h)
  | faced {h : HalfedgeId} {f : FaceId} : h ∈ Corners.toList ⟨h₁, h₂, h₃⟩ →
    m.faceOf? h = some (some f) → Misfit m h₁ h₂ h₃ (.addFace .notFree)
  | unchained : m.Free h₁ → m.Free h₂ → m.Free h₃ → ¬ (m.origin? h₁.pair = m.origin? h₂ ∧
      m.origin? h₂.pair = m.origin? h₃ ∧ m.origin? h₃.pair = m.origin? h₁) →
    Misfit m h₁ h₂ h₃ (.addFace .notAChain)
  | blocked {a b c : NodeId} : m.Free h₁ → m.Free h₂ → m.Free h₃ → m.Chain h₁ h₂ h₃ a b c →
    ¬ (m.Joinable h₁.pair h₂ ∧ m.Joinable h₂.pair h₃ ∧ m.Joinable h₃.pair h₁) →
    Misfit m h₁ h₂ h₃ (.addFace .nonManifold)

theorem Fits.free {m : Mesh} {h₁ h₂ h₃ : HalfedgeId} (fits : m.Fits h₁ h₂ h₃) :
    ∀ h ∈ Corners.toList ⟨h₁, h₂, h₃⟩, m.Free h := by
  simpa using ⟨fits.free₁, fits.free₂, fits.free₃⟩

theorem Misfit.not_fits {m : Mesh} {h₁ h₂ h₃ : HalfedgeId} {error : MeshError}
    (misfit : m.Misfit h₁ h₂ h₃ error) : ¬ m.Fits h₁ h₂ h₃ := by
  intro fits
  cases misfit with
  | dead mem missing =>
    have live := containsHalfedge_iff_faceOf?.2 ⟨none, fits.free _ mem⟩
    cases live.symm.trans missing
  | faced mem reports => cases (fits.free _ mem).symm.trans reports
  | unchained _ _ _ broken => exact broken ⟨fits.chained₁, fits.chained₂, fits.chained₃⟩
  | blocked _ _ _ _ closed => exact closed ⟨fits.joinable₁, fits.joinable₂, fits.joinable₃⟩

/-- `m'` is `m` with the new face `f` on the given sides. -/
structure AddedFace (m : Mesh) (h₁ h₂ h₃ : HalfedgeId) (f : FaceId) (m' : Mesh) : Prop where
  sound : m'.Sound
  key : f = m.faces.nextKey
  nodes : m'.nodes = m.nodes
  faces : m'.faces = m.faces.insert ⟨h₁⟩
  edgeGenerations : m'.edges.generationAt = m.edges.generationAt
  origin? : ∀ h, m'.origin? h = m.origin? h
  faceOf? : ∀ h, m'.faceOf? h =
    if h = h₁ ∨ h = h₂ ∨ h = h₃ then some (some f) else m.faceOf? h
  triangle : m'.Triangle f ⟨h₁, h₂, h₃⟩
  keeps_faced : m.Keeps m' fun g => m.Free g.pair
  ring_of_ne : ∀ n ring, m.origin? h₁ ≠ some n → m.origin? h₂ ≠ some n → m.origin? h₃ ≠ some n →
    m.Ring n ring → m'.Ring n ring
  corner₁ : m.Corner h₁.pair h₂ m'
  corner₂ : m.Corner h₂.pair h₃ m'
  corner₃ : m.Corner h₃.pair h₁ m'

/-- `m'` is `m` without the face `f`, whose triangle was `t`. -/
structure RemovedFace (m : Mesh) (f : FaceId) (t : Corners HalfedgeId) (m' : Mesh) : Prop where
  sound : m'.Sound
  triangle : m.Triangle f t
  nodes : m'.nodes = m.nodes
  faces : m'.faces = m.faces.erase f
  edgeGenerations : m'.edges.generationAt = m.edges.generationAt
  origin? : ∀ h, m'.origin? h = m.origin? h
  next? : ∀ h, m'.next? h = m.next? h
  prev? : ∀ h, m'.prev? h = m.prev? h
  faceOf? : ∀ h, m'.faceOf? h = if h ∈ t.toList then some none else m.faceOf? h

namespace AddedFace

variable {m m' : Mesh} {h₁ h₂ h₃ : HalfedgeId} {f : FaceId} (added : m.AddedFace h₁ h₂ h₃ f m')

include added

theorem face? (g : FaceId) : m'.face? g = if g = f then some ⟨h₁⟩ else m.face? g := by
  rw [Mesh.face?, added.faces, SlotStore.get?_insert, added.key]
  rfl

theorem node? (n : NodeId) : m'.node? n = m.node? n := by
  rw [Mesh.node?, added.nodes]
  rfl

theorem not_free {h : HalfedgeId} (side : h = h₁ ∨ h = h₂ ∨ h = h₃) : ¬ m'.Free h := by
  rw [Free, added.faceOf?, if_pos side]
  simp

/-- Away from the new face the same half-edges are free. -/
theorem free_iff {h : HalfedgeId} (other₁ : h ≠ h₁) (other₂ : h ≠ h₂) (other₃ : h ≠ h₃) :
    m'.Free h ↔ m.Free h := by
  rw [Free, added.faceOf?, if_neg (by simp [other₁, other₂, other₃]), Free]

end AddedFace

/-! ## Reporting a face -/

/-- Change which face a half-edge reports. -/
def report (m : Mesh) (h : HalfedgeId) (face : Option FaceId) : Mesh :=
  m.modifyHalfedge h fun record => { record with face := face }

section Report

variable (m : Mesh) (h : HalfedgeId) (face : Option FaceId) (x : HalfedgeId)

@[simp]
theorem next?_report : (m.report h face).next? x = m.next? x := by
  simp only [next?, report, field_modifyHalfedge]
  by_cases same : x = h <;> simp_all [Function.comp_def]

@[simp]
theorem prev?_report : (m.report h face).prev? x = m.prev? x := by
  simp only [prev?, report, field_modifyHalfedge]
  by_cases same : x = h <;> simp_all [Function.comp_def]

@[simp]
theorem origin?_report : (m.report h face).origin? x = m.origin? x := by
  simp only [origin?, report, field_modifyHalfedge]
  by_cases same : x = h <;> simp_all [Function.comp_def]

theorem faceOf?_report (live : m.containsHalfedge h = true) :
    (m.report h face).faceOf? x = if x = h then some face else m.faceOf? x := by
  rcases Option.isSome_iff_exists.1 live with ⟨record, found⟩
  simp only [faceOf?, report, field_modifyHalfedge]
  by_cases same : x = h <;> simp [same, found]

@[simp]
theorem nodes_report : (m.report h face).nodes = m.nodes :=
  rfl

@[simp]
theorem faces_report : (m.report h face).faces = m.faces :=
  rfl

@[simp]
theorem generationAt_edges_report :
    (m.report h face).edges.generationAt = m.edges.generationAt := by
  simp [report, modifyHalfedge]

@[simp]
theorem containsHalfedge_report :
    (m.report h face).containsHalfedge x = m.containsHalfedge x := by
  rw [Bool.eq_iff_iff, containsHalfedge_iff_origin?, containsHalfedge_iff_origin?]
  simp

end Report

/-- Change which face the sides of a triangle report. -/
def reportAll (m : Mesh) (t : Corners HalfedgeId) (face : Option FaceId) : Mesh :=
  ((m.report t.a face).report t.b face).report t.c face

@[simp]
theorem faces_reportAll (m : Mesh) (t : Corners HalfedgeId) (face : Option FaceId) :
    (m.reportAll t face).faces = m.faces :=
  rfl

theorem faceOf?_reportAll {m : Mesh} {t : Corners HalfedgeId} (face : Option FaceId)
    (live : ∀ h ∈ t.toList, m.containsHalfedge h = true) (x : HalfedgeId) :
    (m.reportAll t face).faceOf? x = if x ∈ t.toList then some face else m.faceOf? x := by
  have liveA := live t.a (by simp)
  have liveB := live t.b (by simp)
  have liveC := live t.c (by simp)
  rw [reportAll, faceOf?_report _ _ _ _ (by simpa using liveC),
    faceOf?_report _ _ _ _ (by simpa using liveB), faceOf?_report _ _ _ _ liveA]
  simp only [Corners.mem_toList]
  by_cases a : x = t.a <;> by_cases b : x = t.b <;> by_cases c : x = t.c <;> simp [a, b, c]

/-- Where nodes, origins and pointers along loops are as before, only the faces have to be
looked at. -/
theorem Sound.of_pointers {m m' : Mesh} (sound : m.Sound) (nodes : m'.nodes = m.nodes)
    (origin? : ∀ h, m'.origin? h = m.origin? h) (next? : ∀ h, m'.next? h = m.next? h)
    (prev? : ∀ h, m'.prev? h = m.prev? h)
    (face_live : ∀ h f, m'.faceOf? h = some (some f) → m'.containsFace f = true)
    (triangle : ∀ f record, m'.face? f = some record →
      ∃ t, t.a = record.halfedge ∧ m'.Triangle f t) : m'.Sound where
  origin_live h n := by
    rw [origin?, containsNode, node?, nodes]
    exact sound.origin_live h n
  ends_ne h n := by
    rw [origin?, origin?]
    exact sound.ends_ne h n
  exists_ring n := by
    rcases sound.exists_ring n with ⟨ring, around⟩
    refine ⟨ring, around.of_keeps (fun h => by rw [origin?]) fun g h _ follows => ?_⟩
    rwa [Follows, next?, prev?]
  isolated n record := by
    simp only [node?, nodes, origin?]
    exact sound.isolated n record
  representative n record h := by
    rw [node?, nodes, origin?]
    exact sound.representative n record h
  face_live := face_live
  triangle := triangle

theorem Triangle.live {m : Mesh} {f : FaceId} {t : Corners HalfedgeId}
    (triangle : m.Triangle f t) : ∀ h ∈ t.toList, m.containsHalfedge h = true := fun h mem =>
  containsHalfedge_iff_faceOf?.2 ⟨some f, (triangle.reports_iff h).2 mem⟩

/-- Other face records beside the same nodes and edges. -/
def withFaces (m : Mesh) (faces : SlotStore .face Face) : Mesh :=
  { m with faces := faces }

section WithFaces

variable (m : Mesh) (faces : SlotStore .face Face) (h : HalfedgeId)

@[simp]
theorem nodes_withFaces : (m.withFaces faces).nodes = m.nodes :=
  rfl

@[simp]
theorem edges_withFaces : (m.withFaces faces).edges = m.edges :=
  rfl

@[simp]
theorem faces_withFaces : (m.withFaces faces).faces = faces :=
  rfl

@[simp]
theorem origin?_withFaces : (m.withFaces faces).origin? h = m.origin? h :=
  rfl

@[simp]
theorem next?_withFaces : (m.withFaces faces).next? h = m.next? h :=
  rfl

@[simp]
theorem containsHalfedge_withFaces :
    (m.withFaces faces).containsHalfedge h = m.containsHalfedge h :=
  rfl

@[simp]
theorem prev?_withFaces : (m.withFaces faces).prev? h = m.prev? h :=
  rfl

@[simp]
theorem faceOf?_withFaces : (m.withFaces faces).faceOf? h = m.faceOf? h :=
  rfl

end WithFaces

/-! ## Removing a face -/

/-- The mesh in which the sides of `t` report no face and the face `f` is gone. -/
def dropTriangle (m : Mesh) (f : FaceId) (t : Corners HalfedgeId) : Mesh :=
  (m.reportAll t none).withFaces (m.faces.erase f)

section DropTriangle

variable {m : Mesh} {f : FaceId} {t : Corners HalfedgeId} (triangle : m.Triangle f t)

include triangle

theorem faceOf?_dropTriangle (h : HalfedgeId) :
    (m.dropTriangle f t).faceOf? h = if h ∈ t.toList then some none else m.faceOf? h := by
  rw [dropTriangle, faceOf?_withFaces, faceOf?_reportAll none triangle.live]

/-- The other faces are reported as before. -/
theorem reports_dropTriangle {g : FaceId} {h : HalfedgeId} :
    (m.dropTriangle f t).faceOf? h = some (some g) ↔ g ≠ f ∧ m.faceOf? h = some (some g) := by
  rw [faceOf?_dropTriangle triangle]
  split
  · next mem =>
    rw [(triangle.reports_iff h).2 mem]
    simp [eq_comm]
  · next notMem =>
    rw [iff_and_self]
    rintro reports rfl
    exact notMem ((triangle.reports_iff h).1 reports)

theorem sound_dropTriangle (sound : m.Sound) : (m.dropTriangle f t).Sound := by
  refine sound.of_pointers (by simp [dropTriangle, reportAll]) (by simp [dropTriangle, reportAll])
    (by simp [dropTriangle, reportAll]) (by simp [dropTriangle, reportAll]) ?_ ?_
  · intro h g reports
    rcases (reports_dropTriangle triangle).1 reports with ⟨other, reports⟩
    exact SlotStore.contains_erase.2 ⟨other, sound.face_live h g reports⟩
  · intro g record found
    have kept : g ≠ f ∧ m.face? g = some record := by
      simpa [face?, dropTriangle, SlotStore.get?_erase] using found
    rcases sound.triangle g record kept.2 with ⟨t', first, triangle'⟩
    refine ⟨t', first, ?_, ?_, ?_, fun h => ?_⟩
    · simpa [dropTriangle, reportAll] using triangle'.next_a
    · simpa [dropTriangle, reportAll] using triangle'.next_b
    · simpa [dropTriangle, reportAll] using triangle'.next_c
    · rw [reports_dropTriangle triangle, ← triangle'.reports_iff]
      exact and_iff_right kept.1

theorem removedFace_dropTriangle (sound : m.Sound) :
    m.RemovedFace f t (m.dropTriangle f t) where
  sound := sound_dropTriangle triangle sound
  triangle := triangle
  nodes := by simp [dropTriangle, reportAll]
  faces := rfl
  edgeGenerations := by simp [dropTriangle, reportAll]
  origin? h := by simp [dropTriangle, reportAll]
  next? h := by simp [dropTriangle, reportAll]
  prev? h := by simp [dropTriangle, reportAll]
  faceOf? h := faceOf?_dropTriangle triangle h

end DropTriangle

/-! ## Adding a face -/

/-- The mesh with a new face on the sides of `t`. -/
def raiseTriangle (m : Mesh) (t : Corners HalfedgeId) : Mesh :=
  (m.withFaces (m.faces.insert ⟨t.a⟩)).reportAll t (some m.faces.nextKey)

section RaiseTriangle

variable {m m' : Mesh} {h₁ h₂ h₃ : HalfedgeId} (joined : m.Joined h₁ h₂ h₃ m')
  (free : ∀ h ∈ Corners.toList ⟨h₁, h₂, h₃⟩, m.Free h)

include joined free

theorem faceOf?_raiseTriangle (x : HalfedgeId) :
    (m'.raiseTriangle ⟨h₁, h₂, h₃⟩).faceOf? x =
      if x = h₁ ∨ x = h₂ ∨ x = h₃ then some (some m.faces.nextKey) else m.faceOf? x := by
  have live : ∀ h ∈ Corners.toList ⟨h₁, h₂, h₃⟩, m'.containsHalfedge h = true := fun h mem =>
    containsHalfedge_iff_faceOf?.2 ⟨none, (joined.faceOf? h).trans (free h mem)⟩
  rw [raiseTriangle, faceOf?_reportAll _ (by simpa using live), faceOf?_withFaces, joined.faces,
    joined.faceOf?]
  simp only [Corners.mem_toList]

theorem reports_raiseTriangle {g : FaceId} (old : g ≠ m.faces.nextKey) (x : HalfedgeId) :
    (m'.raiseTriangle ⟨h₁, h₂, h₃⟩).faceOf? x = some (some g) ↔ m.faceOf? x = some (some g) := by
  rw [faceOf?_raiseTriangle joined free]
  split
  · next mem =>
    rw [show m.faceOf? x = some none from free x (Corners.mem_toList.2 mem)]
    simp [old.symm]
  · rfl

theorem triangle_raiseTriangle (sound : m.Sound) :
    (m'.raiseTriangle ⟨h₁, h₂, h₃⟩).Triangle m.faces.nextKey ⟨h₁, h₂, h₃⟩ where
  next_a := by simpa [raiseTriangle, reportAll] using joined.next₁
  next_b := by simpa [raiseTriangle, reportAll] using joined.next₂
  next_c := by simpa [raiseTriangle, reportAll] using joined.next₃
  reports_iff h := by
    rw [faceOf?_raiseTriangle joined free, Corners.mem_toList]
    constructor
    · intro reports
      by_contra other
      rw [if_neg other] at reports
      simpa [containsFace, face?] using sound.face_live h _ reports
    · intro mem
      rw [if_pos mem]

theorem sound_raiseTriangle (sound : m.Sound) : (m'.raiseTriangle ⟨h₁, h₂, h₃⟩).Sound := by
  have pointers : ∀ h, (m'.raiseTriangle ⟨h₁, h₂, h₃⟩).next? h = m'.next? h := fun h => by
    simp [raiseTriangle, reportAll]
  refine joined.sound.of_pointers (by simp [raiseTriangle, reportAll])
    (by simp [raiseTriangle, reportAll]) pointers (by simp [raiseTriangle, reportAll]) ?_ ?_
  · intro h g reports
    rw [containsFace, face?, raiseTriangle, faces_reportAll, faces_withFaces]
    apply SlotStore.contains_insert.2
    rw [joined.faces]
    by_cases new : g = m.faces.nextKey
    · exact .inl new
    · exact .inr (sound.face_live h g ((reports_raiseTriangle joined free new h).1 reports))
  · intro g record found
    rw [face?, raiseTriangle, faces_reportAll, faces_withFaces, SlotStore.get?_insert,
      joined.faces] at found
    by_cases new : g = m.faces.nextKey
    · rw [if_pos new] at found
      cases Option.some.inj found
      exact ⟨⟨h₁, h₂, h₃⟩, rfl, new ▸ triangle_raiseTriangle joined free sound⟩
    · rw [if_neg new, ← joined.faces] at found
      rcases joined.sound.triangle g record found with ⟨t, first, triangle⟩
      refine ⟨t, first, (pointers _).trans triangle.next_a, (pointers _).trans triangle.next_b,
        (pointers _).trans triangle.next_c, fun h => ?_⟩
      rw [reports_raiseTriangle joined free new, ← joined.faceOf?, triangle.reports_iff]

theorem addedFace_raiseTriangle (sound : m.Sound) :
    m.AddedFace h₁ h₂ h₃ m.faces.nextKey (m'.raiseTriangle ⟨h₁, h₂, h₃⟩) := by
  have origins : ∀ h, (m'.raiseTriangle ⟨h₁, h₂, h₃⟩).origin? h = m'.origin? h := fun h => by
    simp [raiseTriangle, reportAll]
  have follows : ∀ g h, m'.Follows g h → (m'.raiseTriangle ⟨h₁, h₂, h₃⟩).Follows g h := by
    intro g h follows
    simpa [Follows, raiseTriangle, reportAll] using follows
  have rings : ∀ n ring, m'.Ring n ring → (m'.raiseTriangle ⟨h₁, h₂, h₃⟩).Ring n ring :=
    fun n ring around => around.of_keeps (fun h => by rw [origins]) fun g h _ => follows g h
  have corner : ∀ i o, m.Corner i o m' → m.Corner i o (m'.raiseTriangle ⟨h₁, h₂, h₃⟩) :=
    fun i o corner =>
      ⟨fun before n ring start around =>
        rings n ring (corner.ring_of_follows before n ring start around),
      fun n W C A g B around start first =>
        rings n _ (corner.ring n W C A g B around start first)⟩
  exact
    { sound := sound_raiseTriangle joined free sound
      key := rfl
      nodes := by simpa [raiseTriangle, reportAll] using joined.nodes
      edgeGenerations := by simpa [raiseTriangle, reportAll] using joined.generationAt
      faces := by rw [raiseTriangle, faces_reportAll, faces_withFaces, joined.faces]
      origin? := fun h => (origins h).trans (joined.origin? h)
      faceOf? := faceOf?_raiseTriangle joined free
      triangle := triangle_raiseTriangle joined free sound
      keeps_faced := fun g h faced before => follows g h (joined.keeps_faced g h faced before)
      ring_of_ne := fun n ring other₁ other₂ other₃ around =>
        rings n ring (joined.ring_of_ne n ring other₁ other₂ other₃ around)
      corner₁ := corner _ _ joined.corner₁
      corner₂ := corner _ _ joined.corner₂
      corner₃ := corner _ _ joined.corner₃ }

end RaiseTriangle

end Mesh

namespace Edit

open Mesh

variable {s : Session}

theorem setFace_of_live {h : HalfedgeId} {face : Option FaceId}
    (live : s.mesh.containsHalfedge h = true) :
    setFace h face s = .ok () { s with mesh := s.mesh.report h face } := by
  rw [setFace, modifyHalfedge_apply, if_pos live]
  rfl

theorem insertFace_withFaces (record : Face) (s : Session) :
    insertFace record s = .ok s.mesh.faces.nextKey
      { s with mesh := s.mesh.withFaces (s.mesh.faces.insert record) } :=
  rfl

theorem removeFace_ends (sound : s.mesh.Sound) {f : FaceId} :
    (removeFace f).Ends s (fun _ m => ∃ t, s.mesh.RemovedFace f t m)
      (fun error m => s.mesh.containsFace f = false ∧ m = s.mesh ∧ error = .invalidFace f) := by
  unfold removeFace
  cases shown : s.mesh.containsFace f with
  | false =>
    rw [ends_bind_of_refused (query_of_error (face_of_dead shown))]
    exact ⟨rfl, rfl, rfl⟩
  | true =>
    rcases Option.isSome_iff_exists.1 shown with ⟨record, found⟩
    rcases sound.triangle f record found with ⟨t, first, triangle⟩
    have live := triangle.live
    have before : s.mesh.prev? t.a = some t.c := sound.prev?_eq_some_iff.2 triangle.next_c
    have removed := removedFace_dropTriangle triangle sound
    rw [ends_bind_of_ok (query_face found), ← first,
      ends_bind_of_ok (query_next triangle.next_a), ends_bind_of_ok (query_prev before),
      ends_bind_of_ok (setFace_of_live (live t.a (by simp))),
      ends_bind_of_ok (setFace_of_live (by simpa using live t.b (by simp))),
      ends_bind_of_ok (setFace_of_live (by simpa using live t.c (by simp))),
      ends_bind_of_ok (dropFace_apply f _), ends_bind_of_ok (record_apply _ _)]
    exact ends_of_ok (checkAfter_of_sound removed.sound) ⟨t, removed⟩

theorem requireFree_ends {m : Mesh} (same : s.mesh = m) {h h₁ h₂ h₃ : HalfedgeId}
    (mem : h ∈ Corners.toList ⟨h₁, h₂, h₃⟩) :
    (requireFree h).Ends s (fun _ m' => m' = m ∧ m.Free h)
      (fun error m' => m' = m ∧ m.Misfit h₁ h₂ h₃ error) := by
  subst same
  unfold requireFree
  cases reports : s.mesh.faceOf? h with
  | none =>
    have missing : s.mesh.containsHalfedge h = false := by
      simpa [containsHalfedge, faceOf?] using reports
    rw [ends_bind_of_refused (query_of_error (by rw [isBoundary_eq_orInvalid, reports]; rfl))]
    exact ⟨rfl, .dead mem missing⟩
  | some face =>
    rw [ends_bind_of_ok (query_isBoundary reports)]
    cases face with
    | none => exact ⟨rfl, reports⟩
    | some f => exact ⟨rfl, .faced mem reports⟩

theorem requireChained_ends {m : Mesh} (same : s.mesh = m) {h g : HalfedgeId} (hFree : m.Free h)
    (gFree : m.Free g) :
    (requireChained h g).Ends s (fun _ m' => m' = m ∧ m.origin? h.pair = m.origin? g)
      (fun error m' => m' = m ∧ m.origin? h.pair ≠ m.origin? g ∧
        error = .addFace .notAChain) := by
  subst same
  have hLive := containsHalfedge_iff_faceOf?.2 ⟨none, hFree⟩
  rw [← containsHalfedge_pair] at hLive
  rcases containsHalfedge_iff_origin?.1 hLive with ⟨n, finish⟩
  obtain ⟨n', start⟩ := containsHalfedge_iff_origin?.1
    (containsHalfedge_iff_faceOf?.2 ⟨none, gFree⟩)
  unfold requireChained
  rw [ends_bind_of_ok (query_target finish), ends_bind_of_ok (query_origin start), finish, start]
  by_cases joined : n = n' <;> simp [joined]

theorem addFace_ends (sound : s.mesh.Sound) {h₁ h₂ h₃ : HalfedgeId} :
    (addFace h₁ h₂ h₃).Ends s
      (fun f m => s.mesh.Fits h₁ h₂ h₃ ∧ s.mesh.AddedFace h₁ h₂ h₃ f m)
      (fun error m => s.mesh.Misfit h₁ h₂ h₃ error ∧ m.Sound ∧ s.mesh.Rearranged m ∧
        (error = .addFace .nonManifold ∨ m = s.mesh)) := by
  have mem₁ : h₁ ∈ Corners.toList ⟨h₁, h₂, h₃⟩ := by simp
  have mem₂ : h₂ ∈ Corners.toList ⟨h₁, h₂, h₃⟩ := by simp
  have mem₃ : h₃ ∈ Corners.toList ⟨h₁, h₂, h₃⟩ := by simp
  unfold addFace
  apply (requireFree_ends rfl mem₁).bind
  rotate_left
  · rintro error m ⟨rfl, misfit⟩
    exact ⟨misfit, sound, .refl _, .inr rfl⟩
  rintro - t₁ ⟨same, free₁⟩
  apply (requireFree_ends same mem₂).bind
  rotate_left
  · rintro error m ⟨rfl, misfit⟩
    exact ⟨misfit, sound, .refl _, .inr rfl⟩
  rintro - t₂ ⟨same, free₂⟩
  apply (requireFree_ends same mem₃).bind
  rotate_left
  · rintro error m ⟨rfl, misfit⟩
    exact ⟨misfit, sound, .refl _, .inr rfl⟩
  rintro - t₃ ⟨same, free₃⟩
  apply (requireChained_ends same free₁ free₂).bind
  rotate_left
  · rintro error m ⟨rfl, broken, rfl⟩
    exact ⟨.unchained free₁ free₂ free₃ fun chained => broken chained.1, sound, .refl _, .inr rfl⟩
  rintro - t₄ ⟨same, chained₁⟩
  apply (requireChained_ends same free₂ free₃).bind
  rotate_left
  · rintro error m ⟨rfl, broken, rfl⟩
    exact ⟨.unchained free₁ free₂ free₃ fun chained => broken chained.2.1, sound, .refl _,
      .inr rfl⟩
  rintro - t₅ ⟨same, chained₂⟩
  apply (requireChained_ends same free₃ free₁).bind
  rotate_left
  · rintro error m ⟨rfl, broken, rfl⟩
    exact ⟨.unchained free₁ free₂ free₃ fun chained => broken chained.2.2, sound, .refl _,
      .inr rfl⟩
  rintro - t₆ ⟨same, chained₃⟩
  have live : ∀ h, s.mesh.Free h → s.mesh.containsHalfedge h = true := fun h free =>
    containsHalfedge_iff_faceOf?.2 ⟨none, free⟩
  obtain ⟨a, b, c, chain⟩ := Chain.of_chained sound (live h₁ free₁) (live h₂ free₂)
    (live h₃ free₃) chained₁ chained₂ chained₃
  refine joinSides_ends (same ▸ sound) (same ▸ chain) (same ▸ free₁) (same ▸ free₂)
    (same ▸ free₃) ?_ ?_
  · intro m closed still rearranged
    rw [same] at closed rearranged
    exact ⟨.blocked free₁ free₂ free₃ chain closed, still, rearranged, .inl rfl⟩
  intro t₇ joinable₁ joinable₂ joinable₃ joined
  rw [same] at joinable₁ joinable₂ joinable₃ joined
  have free : ∀ h ∈ Corners.toList ⟨h₁, h₂, h₃⟩, s.mesh.Free h := by
    simpa using ⟨free₁, free₂, free₃⟩
  have live' : ∀ h, s.mesh.Free h → t₇.mesh.containsHalfedge h = true := fun h free =>
    containsHalfedge_iff_faceOf?.2 ⟨none, (joined.faceOf? h).trans free⟩
  have added := addedFace_raiseTriangle joined free sound
  rw [← joined.faces] at added
  rw [ends_bind_of_ok (insertFace_withFaces _ _),
    ends_bind_of_ok (setFace_of_live (by simpa using live' h₁ free₁)),
    ends_bind_of_ok (setFace_of_live (by simpa using live' h₂ free₂)),
    ends_bind_of_ok (setFace_of_live (by simpa using live' h₃ free₃)),
    ends_bind_of_ok (record_apply _ _), ends_bind_of_ok (checkAfter_of_sound added.sound)]
  rw [ends_pure]
  exact ⟨⟨free₁, free₂, free₃, chained₁, chained₂, chained₃, joinable₁, joinable₂,
    joinable₃⟩, added⟩

end Edit

end PlanarMesh
