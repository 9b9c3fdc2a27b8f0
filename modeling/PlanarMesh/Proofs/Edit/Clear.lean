import PlanarMesh.Proofs.Edit.Growth

/-!
# Clearing the sides of an edge

Before an edge is removed, so are the faces at its sides.  `Flanked` lists the face at a side
with its corners, and `Cleared` says what is left when faces are taken away: nothing changes but
that their sides are free, and their handles are retired.
-/

namespace PlanarMesh

namespace Mesh

/-- The face at a half-edge with its corners, from the start of the half-edge on, or nothing. -/
inductive Flanked (m : Mesh) (h : HalfedgeId) : List (FaceId × Corners NodeId) → Prop
  | free (free : m.Free h) : Flanked m h []
  | faced {f : FaceId} {next prev : HalfedgeId} {u v w : NodeId}
      (triangle : m.Triangle f ⟨h, next, prev⟩) (chain : m.Chain h next prev u v w) :
      Flanked m h [(f, ⟨u, v, w⟩)]

/-- `m'` is `m` without the given faces. -/
structure Cleared (m : Mesh) (fs : List FaceId) (m' : Mesh) : Prop where
  sound : m'.Sound
  nodes : m'.nodes = m.nodes
  edgeGenerations : m'.edges.generationAt = m.edges.generationAt
  origin? : ∀ h, m'.origin? h = m.origin? h
  next? : ∀ h, m'.next? h = m.next? h
  prev? : ∀ h, m'.prev? h = m.prev? h
  face? : ∀ g, m'.face? g = if g ∈ fs then none else m.face? g
  faceOf? : ∀ h, (∀ f ∈ fs, m.faceOf? h ≠ some (some f)) → m'.faceOf? h = m.faceOf? h
  free : ∀ h f, f ∈ fs → m.faceOf? h = some (some f) → m'.Free h
  live : ∀ f ∈ fs, m.containsFace f = true
  retired : ∀ f ∈ fs, m'.faces.Retired f
  faceGenerations : ∀ i, (∀ f ∈ fs, i ≠ f.index) →
    m'.faces.generationAt i = m.faces.generationAt i
  faceCount : m'.faceCount + fs.length = m.faceCount

variable {m m' m'' : Mesh}

theorem Triangle.chain (triangle : m.Triangle f ⟨h₁, h₂, h₃⟩) (sound : m.Sound) :
    ∃ a b c, m.Chain h₁ h₂ h₃ a b c := by
  have live := triangle.live
  exact Chain.of_chained sound (live h₁ (by simp)) (live h₂ (by simp)) (live h₃ (by simp))
    (sound.origin?_next? triangle.next_a).symm (sound.origin?_next? triangle.next_b).symm
    (sound.origin?_next? triangle.next_c).symm

theorem Sound.exists_flanked (sound : m.Sound) {h : HalfedgeId}
    (live : m.containsHalfedge h = true) : ∃ flanks, m.Flanked h flanks := by
  rcases containsHalfedge_iff_faceOf?.1 live with ⟨face, reports⟩
  cases face with
  | none => exact ⟨_, .free reports⟩
  | some f =>
    rcases sound.exists_triangle reports with ⟨⟨h, next, prev⟩, rfl, triangle⟩
    rcases triangle.chain sound with ⟨u, v, w, chain⟩
    exact ⟨_, .faced triangle chain⟩

/-- The two sides of an edge do not lie at the same face. -/
theorem Flanked.pair_apart {h : HalfedgeId} {flanks : List (FaceId × Corners NodeId)}
    (flanked : m.Flanked h flanks) :
    ∀ f ∈ flanks.map Prod.fst, m.faceOf? h.pair ≠ some (some f) := by
  cases flanked with
  | free => simp
  | faced triangle chain =>
    intro f mem reports
    rw [List.mem_singleton.1 mem, triangle.reports_iff, Corners.mem_toList] at reports
    rcases reports with same | same | same
    · exact h.pair_ne same
    · exact chain.pair_ne same
    · exact chain.rotate.rotate.pair_ne ((congrArg HalfedgeId.pair same).symm.trans h.pair_pair)

/-! ## Removed faces -/

namespace RemovedFace

variable {f : FaceId} {t : Corners HalfedgeId} (removed : m.RemovedFace f t m')

include removed

theorem faceOf?_eq (h : HalfedgeId) :
    m'.faceOf? h = if m.faceOf? h = some (some f) then some none else m.faceOf? h := by
  rw [removed.faceOf?]
  exact if_congr (removed.triangle.reports_iff h).symm rfl rfl

theorem retired (live : m.containsFace f = true) : m'.faces.Retired f := by
  rw [removed.faces]
  exact SlotStore.retired_erase live

theorem face?_of_ne {g : FaceId} (other : g ≠ f) : m'.face? g = m.face? g := by
  rw [face?, removed.faces, SlotStore.get?_erase, if_neg other]
  rfl

theorem follows {g h : HalfedgeId} (follows : m.Follows g h) : m'.Follows g h := by
  rwa [Follows, removed.next?, removed.prev?]

/-- The other faces keep their triangles. -/
theorem triangle_of_ne {g : FaceId} {t' : Corners HalfedgeId} (other : g ≠ f)
    (triangle : m.Triangle g t') : m'.Triangle g t' where
  next_a := (removed.next? _).trans triangle.next_a
  next_b := (removed.next? _).trans triangle.next_b
  next_c := (removed.next? _).trans triangle.next_c
  reports_iff h := by
    rw [← triangle.reports_iff, removed.faceOf?_eq]
    split
    · next reports => simpa [reports] using other.symm
    · rfl

theorem cleared (live : m.containsFace f = true) : m.Cleared [f] m' where
  sound := removed.sound
  nodes := removed.nodes
  edgeGenerations := removed.edgeGenerations
  origin? := removed.origin?
  next? := removed.next?
  prev? := removed.prev?
  face? g := by
    rw [Mesh.face?, removed.faces, SlotStore.get?_erase]
    simp only [List.mem_singleton]
    rfl
  faceOf? h others := by rw [removed.faceOf?_eq, if_neg (others f (by simp))]
  free h g mem reports := by
    rw [List.mem_singleton.1 mem] at reports
    rw [Free, removed.faceOf?_eq, if_pos reports]
  live g mem := by rwa [List.mem_singleton.1 mem]
  retired g mem := by
    rw [List.mem_singleton.1 mem]
    exact removed.retired live
  faceGenerations i other := by
    rw [removed.faces, SlotStore.generationAt_erase live, if_neg (other f (by simp))]
  faceCount := by
    rw [Mesh.faceCount, removed.faces]
    exact SlotStore.size_erase live

end RemovedFace

/-! ## Cleared faces -/

namespace Cleared

variable {fs fs' : List FaceId}

theorem refl (sound : m.Sound) : m.Cleared [] m where
  sound := sound
  nodes := rfl
  edgeGenerations := rfl
  origin? _ := rfl
  next? _ := rfl
  prev? _ := rfl
  face? _ := by simp
  faceOf? _ _ := rfl
  free h f mem := by simp at mem
  live f mem := by simp at mem
  retired f mem := by simp at mem
  faceGenerations _ _ := rfl
  faceCount := rfl

variable (cleared : m.Cleared fs m')

include cleared

theorem follows {g h : HalfedgeId} : m'.Follows g h ↔ m.Follows g h := by
  rw [Follows, Follows, cleared.next?, cleared.prev?]

theorem containsFace (g : FaceId) :
    m'.containsFace g = true ↔ m.containsFace g = true ∧ g ∉ fs := by
  rw [Mesh.containsFace, cleared.face?]
  split <;> simp_all [Mesh.containsFace]

theorem free_of_free {h : HalfedgeId} (free : m.Free h) : m'.Free h :=
  (cleared.faceOf? h fun f _ => by simp [show m.faceOf? h = some none from free]).trans free

/-- The other faces keep their triangles. -/
theorem triangle {g : FaceId} {t : Corners HalfedgeId} (other : g ∉ fs)
    (triangle : m.Triangle g t) :
    m'.Triangle g t where
  next_a := (cleared.next? _).trans triangle.next_a
  next_b := (cleared.next? _).trans triangle.next_b
  next_c := (cleared.next? _).trans triangle.next_c
  reports_iff h := by
    rw [← triangle.reports_iff]
    by_cases apart : ∀ f ∈ fs, m.faceOf? h ≠ some (some f)
    · rw [cleared.faceOf? h apart]
    · push Not at apart
      rcases apart with ⟨f, mem, reports⟩
      rw [show m'.faceOf? h = some none from cleared.free h f mem reports, reports]
      simp only [Option.some.injEq, reduceCtorEq, false_iff]
      rintro rfl
      exact other mem

theorem flanked {h : HalfedgeId} {flanks : List (FaceId × Corners NodeId)}
    (flanked : m.Flanked h flanks) (apart : ∀ f ∈ fs, m.faceOf? h ≠ some (some f)) :
    m'.Flanked h flanks := by
  cases flanked with
  | free free => exact .free (cleared.free_of_free free)
  | faced triangle chain =>
    refine .faced (cleared.triangle ?_ triangle) (chain.of_origin? cleared.origin?)
    exact fun mem => apart _ mem triangle.faceOf?_a

theorem trans (second : m'.Cleared fs' m'') : m.Cleared (fs ++ fs') m'' where
  sound := second.sound
  nodes := second.nodes.trans cleared.nodes
  edgeGenerations := second.edgeGenerations.trans cleared.edgeGenerations
  origin? h := (second.origin? h).trans (cleared.origin? h)
  next? h := (second.next? h).trans (cleared.next? h)
  prev? h := (second.prev? h).trans (cleared.prev? h)
  face? g := by
    rw [second.face?, cleared.face?]
    by_cases first : g ∈ fs <;> by_cases later : g ∈ fs' <;> simp [first, later]
  faceOf? h others := by
    have same := cleared.faceOf? h fun f mem => others f (List.mem_append_left _ mem)
    rw [second.faceOf? h, same]
    intro f mem
    rw [same]
    exact others f (List.mem_append_right _ mem)
  free h f mem reports := by
    by_cases first : f ∈ fs
    · exact second.free_of_free (cleared.free h f first reports)
    · have later := (List.mem_append.1 mem).resolve_left first
      apply second.free h f later
      rw [cleared.faceOf? h, reports]
      rw [reports]
      rintro g mem' same
      cases same
      exact first mem'
  live f mem := by
    rcases List.mem_append.1 mem with mem | mem
    · exact cleared.live f mem
    · exact ((cleared.containsFace f).1 (second.live f mem)).1
  retired f mem := by
    by_cases later : f ∈ fs'
    · exact second.retired f later
    have first := (List.mem_append.1 mem).resolve_right later
    -- A face that is removed later was live together with `f`, so it lived in another slot.
    have other : ∀ g ∈ fs', f.index ≠ g.index := by
      intro g mem' same
      have live := ((cleared.containsFace g).1 (second.live g mem')).1
      exact later (SlotStore.eq_of_index_eq (cleared.live f first) live same ▸ mem')
    rw [SlotStore.Retired, second.faceGenerations _ other]
    exact cleared.retired f first
  faceGenerations i other := by
    rw [second.faceGenerations i fun f mem => other f (List.mem_append_right _ mem),
      cleared.faceGenerations i fun f mem => other f (List.mem_append_left _ mem)]
  faceCount := by
    have first := cleared.faceCount
    have later := second.faceCount
    rw [List.length_append]
    omega

end Cleared

/-- Opening a side removes the face that lies there. -/
theorem Opened.cleared {h : HalfedgeId} {flanks : List (FaceId × Corners NodeId)}
    (opened : m.Opened h m') (sound : m.Sound) (flanked : m.Flanked h flanks) :
    m.Cleared (flanks.map Prod.fst) m' := by
  cases flanked with
  | free free =>
    cases opened with
    | free => exact .refl sound
    | face reports => exact absurd (free.symm.trans reports) (by simp)
  | faced triangle chain =>
    have here := triangle.faceOf?_a
    cases opened with
    | free free => exact absurd (free.symm.trans here) (by simp)
    | face reports removed =>
      cases here.symm.trans reports
      exact removed.cleared (sound.face_live _ _ reports)

/-- A dropped edge takes no triangle along. -/
theorem DroppedEdge.triangle {m m' : Mesh} {e : EdgeId} {f : FaceId} {t : Corners HalfedgeId}
    (dropped : m.DroppedEdge e m') (sound : m.Sound)
    (free : ∀ h : HalfedgeId, h.edge = e → m.Free h) (triangle : m.Triangle f t) :
    m'.Triangle f t := by
  apply dropped.keeps_faced.triangle sound triangle
  intro h
  rw [dropped.faceOf?]
  split
  · next same => simp [show m.faceOf? h = some none from free h same]
  · rfl

end Mesh

end PlanarMesh
