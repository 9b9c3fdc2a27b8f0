import PlanarMesh.Proofs.Edit.Clear

/-!
# Edges taken away

A mesh is `Pruned` of some edges when exactly these and the faces that one of them borders are
gone: what is left keeps its ends, its faces and their triangles, and the ring of a node is the
old one without the half-edges of the edges.  Removing one edge prunes the mesh of it
(`DroppedEdge.pruned`), and pruning composes (`Pruned.trans`), so removing edges one after the
other has one effect, in which the order does not show (`Stripped.pruned`).
-/

namespace PlanarMesh

namespace Mesh

/-- The face lies at a side of one of the edges. -/
def FaceAt (m : Mesh) (es : List EdgeId) (f : FaceId) : Prop :=
  ∃ h : HalfedgeId, h.edge ∈ es ∧ m.faceOf? h = some (some f)

/-- `m'` is `m` without the given edges and the faces at their sides. -/
structure Pruned (m : Mesh) (es : List EdgeId) (m' : Mesh) : Prop where
  sound : m'.Sound
  nodup : es.Nodup
  live : ∀ e ∈ es, m.containsEdge e = true
  edgeCount : m'.edgeCount + es.length = m.edgeCount
  position : ∀ n, (m'.node? n).map Node.position = (m.node? n).map Node.position
  represented : ∀ n record r, m.node? n = some record → record.halfedge = some r → r.edge ∉ es →
    m'.node? n = some record
  origin? : ∀ h, m'.origin? h = if h.edge ∈ es then none else m.origin? h
  reports_iff : ∀ h f, m'.faceOf? h = some (some f) ↔
    h.edge ∉ es ∧ m.faceOf? h = some (some f) ∧ ¬ m.FaceAt es f
  face?_iff : ∀ f record, m'.face? f = some record ↔ m.face? f = some record ∧ ¬ m.FaceAt es f
  triangle : ∀ f t, ¬ m.FaceAt es f → m.Triangle f t → m'.Triangle f t
  ring : ∀ n (l : List HalfedgeId), m.Ring n ↑l → m'.Ring n ↑(l.filter fun h => h.edge ∉ es)

variable {m m' m'' : Mesh}

/-! ## Pruning twice -/

namespace Pruned

variable {es es' : List EdgeId}

theorem refl (sound : m.Sound) : m.Pruned [] m where
  sound := sound
  nodup := .nil
  live := by simp
  edgeCount := rfl
  position _ := rfl
  represented _ _ _ found _ _ := found
  origin? _ := by simp
  reports_iff h f := by simp [FaceAt]
  face?_iff f record := by simp [FaceAt]
  triangle _ _ _ := id
  ring n l around := by simpa using around

variable (pruned : m.Pruned es m')

include pruned

theorem containsHalfedge_iff (h : HalfedgeId) :
    m'.containsHalfedge h = true ↔ m.containsHalfedge h = true ∧ h.edge ∉ es := by
  rw [containsHalfedge_iff_origin?, containsHalfedge_iff_origin?, pruned.origin?]
  by_cases gone : h.edge ∈ es <;> simp [gone]

theorem containsEdge_iff (e : EdgeId) :
    m'.containsEdge e = true ↔ m.containsEdge e = true ∧ e ∉ es := by
  have told := pruned.containsHalfedge_iff e.first
  rwa [containsHalfedge_eq_containsEdge, containsHalfedge_eq_containsEdge] at told

theorem containsNode (n : NodeId) : m'.containsNode n = m.containsNode n := by
  rw [Mesh.containsNode, ← Option.isSome_map (f := Node.position), pruned.position,
    Option.isSome_map, Mesh.containsNode]

theorem containsFace_iff (f : FaceId) :
    m'.containsFace f = true ↔ m.containsFace f = true ∧ ¬ m.FaceAt es f := by
  rw [Mesh.containsFace, Mesh.containsFace, Option.isSome_iff_exists, Option.isSome_iff_exists]
  simp only [pruned.face?_iff, exists_and_right]

/-- A face lies at an edge of either kind if it did when the first were there, or did not and lies
at one of the second. -/
theorem faceAt_append_iff (f : FaceId) :
    m.FaceAt (es ++ es') f ↔ m.FaceAt es f ∨ m'.FaceAt es' f := by
  constructor
  · rintro ⟨h, mem, reports⟩
    by_cases first : m.FaceAt es f
    · exact .inl first
    have still : h.edge ∉ es := fun gone => first ⟨h, gone, reports⟩
    have later := (List.mem_append.1 mem).resolve_left still
    exact .inr ⟨h, later, (pruned.reports_iff h f).2 ⟨still, reports, first⟩⟩
  · rintro (⟨h, mem, reports⟩ | ⟨h, mem, reports⟩)
    · exact ⟨h, List.mem_append_left _ mem, reports⟩
    · exact ⟨h, List.mem_append_right _ mem, ((pruned.reports_iff h f).1 reports).2.1⟩

theorem trans (second : m'.Pruned es' m'') : m.Pruned (es ++ es') m'' where
  sound := second.sound
  nodup := by
    refine List.nodup_append.2 ⟨pruned.nodup, second.nodup, ?_⟩
    rintro e mem e' mem' rfl
    exact ((pruned.containsEdge_iff e).1 (second.live e mem')).2 mem
  live e mem := by
    rcases List.mem_append.1 mem with mem | mem
    · exact pruned.live e mem
    · exact ((pruned.containsEdge_iff e).1 (second.live e mem)).1
  edgeCount := by
    have first := pruned.edgeCount
    have later := second.edgeCount
    rw [List.length_append]
    omega
  position n := (second.position n).trans (pruned.position n)
  represented n record r found chosen other := by
    rw [List.mem_append, not_or] at other
    exact second.represented n record r (pruned.represented n record r found chosen other.1) chosen
      other.2
  origin? h := by
    rw [second.origin?, pruned.origin?]
    by_cases first : h.edge ∈ es <;> by_cases later : h.edge ∈ es' <;> simp [first, later]
  reports_iff h f := by
    rw [second.reports_iff, pruned.reports_iff, pruned.faceAt_append_iff, List.mem_append, not_or,
      not_or]
    tauto
  face?_iff f record := by
    rw [second.face?_iff, pruned.face?_iff, pruned.faceAt_append_iff, not_or]
    tauto
  triangle f t apart triangle := by
    rw [pruned.faceAt_append_iff, not_or] at apart
    exact second.triangle f t apart.2 (pruned.triangle f t apart.1 triangle)
  ring n l around := by
    have both := second.ring n _ (pruned.ring n l around)
    rw [List.filter_filter] at both
    convert both using 3
    funext h
    simp [Bool.and_comm]

end Pruned

/-! ## Pruning by one edge -/

theorem Flanked.mem_iff {h : HalfedgeId} {flanks : List (FaceId × Corners NodeId)}
    (flanked : m.Flanked h flanks) (f : FaceId) :
    f ∈ flanks.map Prod.fst ↔ m.faceOf? h = some (some f) := by
  cases flanked with
  | free free => simp [show m.faceOf? h = some none from free]
  | faced triangle => simp [triangle.faceOf?_a, eq_comm]

/-- Opening both sides of an edge clears the faces that lie there. -/
theorem Opened.exists_cleared {m₁ m₂ : Mesh} {e : EdgeId} (sound : m.Sound)
    (live : m.containsEdge e = true) (opened₁ : m.Opened e.first m₁)
    (opened₂ : m₁.Opened e.second m₂) :
    ∃ fs, m.Cleared fs m₂ ∧ ∀ f, f ∈ fs ↔ m.FaceAt [e] f := by
  have live₁ : m.containsHalfedge e.first = true := by rwa [containsHalfedge_eq_containsEdge]
  have live₂ : m₁.containsHalfedge e.second = true := by
    rw [containsHalfedge_eq_containsEdge]
    exact (containsEdge_eq_of_origin? opened₁.origin? e).trans live
  rcases sound.exists_flanked live₁ with ⟨flanks₁, flanked₁⟩
  rcases (opened₁.sound sound).exists_flanked live₂ with ⟨flanks₂, flanked₂⟩
  have cleared₁ := opened₁.cleared sound flanked₁
  have cleared₂ := opened₂.cleared (opened₁.sound sound) flanked₂
  refine ⟨_, cleared₁.trans cleared₂, fun f => ?_⟩
  have second := cleared₁.faceOf? e.second flanked₁.pair_apart
  rw [List.mem_append, flanked₁.mem_iff, flanked₂.mem_iff, second]
  constructor
  · rintro (reports | reports)
    · exact ⟨e.first, by simp [Key.first], reports⟩
    · exact ⟨e.second, by simp [Key.second], reports⟩
  · rintro ⟨h, mem, reports⟩
    rcases edge_eq_iff.1 (List.mem_singleton.1 mem) with rfl | rfl
    · exact .inl reports
    · exact .inr reports

/-- Without an edge, a ring is what its other half-edges leave of it. -/
theorem DroppedEdge.ring_filter {e : EdgeId} (dropped : m.DroppedEdge e m') (sound : m.Sound)
    {n : NodeId} {l : List HalfedgeId} (around : m.Ring n ↑l) :
    m'.Ring n ↑(l.filter fun h => h.edge ≠ e) := by
  by_cases apart : ∀ h ∈ l, h.edge ≠ e
  · rw [List.filter_eq_self.2 (by simpa using apart)]
    exact dropped.ring_of_ne n l apart around
  · push Not at apart
    rcases apart with ⟨h, mem, gone⟩
    have starts : ∀ g, g ∈ l ↔ m.origin? g = some n := around.mem_iff
    -- The twin of `h` starts at another node, so no other member belongs to the edge.
    have others : ∀ g ∈ l, g ≠ h → g.edge ≠ e := by
      intro g mem' other same
      rcases HalfedgeId.eq_or_eq_pair (same.trans gone.symm) with rfl | rfl
      · exact other rfl
      · exact sound.ends_ne h n ((starts h).1 mem) ((starts h.pair).1 mem')
    rcases List.append_of_mem mem with ⟨A, B, rfl⟩
    have nodup : (A ++ h :: B).Nodup := around.nodup
    have apartA : ∀ g ∈ A, g ≠ h := fun g mem' same =>
      (List.nodup_append.1 nodup).2.2 g mem' h (by simp) same
    have apartB : ∀ g ∈ B, g ≠ h := by
      rintro g mem' rfl
      exact (List.nodup_cons.1 (List.nodup_append.1 nodup).2.1).1 mem'
    have rest : (A ++ h :: B).filter (fun g => g.edge ≠ e) = A ++ B := by
      have keptA : A.filter (fun g => g.edge ≠ e) = A := by
        apply List.filter_eq_self.2
        intro g mem'
        simpa using others g (by simp [mem']) (apartA g mem')
      have keptB : B.filter (fun g => g.edge ≠ e) = B := by
        apply List.filter_eq_self.2
        intro g mem'
        simpa using others g (by simp [mem']) (apartB g mem')
      rw [List.filter_append, List.filter_cons_of_neg (by simpa using gone), keptA, keptB]
    rw [rest, Cycle.coe_append_comm]
    apply dropped.ring n (B ++ A) h gone
    rw [List.append_assoc, Cycle.coe_append_comm, List.append_assoc]
    exact around

/-- Removing an edge with the faces at its sides prunes the mesh of it. -/
theorem DroppedEdge.pruned {m₁ m₂ : Mesh} {e : EdgeId} (dropped : m₂.DroppedEdge e m')
    (sound : m.Sound) (live : m.containsEdge e = true) (opened₁ : m.Opened e.first m₁)
    (opened₂ : m₁.Opened e.second m₂) : m.Pruned [e] m' := by
  have free : ∀ h : HalfedgeId, h.edge = e → m₂.Free h := by
    intro h side
    rcases edge_eq_iff.1 side with rfl | rfl
    · exact opened₂.free_of_free opened₁.free_self
    · exact opened₂.free_self
  rcases Opened.exists_cleared sound live opened₁ opened₂ with ⟨fs, cleared, mem_iff⟩
  have sound₂ := cleared.sound
  have node? (n : NodeId) : m₂.node? n = m.node? n := by
    rw [Mesh.node?, cleared.nodes]
    rfl
  have reports₂_iff (h : HalfedgeId) (f : FaceId) :
      m₂.faceOf? h = some (some f) ↔ m.faceOf? h = some (some f) ∧ ¬ m.FaceAt [e] f := by
    rw [← mem_iff]
    by_cases apart : ∀ g ∈ fs, m.faceOf? h ≠ some (some g)
    · rw [cleared.faceOf? h apart]
      exact ⟨fun reports => ⟨reports, fun mem => apart f mem reports⟩, And.left⟩
    · push Not at apart
      rcases apart with ⟨g, mem, reports⟩
      rw [show m₂.faceOf? h = some none from cleared.free h g mem reports, reports]
      simp only [Option.some.injEq, reduceCtorEq, false_iff, not_and, not_not]
      rintro rfl
      exact mem
  constructor
  case sound => exact dropped.sound
  case nodup => exact List.nodup_singleton e
  case live => simpa using live
  case edgeCount =>
    rw [List.length_singleton, dropped.edgeCount]
    exact edgeCount_eq_of_origin? cleared.origin?
  case position =>
    intro n
    rw [dropped.position, node?]
  case represented =>
    intro n record r found chosen other
    exact dropped.represented n record r ((node? n).trans found) chosen (by simpa using other)
  case origin? =>
    intro h
    rw [dropped.origin?, cleared.origin?]
    simp
  case reports_iff =>
    intro h f
    rw [dropped.faceOf?, ← reports₂_iff]
    by_cases side : h.edge = e <;> simp [side]
  case face?_iff =>
    intro f record
    rw [← mem_iff, face?, dropped.faces]
    show m₂.face? f = some record ↔ _
    rw [cleared.face?]
    by_cases mem : f ∈ fs <;> simp [mem]
  case triangle =>
    intro f t apart triangle
    rw [← mem_iff] at apart
    exact dropped.triangle sound₂ free (cleared.triangle apart triangle)
  case ring =>
    intro n l around
    have around₂ : m₂.Ring n ↑l := around.of_keeps (fun h => by rw [cleared.origin?])
      fun _ _ _ => cleared.follows.2
    simpa using dropped.ring_filter sound₂ around₂

/-- Only the sides of live edges are opened. -/
theorem Opened.live {h : HalfedgeId} (opened : m.Opened h m') : m.containsHalfedge h = true := by
  cases opened with
  | free free => exact containsHalfedge_iff_faceOf?.2 ⟨none, free⟩
  | face reports => exact containsHalfedge_iff_faceOf?.2 ⟨_, reports⟩

/-- Removing edges one after the other prunes the mesh of them. -/
theorem Stripped.pruned {es : List EdgeId} (stripped : m.Stripped es m') (sound : m.Sound) :
    m.Pruned es m' := by
  induction stripped with
  | refl m => exact .refl sound
  | edge opened₁ opened₂ dropped _ inductionHypothesis =>
    have live := opened₁.live
    rw [containsHalfedge_eq_containsEdge] at live
    exact (dropped.pruned sound live opened₁ opened₂).trans (inductionHypothesis dropped.sound)

end Mesh

end PlanarMesh
