import PlanarMesh.Proofs.Atomicity

/-!
# What handles mean

As long as a handle is live it means the same: a node its position, an edge the two nodes that it
leads between, a face its half-edges, from the same one on, and its corners.  Pointers along loops
do change, but not those of half-edges that report a face.

Additions and refused edits lose nothing (`Preserved`), and the other way round nothing is told
after a removal that was not told before it.  A split removes and adds, so that only what is live
before it and after it can be compared.  `Steady` is what all of them have in common.  It does not
compose, as a key may name another record after it was removed.  Hence the run lemma
(`Sound.run_of_steps`) asks for a handle that is live all the time.
-/

namespace PlanarMesh

namespace Mesh

/-- What `m` tells about nodes, edges and faces, `m'` tells as well. -/
structure Preserved (m m' : Mesh) : Prop where
  position : ∀ n p, m.position n = .ok p → m'.position n = .ok p
  origin? : ∀ h n, m.origin? h = some n → m'.origin? h = some n
  faceHalfedges : ∀ f t, m.faceHalfedges f = .ok t → m'.faceHalfedges f = .ok t

/-- What is live in both meshes means the same in both. -/
structure Steady (m m' : Mesh) : Prop where
  position : ∀ n, m.containsNode n = true → m'.containsNode n = true → m'.position n = m.position n
  origin? : ∀ h, m.containsHalfedge h = true → m'.containsHalfedge h = true →
    m'.origin? h = m.origin? h
  faceHalfedges : ∀ f, m.containsFace f = true → m'.containsFace f = true →
    m'.faceHalfedges f = m.faceHalfedges f

variable {m m' m'' : Mesh}

/-- Faces keep their half-edges where only free half-edges are moved. -/
theorem Keeps.faceHalfedges (keeps : m.Keeps m' fun g => m.Free g.pair) (sound : m.Sound)
    {f : FaceId} {record : Face} (found : m.face? f = some record)
    (still : m'.face? f = some record) : m'.faceHalfedges f = m.faceHalfedges f := by
  rcases sound.triangle f record found with ⟨t, first, triangle⟩
  rw [faceHalfedges_of_triangle found first triangle]
  apply faceHalfedges_of_next still first
  · rw [keeps.next?_of_faced sound triangle.faceOf?_a, triangle.next_a]
  · rw [keeps.next?_of_faced sound triangle.faceOf?_b, triangle.next_b]

/-! ## Additions and refused edits -/

namespace Preserved

theorem refl (m : Mesh) : m.Preserved m :=
  ⟨fun _ _ => id, fun _ _ => id, fun _ _ => id⟩

theorem trans (first : m.Preserved m') (second : m'.Preserved m'') : m.Preserved m'' where
  position n p told := second.position n p (first.position n p told)
  origin? h n start := second.origin? h n (first.origin? h n start)
  faceHalfedges f t told := second.faceHalfedges f t (first.faceHalfedges f t told)

end Preserved

theorem Grown.preserved (grown : m.Grown m') (sound : m.Sound) : m.Preserved m' where
  position n p told := by
    rw [position_eq_orInvalid, grown.position n (containsNode_of_position told),
      ← position_eq_orInvalid, told]
  origin? := grown.origin?
  faceHalfedges f t told := by
    have live : m.containsFace f = true :=
      Option.isSome_iff_exists.2 ⟨_, (faceHalfedges_eq_ok_iff.1 told).1⟩
    rw [grown.faceHalfedges sound live, told]

theorem Outlined.grown_face {a b c : NodeId} {h₁ h₂ h₃ : HalfedgeId} {m₁ m₂ m₃ : Mesh} {f : FaceId}
    (outlined : m.Outlined a b c h₁ h₂ h₃ m₁ m₂ m₃) (sound : m.Sound) (fits : m₃.Fits h₁ h₂ h₃)
    (added : m₃.AddedFace h₁ h₂ h₃ f m') : m.Grown m' :=
  (outlined.grown sound).trans (added.grown (outlined.sound sound) fits)

theorem RolledBack.preserved {P : Prop} (rolledBack : m.RolledBack P m') (sound : m.Sound) :
    m.Preserved m' where
  position n p := by
    rw [position_eq_orInvalid, position_eq_orInvalid, rolledBack.node?]
    exact id
  origin? h n start := (rolledBack.origin? h).trans start
  faceHalfedges f t told := by
    have found := (faceHalfedges_eq_ok_iff.1 told).1
    rw [rolledBack.keeps_faced.faceHalfedges sound found ((rolledBack.face? f).trans found), told]

/-! ## Removals -/

theorem RemovedFace.preserved {f : FaceId} {t : Corners HalfedgeId}
    (removed : m.RemovedFace f t m') : m'.Preserved m := by
  have face? : ∀ g record, m'.face? g = some record → m.face? g = some record := by
    intro g record found
    rw [Mesh.face?, removed.faces, SlotStore.get?_erase] at found
    split at found
    · cases found
    · exact found
  constructor
  case position =>
    intro n p
    rw [position_eq_orInvalid, position_eq_orInvalid, Mesh.node?, removed.nodes]
    exact id
  case origin? =>
    intro h n start
    exact (removed.origin? h).symm.trans start
  case faceHalfedges =>
    intro g t'
    rw [faceHalfedges_eq_ok_iff, faceHalfedges_eq_ok_iff, removed.next?, removed.next?]
    exact And.imp_left (face? g _)

theorem Opened.preserved {h : HalfedgeId} (opened : m.Opened h m') : m'.Preserved m := by
  cases opened with
  | free => exact .refl m
  | face _ removed => exact removed.preserved

theorem DroppedEdge.preserved {e : EdgeId} (dropped : m.DroppedEdge e m') (sound : m.Sound) :
    m'.Preserved m := by
  have face? : ∀ f, m'.face? f = m.face? f := fun f => by rw [Mesh.face?, dropped.faces]; rfl
  constructor
  case position =>
    intro n p
    rw [position_eq_orInvalid, position_eq_orInvalid, dropped.position]
    exact id
  case origin? =>
    intro h n start
    rw [dropped.origin?] at start
    split at start
    · cases start
    · exact start
  case faceHalfedges =>
    intro f t told
    have still := (faceHalfedges_eq_ok_iff.1 told).1
    have found := (face? f).symm.trans still
    rw [← dropped.keeps_faced.faceHalfedges sound found still, told]

theorem Stripped.preserved {es : List EdgeId} (stripped : m.Stripped es m') (sound : m.Sound) :
    m'.Preserved m := by
  induction stripped with
  | refl m => exact .refl m
  | edge opened₁ opened₂ dropped _ inductionHypothesis =>
    have rest := inductionHypothesis dropped.sound
    have edge := dropped.preserved (opened₂.sound (opened₁.sound sound))
    exact ((rest.trans edge).trans opened₂.preserved).trans opened₁.preserved

theorem DroppedNode.preserved {n : NodeId} (dropped : m.DroppedNode n m') : m'.Preserved m := by
  have halfedge? : ∀ h, m'.halfedge? h = m.halfedge? h := fun h => by
    rw [Mesh.halfedge?, Mesh.edge?, dropped.edges]
    rfl
  have next? : ∀ h, m'.next? h = m.next? h := fun h => congrArg (Option.map _) (halfedge? h)
  have face? : ∀ f, m'.face? f = m.face? f := fun f => by rw [Mesh.face?, dropped.faces]; rfl
  constructor
  case position =>
    intro n' p
    rw [position_eq_orInvalid, position_eq_orInvalid, Mesh.node?, dropped.nodes,
      SlotStore.get?_erase]
    split
    · intro told
      cases told
    · exact id
  case origin? =>
    intro h n' start
    exact (congrArg (Option.map _) (halfedge? h)).symm.trans start
  case faceHalfedges =>
    intro f t
    rw [faceHalfedges_eq_ok_iff, faceHalfedges_eq_ok_iff, face?, next?, next?]
    exact id

/-! ## What is live before and after -/

theorem Steady.symm (steady : m.Steady m') : m'.Steady m where
  position n live live' := (steady.position n live' live).symm
  origin? h live live' := (steady.origin? h live' live).symm
  faceHalfedges f live live' := (steady.faceHalfedges f live' live).symm

theorem Preserved.steady (preserved : m.Preserved m') (sound : m.Sound) : m.Steady m' where
  position n live _ := by
    rcases exists_position live with ⟨p, told⟩
    rw [told, preserved.position n p told]
  origin? h live _ := by
    rcases containsHalfedge_iff_origin?.1 live with ⟨n, start⟩
    rw [start, preserved.origin? h n start]
  faceHalfedges f live _ := by
    rcases sound.wellFormed.loop f live with ⟨t, -, told, -⟩
    rw [told, preserved.faceHalfedges f t told]

theorem SplitsEdge.steady {e : EdgeId} {n₁ n₂ x : NodeId} {flanks : List (FaceId × Corners NodeId)}
    {position : Point} (split : m.SplitsEdge e n₁ n₂ flanks position x m') : m.Steady m' := by
  have other {g : FaceId} (live : m'.containsFace g = true) : ∀ flank ∈ flanks, g ≠ flank.1 := by
    rintro flank mem rfl
    rw [split.faces_gone flank mem] at live
    cases live
  constructor
  case position =>
    intro n live _
    exact split.old_position n live
  case origin? =>
    intro h live live'
    apply split.origin? h live
    rintro rfl
    rw [containsHalfedge_eq_containsEdge, split.edge_gone] at live'
    cases live'
  case faceHalfedges =>
    intro f live live'
    exact (split.face? f live (other live')).2

theorem SplitsFace.old_position {f : FaceId} {a b c x : NodeId} {position : Point}
    (split : m.SplitsFace f a b c position x m') {n : NodeId} (live : m.containsNode n = true) :
    m'.position n = m.position n := by
  rw [position_eq_orInvalid, position_eq_orInvalid, split.node?]
  rintro rfl
  rw [split.new_node] at live
  cases live

theorem SplitsFace.steady {f : FaceId} {a b c x : NodeId} {position : Point}
    (split : m.SplitsFace f a b c position x m') : m.Steady m' := by
  have other {g : FaceId} (live : m'.containsFace g = true) : g ≠ f := by
    rintro rfl
    rw [split.gone] at live
    cases live
  constructor
  case position =>
    intro n live _
    exact split.old_position live
  case origin? =>
    intro h live _
    exact split.origin? h live
  case faceHalfedges =>
    intro g live live'
    exact (split.face? g live (other live')).2

end Mesh

namespace Edit

open Mesh

variable {α : Type}

/-- If the edit returns, what is live before and after it means the same. -/
def KeepsMeaning (edit : Edit α) : Prop :=
  ∀ s : Session, s.mesh.Sound → edit.Ends s (fun _ m => s.mesh.Steady m) fun _ _ => True

theorem KeepsMeaning.map {β : Type} {edit : Edit α} (keepsMeaning : KeepsMeaning edit)
    (f : α → β) : KeepsMeaning (do return f (← edit)) := fun s sound =>
  (keepsMeaning s sound).bind (fun _ _ => id) fun _ _ => id

theorem keepsMeaning_addNode (position : Point) : KeepsMeaning (addNode position) :=
  fun _ sound => (addNode_ends sound).mono
    (fun _ _ added => ((added.grown sound).preserved sound).steady sound) fun _ _ _ => trivial

theorem keepsMeaning_removeNode (n : NodeId) : KeepsMeaning (removeNode n) := fun _ sound => by
  apply (removeNode_ends sound).mono _ fun _ _ _ => trivial
  rintro - m ⟨-, es, m₁, stripped, -, dropped⟩
  exact ((dropped.preserved.trans (stripped.preserved sound)).steady dropped.sound).symm

theorem keepsMeaning_addEdge (n₁ n₂ : NodeId) : KeepsMeaning (addEdge n₁ n₂) := fun _ sound => by
  apply (addEdge_ends sound).mono _ fun _ _ _ => trivial
  rintro h m ⟨-, e, -, added⟩
  exact ((added.grown sound).preserved sound).steady sound

theorem keepsMeaning_removeEdge (e : EdgeId) : KeepsMeaning (removeEdge e) := fun _ sound => by
  apply (removeEdge_ends sound).mono _ fun _ _ _ => trivial
  rintro - m ⟨-, m₁, m₂, opened₁, opened₂, dropped⟩
  have stripped := Stripped.edge opened₁ opened₂ dropped (.refl m)
  exact ((stripped.preserved sound).steady dropped.sound).symm

theorem keepsMeaning_addFace (h₁ h₂ h₃ : HalfedgeId) : KeepsMeaning (addFace h₁ h₂ h₃) :=
  fun _ sound => by
    apply (addFace_ends sound).mono _ fun _ _ _ => trivial
    rintro f m ⟨fits, added⟩
    exact ((added.grown sound fits).preserved sound).steady sound

theorem keepsMeaning_removeFace (f : FaceId) : KeepsMeaning (removeFace f) := fun _ sound => by
  apply (removeFace_ends sound).mono _ fun _ _ _ => trivial
  rintro - m ⟨t, removed⟩
  exact (removed.preserved.steady removed.sound).symm

theorem keepsMeaning_addTriangle (a b c : NodeId) : KeepsMeaning (addTriangle a b c) :=
  fun _ sound => by
    apply (addTriangle_ends sound).mono _ fun _ _ _ => trivial
    rintro f m ⟨h₁, h₂, h₃, m₁, m₂, m₃, outlined, fits, added⟩
    exact ((outlined.grown_face sound fits added).preserved sound).steady sound

theorem keepsMeaning_splitEdge (e : EdgeId) (position : Point) :
    KeepsMeaning (splitEdge e position) := fun _ sound => by
  apply (splitEdge_ends sound).mono _ fun _ _ _ => trivial
  rintro x m ⟨-, n₁, n₂, k₁, k₂, -, -, -, split, -⟩
  exact split.steady

theorem keepsMeaning_splitFace (f : FaceId) (position : Point) :
    KeepsMeaning (splitFace f position) := fun _ sound => by
  apply (splitFace_ends sound).mono _ fun _ _ _ => trivial
  rintro x m ⟨-, a, b, c, -, split⟩
  exact split.steady

section Build

variable (m : Mesh)

theorem addNode_maintains_preserved (position : Point) :
    (addNode position).Maintains fun m' => m'.Sound ∧ m.Preserved m' := by
  rintro s ⟨sound, preserved⟩
  apply (addNode_ends sound).mono
  · intro n m' added
    exact ⟨added.sound, preserved.trans ((added.grown sound).preserved sound)⟩
  · exact fun _ _ => False.elim

theorem addTriangle_maintains_preserved (a b c : NodeId) :
    (addTriangle a b c).Maintains fun m' => m'.Sound ∧ m.Preserved m' := by
  rintro s ⟨sound, preserved⟩
  apply (addTriangle_ends sound).mono
  · rintro f m' ⟨h₁, h₂, h₃, m₁, m₂, m₃, outlined, fits, added⟩
    have grown := outlined.grown_face sound fits added
    exact ⟨added.sound, preserved.trans (grown.preserved sound)⟩
  · rintro error m' ⟨-, still, rolledBack⟩
    exact ⟨still, preserved.trans (rolledBack.preserved sound)⟩

theorem build_maintains_preserved (list : TriangleList) :
    (build list).Maintains fun m' => m'.Sound ∧ m.Preserved m' :=
  maintains_build (addNode_maintains_preserved m) (addTriangle_maintains_preserved m) list

end Build

end Edit

namespace Operation

open Mesh

variable {m : Mesh}

theorem keepsMeaning_edit {operation : Operation} (single : ¬ operation.IsBuild) :
    operation.edit.KeepsMeaning := by
  cases operation with
  | addNode position => exact (Edit.keepsMeaning_addNode position).map _
  | removeNode n => exact (Edit.keepsMeaning_removeNode n).map fun _ => Reply.done
  | addEdge n₁ n₂ => exact (Edit.keepsMeaning_addEdge n₁ n₂).map _
  | removeEdge e => exact (Edit.keepsMeaning_removeEdge e).map fun _ => Reply.done
  | addFace h₁ h₂ h₃ => exact (Edit.keepsMeaning_addFace h₁ h₂ h₃).map _
  | removeFace f => exact (Edit.keepsMeaning_removeFace f).map fun _ => Reply.done
  | addTriangle a b c => exact (Edit.keepsMeaning_addTriangle a b c).map _
  | splitEdge e position => exact (Edit.keepsMeaning_splitEdge e position).map _
  | splitFace f position => exact (Edit.keepsMeaning_splitFace f position).map _
  | build list => exact absurd trivial single

/-- What is live before and after an operation means the same, also if the operation is refused. -/
theorem steady_result (operation : Operation) (sound : m.Sound) :
    m.Steady (operation.result m) := by
  by_cases several : operation.IsBuild
  · cases operation with
    | build list =>
      have maintains : (build list).edit.Maintains fun m' => m'.Sound ∧ m.Preserved m' :=
        (Edit.build_maintains_preserved m list).bind fun _ => .pure _
      rcases outcome_of_ends (maintains (Session.on m) ⟨sound, .refl m⟩) with
        ⟨reply, m', ended, -, preserved⟩ | ⟨error, m', ended, -, preserved⟩
      · rw [result, ended]
        exact preserved.steady sound
      · rw [result, ended]
        exact preserved.steady sound
    | _ => exact several.elim
  · rcases outcome_of_ends (keepsMeaning_edit several (Session.on m) sound) with
      ⟨reply, m', ended, steady⟩ | ⟨error, m', ended, -⟩
    · rw [result, ended]
      exact steady
    · have refused := rolledBack_result sound several (by rw [ended])
      exact (refused.2.preserved sound).steady sound

end Operation

namespace Mesh

/-- The edge leads from `n₁` to `n₂`. -/
structure ShowsEdge (m : Mesh) (e : EdgeId) (n₁ n₂ : NodeId) : Prop where
  origin : m.origin e.first = .ok n₁
  target : m.target e.first = .ok n₂

/-- The record of the face names the first side of `t`, its loop are the sides of `t`, and its
corners are `ns`. -/
structure ShowsFace (m : Mesh) (f : FaceId) (t : Corners HalfedgeId) (ns : Corners NodeId) :
    Prop where
  face : m.face f = .ok ⟨t.a⟩
  faceHalfedges : m.faceHalfedges f = .ok t
  next_c : m.next t.c = .ok t.a
  faceNodes : m.faceNodes f = .ok ns

variable {m m' : Mesh} {later : List Operation}

theorem ShowsEdge.leads {e : EdgeId} {n₁ n₂ : NodeId} (shows : m.ShowsEdge e n₁ n₂) :
    m.Leads e.first n₁ n₂ := by
  rcases shows with ⟨origin, target⟩
  rw [origin_eq_ok_iff] at origin
  rw [target_eq_ok_iff] at target
  exact ⟨origin, target⟩

theorem Leads.showsEdge {e : EdgeId} {n₁ n₂ : NodeId} (leads : m.Leads e.first n₁ n₂) :
    m.ShowsEdge e n₁ n₂ where
  origin := by
    rw [origin_eq_orInvalid, leads.start]
    rfl
  target := by
    rw [target, origin_eq_orInvalid, leads.finish]
    rfl

theorem Sound.exists_showsEdge (sound : m.Sound) {e : EdgeId} (live : m.containsEdge e = true) :
    ∃ n₁ n₂, m.ShowsEdge e n₁ n₂ := by
  have sideLive : m.containsHalfedge e.first = true := by rwa [containsHalfedge_eq_containsEdge]
  rcases sound.exists_leads sideLive with ⟨n₁, n₂, leads⟩
  exact ⟨n₁, n₂, leads.showsEdge⟩

theorem Sound.exists_showsFace (sound : m.Sound) {f : FaceId} (live : m.containsFace f = true) :
    ∃ t ns, m.ShowsFace f t ns := by
  rcases sound.wellFormed.loop f live with ⟨t, ns, told, closes, -, corners, -⟩
  exact ⟨t, ns, face_eq_ok_iff.2 (faceHalfedges_eq_ok_iff.1 told).1, told, closes, corners⟩

theorem ShowsFace.live {f : FaceId} {t : Corners HalfedgeId} {ns : Corners NodeId}
    (shows : m.ShowsFace f t ns) : m.containsFace f = true :=
  Option.isSome_iff_exists.2 ⟨_, face_eq_ok_iff.1 shows.face⟩

/-- All sides of a face are live. -/
theorem ShowsFace.side_live {f : FaceId} {t : Corners HalfedgeId} {ns : Corners NodeId}
    (shows : m.ShowsFace f t ns) {h : HalfedgeId} (mem : h ∈ t.toList) :
    m.containsHalfedge h = true := by
  rcases faceHalfedges_eq_ok_iff.1 shows.faceHalfedges with ⟨-, next_a, next_b⟩
  have next_c := shows.next_c
  rw [next_eq_ok_iff] at next_c
  rw [containsHalfedge_iff_next?]
  rcases Corners.mem_toList.1 mem with rfl | rfl | rfl
  · exact ⟨_, next_a⟩
  · exact ⟨_, next_b⟩
  · exact ⟨_, next_c⟩

/-! ## Along runs -/

namespace Steady

variable (steady : m.Steady m')

include steady

theorem shows_position {n : NodeId} {p : Point} (shows : m.position n = .ok p)
    (live : m'.containsNode n = true) : m'.position n = .ok p := by
  rw [steady.position n (containsNode_of_position shows) live, shows]

theorem showsEdge {e : EdgeId} {n₁ n₂ : NodeId} (shows : m.ShowsEdge e n₁ n₂)
    (live : m'.containsEdge e = true) : m'.ShowsEdge e n₁ n₂ := by
  have still {h : HalfedgeId} (side : h.edge = e) : m'.containsHalfedge h = true := by
    rwa [containsHalfedge_eq_containsEdge, side]
  apply Leads.showsEdge
  constructor
  · rw [steady.origin? _ shows.leads.live (still rfl), shows.leads.start]
  · rw [steady.origin? _ shows.leads.pair.live (still rfl), shows.leads.finish]

theorem showsFace (sound : m'.Sound) {f : FaceId} {t : Corners HalfedgeId} {ns : Corners NodeId}
    (shows : m.ShowsFace f t ns) (live : m'.containsFace f = true) : m'.ShowsFace f t ns := by
  rcases sound.exists_showsFace live with ⟨t', ns', shows'⟩
  have same := steady.faceHalfedges f shows.live live
  rw [shows'.faceHalfedges, shows.faceHalfedges, Except.ok.injEq] at same
  subst same
  have origin : ∀ h ∈ t'.toList, m'.origin h = m.origin h := fun h mem => by
    rw [origin_eq_orInvalid, origin_eq_orInvalid,
      steady.origin? h (shows.side_live mem) (shows'.side_live mem)]
  have corners : m'.faceNodes f = m.faceNodes f := by
    rw [faceNodes, faceNodes, shows.faceHalfedges, shows'.faceHalfedges]
    simp [Corners.mapM, bind, Except.bind, origin]
  exact ⟨shows'.face, shows'.faceHalfedges, shows'.next_c, corners.trans shows.faceNodes⟩

end Steady

/-- What holds at the start and passes on from step to step as long as something is live, holds at
the end if that is live all the time. -/
theorem Sound.run_of_steps {P live : Mesh → Prop} (sound : m.Sound) (holds : P m)
    (step : ∀ {m m'}, m'.Sound → m.Steady m' → P m → live m' → P m')
    (alive : ∀ first, first <+: later → live (m.run first)) : P (m.run later) := by
  induction later generalizing m with
  | nil => exact holds
  | cons operation later inductionHypothesis =>
    have still := operation.sound_result sound
    have alive' : ∀ first, first <+: later → live ((operation.result m).run first) :=
      fun first initial => alive (operation :: first) (List.cons_prefix_cons.2 ⟨rfl, initial⟩)
    have steady := operation.steady_result sound
    exact inductionHypothesis still (step still steady holds (alive' [] List.nil_prefix)) alive'

/-- Whatever operations were run: what they made means the same after any further operations during
which it is live. -/
theorem meaning_of_operations (operations later : List Operation) :
    let m := empty.run operations
    let m' := m.run later
    (∀ n, (∀ first, first <+: later → (m.run first).containsNode n = true) →
        ∃ p, m.position n = .ok p ∧ m'.position n = .ok p) ∧
      (∀ e, (∀ first, first <+: later → (m.run first).containsEdge e = true) →
        ∃ n₁ n₂, m.ShowsEdge e n₁ n₂ ∧ m'.ShowsEdge e n₁ n₂) ∧
      ∀ f, (∀ first, first <+: later → (m.run first).containsFace f = true) →
        ∃ t ns, m.ShowsFace f t ns ∧ m'.ShowsFace f t ns := by
  intro m m'
  have sound : m.Sound := sound_empty.run operations
  constructor
  · intro n alive
    rcases exists_position (alive [] List.nil_prefix) with ⟨p, shows⟩
    have later_shows := sound.run_of_steps (P := fun m => m.position n = .ok p) shows
      (fun _ steady shows live => steady.shows_position shows live) alive
    exact ⟨p, shows, later_shows⟩
  constructor
  · intro e alive
    rcases sound.exists_showsEdge (alive [] List.nil_prefix) with ⟨n₁, n₂, shows⟩
    have later_shows := sound.run_of_steps (P := fun m => m.ShowsEdge e n₁ n₂) shows
      (fun _ steady shows live => steady.showsEdge shows live) alive
    exact ⟨n₁, n₂, shows, later_shows⟩
  · intro f alive
    rcases sound.exists_showsFace (alive [] List.nil_prefix) with ⟨t, ns, shows⟩
    have later_shows := sound.run_of_steps (P := fun m => m.ShowsFace f t ns) shows
      (fun still steady shows live => steady.showsFace still shows live) alive
    exact ⟨t, ns, shows, later_shows⟩

end Mesh

end PlanarMesh
