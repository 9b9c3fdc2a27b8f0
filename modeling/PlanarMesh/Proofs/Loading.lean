import PlanarMesh.Proofs.FaceLoops
import PlanarMesh.Proofs.Reachability

/-!
# Edits of loaded meshes

A snapshot is loaded if its records are intact.  Edits rely on more than that: edges have to
join different nodes.  On an intact mesh where they do, the records are sound
(`Intact.sound`), and so no edit ever breaks an invariant.

Where some edge joins a node with itself, some sequence of edits breaks an invariant.  The faces
that the two sides of the edge report can be removed, or removing them already breaks something
(`Intact.exists_clear`).  Then one side can be used for all three sides of a new face, and
afterwards there is one more half-edge that reports a face, not three
(`Intact.addFace_self_broken`).
-/

namespace PlanarMesh

namespace Mesh

variable {m : Mesh}

/-! ## Edges that join different nodes -/

namespace Intact

variable (intact : m.Intact)

include intact

theorem exists_ring (n : NodeId) : ∃ ring, m.Ring n ring := by
  by_cases occupied : ∃ h, m.origin? h = some n
  · rcases occupied with ⟨h, start⟩
    rcases intact.covered h n start with ⟨r, represents, -⟩
    have startR := intact.represented n r represents
    rcases exists_orbit intact.fits (containsHalfedge_of_origin? startR) with ⟨ring, orbit, mem_iff⟩
    have starts : ∀ g, g ∈ ring ↔ m.origin? g = some n := by
      intro g
      rw [mem_iff]
      constructor
      · exact fun around => around.origin? intact.fits startR
      · intro startG
        rcases intact.covered g n startG with ⟨r', represents', around⟩
        rcases represents with ⟨record, found, chosen⟩
        rcases represents' with ⟨record', found', chosen'⟩
        cases found.symm.trans found'
        cases chosen.symm.trans chosen'
        exact around
    exact ⟨ring, orbit, starts⟩
  · have none : ∀ h, h ∈ (Cycle.nil : Cycle HalfedgeId) ↔ m.origin? h = some n := fun h =>
      iff_of_false (Cycle.notMem_nil h) fun start => occupied ⟨h, start⟩
    exact ⟨.nil, ⟨Cycle.nodup_nil, Cycle.Chain.nil _⟩, none⟩

/-- Where edges join different nodes, intact records are sound. -/
theorem sound (straight : m.Straight) : m.Sound where
  origin_live h n start := by
    rcases Option.map_eq_some_iff.1 start with ⟨record, found, rfl⟩
    exact (intact.fits h record found).origin_live
  ends_ne h n start finish :=
    straight h n (origin_eq_ok_iff.2 start) (target_eq_ok_iff.2 finish)
  exists_ring := intact.exists_ring
  isolated n record found isolated h start := by
    rcases intact.covered h n start with ⟨r, ⟨record', found', chosen⟩, -⟩
    cases found.symm.trans found'
    rw [isolated] at chosen
    cases chosen
  representative n record r found chosen := intact.represented n r ⟨record, found, chosen⟩
  face_live _ _ := intact.face_live
  triangle f record found := by
    rcases intact.exists_circuit found with ⟨t, first, circuit⟩
    have sides := circuit.faceHalfedges found first
    exact ⟨t, first, intact.triangle_of_loop straight sides circuit⟩

/-! ## Faces with a single side -/

/-- With a new face that only one half-edge reports, there are too few half-edges that report a
face. -/
theorem not_intact_of_single_side {m' : Mesh} {h : HalfedgeId} {f : FaceId} (free : m.Free h)
    (reports : ∀ x, m'.faceOf? x = if x = h then some (some f) else m.faceOf? x)
    (more : m'.faceCount = m.faceCount + 1) : ¬ m'.Intact := by
  intro intact'
  have new : h ∉ m.facedSides := by
    rw [mem_facedSides]
    rintro ⟨g, reported⟩
    cases reported.symm.trans free
  have sides : m'.facedSides = insert h m.facedSides := by
    ext x
    simp only [mem_facedSides, Finset.mem_insert, reports]
    by_cases same : x = h <;> simp [same]
  have total := intact'.card_facedSides
  rw [sides, Finset.card_insert_of_notMem new, intact.card_facedSides, more] at total
  omega

end Intact

end Mesh

namespace Edit

open Mesh

variable {α β : Type} {s : Session}

/-! ## Edits step by step -/

theorem bind_of_ok {edit : Edit α} {next : α → Edit β} {a : α} {t : Session}
    (ended : edit s = .ok a t) : (edit >>= next) s = next a t := by
  rw [bind_apply, ended]

theorem bind_of_broken {edit : Edit α} {next : α → Edit β} {kind : CheckedEdit} {error : MeshError}
    {t : Session} (ended : edit s = .error (.broken kind error) t) :
    (edit >>= next) s = .error (.broken kind error) t := by
  rw [bind_apply, ended]

theorem checkAfter_of_intact (kind : CheckedEdit) (intact : s.mesh.Intact) :
    checkAfter kind s = .ok () s := by
  have passes : s.mesh.checkInvariants = .ok () := checkTopology_tells.eq_ok_iff.2 intact
  rw [checkAfter_apply, passes]

theorem checkAfter_of_not_intact (kind : CheckedEdit) (damaged : ¬ s.mesh.Intact) :
    ∃ error, checkAfter kind s = .error (.broken kind error) s := by
  cases checked : s.mesh.checkInvariants with
  | ok _ => exact absurd (checkTopology_tells.eq_ok_iff.1 checked) damaged
  | error error => exact ⟨error, by rw [checkAfter_apply, checked]⟩

/-! ## Removing a face -/

/-- Removing a face frees the half-edges on its loop, and then looks whether this broke
something. -/
theorem removeFace_apply {f : FaceId} {record : Face} {t : Corners HalfedgeId}
    (intact : s.mesh.Intact) (found : s.mesh.face? f = some record) (first : t.a = record.halfedge)
    (circuit : s.mesh.Circuit f t) : ∃ journal,
      removeFace f s = checkAfter .removeFace ⟨s.mesh.dropTriangle f t, journal⟩ := by
  have live : ∀ h ∈ t.toList, s.mesh.containsHalfedge h = true := fun h mem =>
    containsHalfedge_iff_faceOf?.2 ⟨_, circuit.reports h mem⟩
  unfold removeFace
  rw [bind_of_ok (query_face found), ← first, bind_of_ok (query_next circuit.next_a),
    bind_of_ok (query_prev (intact.prev?_of_next? circuit.next_c)),
    bind_of_ok (setFace_of_live (live t.a (by simp))),
    bind_of_ok (setFace_of_live (by simpa using live t.b (by simp))),
    bind_of_ok (setFace_of_live (by simpa using live t.c (by simp))),
    bind_of_ok (dropFace_apply f _), bind_of_ok (record_apply _ _)]
  exact ⟨_, rfl⟩

/-! ## A face with one half-edge for all sides -/

theorem requireFree_of_free {h : HalfedgeId} (free : s.mesh.Free h) :
    requireFree h s = .ok () s := by
  rw [requireFree, bind_of_ok (query_isBoundary free)]
  rfl

theorem requireChained_of_origin {h g : HalfedgeId} {n : NodeId}
    (finish : s.mesh.origin? h.pair = some n) (start : s.mesh.origin? g = some n) :
    requireChained h g s = .ok () s := by
  rw [requireChained, bind_of_ok (query_target finish), bind_of_ok (query_origin start), if_pos rfl]
  rfl

theorem mergeCorner_of_next {h g : HalfedgeId} (next : s.mesh.next? h = some g) :
    mergeCorner h g s = .ok () s := by
  have merged : mergeAdjacent h g s = .ok () s := by
    rw [mergeAdjacent, bind_of_ok (query_next next), if_pos rfl]
    rfl
  rw [mergeCorner, onRefusal_apply, merged]

section SelfLoop

variable {h : HalfedgeId} {n : NodeId} (intact : s.mesh.Intact)
  (start : s.mesh.origin? h = some n) (finish : s.mesh.origin? h.pair = some n)
  (free : s.mesh.Free h) (freePair : s.mesh.Free h.pair)

include start freePair

theorem freeBetween_self : s.mesh.freeBetween h.pair h = .ok h.pair := by
  rw [freeBetween_eq_iff (by simpa using start)]
  exact .free .start (isBoundary_of_free freePair)

include intact finish

theorem mergeAdjacent_self {b d g : HalfedgeId} (next : s.mesh.next? h = some b)
    (prev : s.mesh.prev? h = some d) (nextPair : s.mesh.next? h.pair = some g) (apart : b ≠ h) :
    ∃ journal, mergeAdjacent h h s =
      .ok () ⟨((s.mesh.link h h).link h.pair b).link d g, journal⟩ := by
  have live := containsHalfedge_of_origin? start
  have livePair := containsHalfedge_of_origin? finish
  have bLive := containsHalfedge_iff_prev?.2 ⟨h, intact.prev?_of_next? next⟩
  have dLive := containsHalfedge_iff_next?.2 ⟨h, intact.next?_of_prev? prev⟩
  have gLive := containsHalfedge_iff_prev?.2 ⟨h.pair, intact.prev?_of_next? nextPair⟩
  unfold mergeAdjacent
  rw [bind_of_ok (query_next next), if_neg apart, bind_of_ok (query_prev prev),
    bind_of_ok (query_of_ok (freeBetween_self start freePair)), bind_of_ok (query_next nextPair),
    bind_of_ok (link_of_live live live),
    bind_of_ok (link_of_live (by simpa using live) (by simpa using bLive)),
    bind_of_ok (link_of_live (by simpa using dLive) (by simpa using gLive))]
  exact ⟨_, rfl⟩

/-- A half-edge of an edge that joins a node with itself can be made to follow itself. -/
theorem mergeCorner_self : ∃ t, mergeCorner h h s = .ok () t ∧ t.mesh.next? h = some h ∧
    (∀ x, t.mesh.faceOf? x = s.mesh.faceOf? x) ∧ t.mesh.faces = s.mesh.faces ∧
    ∀ x, t.mesh.origin? x = s.mesh.origin? x := by
  have live := containsHalfedge_of_origin? start
  rcases containsHalfedge_iff_next?.1 live with ⟨b, next⟩
  by_cases done : b = h
  · rw [done] at next
    exact ⟨s, mergeCorner_of_next next, next, fun _ => rfl, rfl, fun _ => rfl⟩
  rcases containsHalfedge_iff_prev?.1 live with ⟨d, prev⟩
  rcases containsHalfedge_iff_next?.1 (containsHalfedge_of_origin? finish) with ⟨g, nextPair⟩
  have apart : h ≠ d := by
    rintro rfl
    exact done (Option.some.inj (next.symm.trans (intact.next?_of_prev? prev)))
  rcases mergeAdjacent_self intact start finish freePair next prev nextPair done with
    ⟨journal, merged⟩
  have follows : (((s.mesh.link h h).link h.pair b).link d g).next? h = some h := by
    simp only [next?_link, if_neg apart, if_neg h.pair_ne.symm, next, if_true, Option.map_some]
  have ended : mergeCorner h h s =
      .ok () ⟨((s.mesh.link h h).link h.pair b).link d g, journal⟩ := by
    rw [mergeCorner, onRefusal_apply, merged]
  exact ⟨_, ended, follows, by simp, by simp, by simp⟩

include free

/-- The face is added on one half-edge, and then it is looked whether this broke something. -/
theorem addFace_self : ∃ (t : Session) (journal : Array JournalEntry), addFace h h h s =
      (checkAfter .addFace >>= fun _ => pure t.mesh.faces.nextKey)
        ⟨t.mesh.raiseTriangle ⟨h, h, h⟩, journal⟩ ∧
    t.mesh.containsHalfedge h = true ∧ (∀ x, t.mesh.faceOf? x = s.mesh.faceOf? x) ∧
    t.mesh.faces = s.mesh.faces := by
  rcases mergeCorner_self intact start finish freePair with
    ⟨t, merged, next, faceOf?, faces, origin?⟩
  have live : t.mesh.containsHalfedge h = true :=
    containsHalfedge_of_origin? ((origin? h).trans start)
  have freely := requireFree_of_free free
  have chained := requireChained_of_origin finish start
  have joined := mergeCorner_of_next next
  unfold addFace
  rw [bind_of_ok freely, bind_of_ok freely, bind_of_ok freely, bind_of_ok chained,
    bind_of_ok chained, bind_of_ok chained, bind_of_ok merged, bind_of_ok joined,
    bind_of_ok joined, bind_of_ok (insertFace_withFaces _ _),
    bind_of_ok (setFace_of_live (by simpa using live)),
    bind_of_ok (setFace_of_live (by simpa using live)),
    bind_of_ok (setFace_of_live (by simpa using live)), bind_of_ok (record_apply _ _)]
  exact ⟨t, _, rfl, live, faceOf?, faces⟩

/-- A half-edge that is used for all three sides of a new face breaks an invariant: afterwards there
is one more half-edge that reports a face, not three. -/
theorem addFace_self_broken : ∃ error t, addFace h h h s = .error (.broken .addFace error) t := by
  rcases addFace_self intact start finish free freePair with
    ⟨t, journal, ended, live, faceOf?, faces⟩
  have reports (x : HalfedgeId) : (t.mesh.raiseTriangle ⟨h, h, h⟩).faceOf? x =
      if x = h then some (some t.mesh.faces.nextKey) else s.mesh.faceOf? x := by
    rw [raiseTriangle, faceOf?_reportAll _ (by simpa using live), faceOf?_withFaces, faceOf?]
    simp
  have more : (t.mesh.raiseTriangle ⟨h, h, h⟩).faceCount = s.mesh.faceCount + 1 := by
    rw [faceCount, faceCount, ← faces]
    exact t.mesh.faces.size_insert _
  have damaged := intact.not_intact_of_single_side free reports more
  obtain ⟨error, broken⟩ :=
    checkAfter_of_not_intact (s := ⟨t.mesh.raiseTriangle ⟨h, h, h⟩, journal⟩) .addFace damaged
  exact ⟨error, _, ended.trans (bind_of_broken broken)⟩

end SelfLoop

end Edit

namespace Mesh

variable {m : Mesh}

/-! ## Runs that break an invariant -/

/-- Some sequence of operations ends in a broken invariant. -/
def Breakable (m : Mesh) : Prop :=
  ∃ operations operation kind error,
    (Operation.outcome operation (m.run operations)).1 = .error (.broken kind error)

theorem Breakable.of_run {m' : Mesh} {operations : List Operation}
    (ran : m.run operations = m') (breakable : m'.Breakable) : m.Breakable := by
  rcases breakable with ⟨later, operation, kind, error, broken⟩
  exact ⟨operations ++ later, operation, kind, error, by rwa [run_append, ran]⟩

namespace Intact

variable (intact : m.Intact)

include intact

/-- Removing the face that a half-edge reports breaks an invariant, or it frees the half-edge. -/
theorem removeFace_breaks_or_frees {h : HalfedgeId} {f : FaceId}
    (reports : m.faceOf? h = some (some f)) : m.Breakable ∨
      ∃ m', m.run [.removeFace f] = m' ∧ m'.Intact ∧ m'.Free h ∧
        (∀ x, m'.origin? x = m.origin? x) ∧ ∀ x, m.Free x → m'.Free x := by
  rcases Option.isSome_iff_exists.1 (intact.face_live reports) with ⟨record, found⟩
  rcases intact.exists_circuit found with ⟨t, first, circuit⟩
  have live : ∀ x ∈ t.toList, m.containsHalfedge x = true := fun x mem =>
    containsHalfedge_iff_faceOf?.2 ⟨_, circuit.reports x mem⟩
  obtain ⟨journal, ended⟩ :=
    Edit.removeFace_apply (s := Session.on m) intact found first circuit
  have faceOf? (x : HalfedgeId) : (m.dropTriangle f t).faceOf? x =
      if x ∈ t.toList then some none else m.faceOf? x := by
    rw [dropTriangle, faceOf?_withFaces, faceOf?_reportAll none live]
  by_cases still : (m.dropTriangle f t).Intact
  · right
    have passed := Edit.checkAfter_of_intact (s := ⟨m.dropTriangle f t, journal⟩) .removeFace still
    have removed : m.run [.removeFace f] = m.dropTriangle f t := by
      rw [run_cons, run_nil, Operation.result, Operation.outcome, Operation.edit,
        Edit.bind_of_ok (ended.trans passed)]
      rfl
    have freed : (m.dropTriangle f t).Free h := by
      rw [Free, faceOf?]
      by_cases mem : h ∈ t.toList
      · rw [if_pos mem]
      · -- A stray would still report the face, which is gone.
        have stale : (m.dropTriangle f t).faceOf? h = some (some f) := by
          rw [faceOf?, if_neg mem, reports]
        have gone := still.face_live stale
        simp [containsFace, face?, dropTriangle, SlotStore.get?_erase] at gone
    have kept : ∀ x, m.Free x → (m.dropTriangle f t).Free x := by
      intro x free
      rw [Free, faceOf?]
      split
      · rfl
      · exact free
    exact ⟨_, removed, still, freed, by simp [dropTriangle, reportAll], kept⟩
  · left
    obtain ⟨error, broken⟩ :=
      Edit.checkAfter_of_not_intact (s := ⟨m.dropTriangle f t, journal⟩) .removeFace still
    refine ⟨[], .removeFace f, .removeFace, error, ?_⟩
    rw [run_nil, Operation.outcome, Operation.edit, Edit.bind_of_broken (ended.trans broken)]

/-- A half-edge can be freed of its face, or else some edit breaks an invariant. -/
theorem exists_clear {h : HalfedgeId} (live : m.containsHalfedge h = true) : m.Breakable ∨
    ∃ operations m', m.run operations = m' ∧ m'.Intact ∧ m'.Free h ∧
      (∀ x, m'.origin? x = m.origin? x) ∧ ∀ x, m.Free x → m'.Free x := by
  rcases containsHalfedge_iff_faceOf?.1 live with ⟨face, reports⟩
  cases face with
  | none => exact .inr ⟨[], m, rfl, intact, reports, fun _ => rfl, fun _ => id⟩
  | some f => exact (intact.removeFace_breaks_or_frees reports).imp id fun cleared => ⟨_, cleared⟩

/-- Where an edge joins a node with itself, some edit breaks an invariant. -/
theorem breakable {h : HalfedgeId} {n : NodeId} (start : m.origin? h = some n)
    (finish : m.origin? h.pair = some n) : m.Breakable := by
  rcases intact.exists_clear (containsHalfedge_of_origin? start) with
    broken | ⟨first, m₁, ran₁, intact₁, free₁, origin₁, -⟩
  · exact broken
  have livePair := containsHalfedge_of_origin? ((origin₁ h.pair).trans finish)
  rcases intact₁.exists_clear livePair with
    broken | ⟨second, m₂, ran₂, intact₂, freePair, origin₂, kept⟩
  · exact broken.of_run ran₁
  have start₂ := (origin₂ h).trans ((origin₁ h).trans start)
  have finish₂ := (origin₂ h.pair).trans ((origin₁ h.pair).trans finish)
  obtain ⟨error, t, broken⟩ := Edit.addFace_self_broken (s := Session.on m₂) intact₂ start₂ finish₂
    (kept h free₁) freePair
  have breakable₂ : m₂.Breakable := by
    refine ⟨[], .addFace h h h, .addFace, error, ?_⟩
    rw [run_nil, Operation.outcome, Operation.edit, Edit.bind_of_broken broken]
  exact (breakable₂.of_run ran₂).of_run ran₁

end Intact

/-! ## Loaded meshes -/

/-- On a loaded mesh, whatever the snapshot was: no sequence of operations breaks an invariant, and
each leaves a mesh that passes the checks, if and only if no edge joins a node with itself. -/
theorem safe_iff_of_load {document : Document} {m : Mesh} (loaded : load document = .ok m) :
    (∀ operations (operation : Operation),
      (∀ kind error, (operation.outcome (m.run operations)).1 ≠ .error (.broken kind error)) ∧
        (operation.result (m.run operations)).checkTopology {} = .ok ()) ↔ m.Straight := by
  have intact : m.Intact := by
    unfold load at loaded
    split at loaded
    · cases loaded
    · split at loaded
      · next passes =>
        cases loaded
        exact checkTopology_tells.eq_ok_iff.1 passes
      · cases loaded
  constructor
  · intro safe h n start finish
    rw [origin_eq_ok_iff] at start
    rw [target_eq_ok_iff] at finish
    rcases intact.breakable start finish with ⟨operations, operation, kind, error, broken⟩
    exact (safe operations operation).1 kind error broken
  · intro straight operations operation
    have sound := (intact.sound straight).run operations
    exact ⟨operation.outcome_ne_broken sound, (operation.sound_result sound).checkInvariants⟩

/-- A loaded triangle is safe. -/
theorem safe_pane :
    load pane.save = .ok pane ∧ pane.Straight ∧
      ∀ operations (operation : Operation),
        (∀ kind error, (operation.outcome (pane.run operations)).1 ≠ .error (.broken kind error)) ∧
          (operation.result (pane.run operations)).checkTopology {} = .ok () := by
  have loaded : load pane.save = .ok pane := rfl
  have straight : pane.Straight := by decide +kernel
  exact ⟨loaded, straight, (safe_iff_of_load loaded).2 straight⟩

/-- The snare is loaded, and removing its face breaks an invariant: the strays still report it. -/
theorem snare_breaks :
    load snare.save = .ok snare ∧
      ((Operation.removeFace ⟨1, 0⟩).outcome snare).1 =
        .error (.broken .removeFace (.invariantViolation
          (.faceDead (Key.first ⟨2, 0⟩) ⟨1, 0⟩))) :=
  ⟨load_snare, rfl⟩

end Mesh

end PlanarMesh
