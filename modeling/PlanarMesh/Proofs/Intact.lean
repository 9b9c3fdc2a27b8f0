import PlanarMesh.Proofs.Validity
import Mathlib.Data.Set.Card

/-!
# What the checks decide

The checks of the structure pass exactly on intact meshes, whatever the records contain, and
otherwise they report a violated invariant and nothing else (`checkTopology_tells`).

A mesh is `Intact` when the pointers at every half-edge fit, representatives and faces name
half-edges of their own, every half-edge can be reached around its node from the representative, and
no half-edge reports a face without being one of its three sides.  The checks do not look for
half-edges that cannot be reached: they walk around every node once and count.  Where the pointers
fit, a walk around a node always returns, because no two half-edges have the same one after them
(`exists_orbit`), and walks around different nodes do not meet.  Hence the walks pass as many
half-edges as there are if and only if they pass all of them.
-/

namespace PlanarMesh

/-! ## Computations that report violations -/

/-- The computation answers as described if there is such an answer, and reports a violated
invariant if there is none. -/
inductive Tells {α : Type} (answers : α → Prop) : Except MeshError α → Prop
  | answer {x : α} : answers x → Tells answers (.ok x)
  | violation {cause : Violation} : (∀ x, ¬ answers x) → Tells answers (violated cause)

namespace Tells

variable {α β : Type} {answers : α → Prop} {results : β → Prop} {P Q : Prop}

theorem congr {answers' : α → Prop} {check : Except MeshError α} (tells : Tells answers check)
    (same : ∀ x, answers x ↔ answers' x) : Tells answers' check := by
  have equal : answers = answers' := funext fun x => propext (same x)
  exact equal ▸ tells

/-- A check in two stages, the second of which may rely on the answer of the first. -/
theorem bind {first : Except MeshError α} {second : α → Except MeshError β}
    (tells : Tells answers first) (rest : ∀ x, answers x → Tells results (second x))
    (needed : ∀ y, results y → ∃ x, answers x) : Tells results (first >>= second) := by
  cases tells with
  | answer right => exact rest _ right
  | violation none =>
    apply violation
    intro y right
    rcases needed y right with ⟨x, here⟩
    exact none x here

/-- A stage that is known to succeed. -/
theorem of_ok {first : Except MeshError α} {second : α → Except MeshError β} {x : α}
    (succeeds : first = .ok x) (rest : Tells results (second x)) :
    Tells results (first >>= second) := by
  rw [succeeds]
  exact rest

/-- Two checks, the second of which may rely on what the first has found. -/
theorem andThen {first second : Except MeshError Unit} (tells : Tells (fun _ => P) first)
    (rest : P → Tells (fun _ => Q) second) :
    Tells (fun _ => P ∧ Q) (first >>= fun _ => second) := by
  apply tells.bind
  · intro _ holds
    exact (rest holds).congr fun _ => by simp [holds]
  · intro _ both
    exact ⟨(), both.1⟩

theorem require (condition : Bool) (cause : Violation) :
    Tells (fun _ => condition = true) (require condition cause) := by
  cases condition with
  | true => exact answer rfl
  | false => exact violation fun _ => Bool.false_ne_true

theorem forM {check : α → Except MeshError Unit} {holds : α → Prop} {l : List α}
    (tells : ∀ x ∈ l, Tells (fun _ => holds x) (check x)) :
    Tells (fun _ => ∀ x ∈ l, holds x) (l.forM check) := by
  induction l with
  | nil => exact answer (by simp)
  | cons x l inductionHypothesis =>
    have rest := inductionHypothesis fun y mem => tells y (List.mem_cons_of_mem x mem)
    exact ((tells x List.mem_cons_self).andThen fun _ => rest).congr fun _ => by simp

theorem eq_ok_iff {check : Except MeshError Unit} (tells : Tells (fun _ => P) check) :
    check = .ok () ↔ P := by
  cases tells with
  | answer holds => simp [holds]
  | violation fails => simpa [violated] using fails ()

theorem eq_violation {check : Except MeshError α} (tells : Tells answers check) {error : MeshError}
    (refuses : check = .error error) : ∃ cause, error = .invariantViolation cause := by
  cases tells with
  | answer right => cases refuses
  | violation none =>
    cases refuses
    exact ⟨_, rfl⟩

end Tells

namespace Mesh

/-! ## Intact meshes -/

/-- The half-edge that represents the node. -/
def Represents (m : Mesh) (n : NodeId) (r : HalfedgeId) : Prop :=
  ∃ record, m.node? n = some record ∧ record.halfedge = some r

/-- The pointers at the half-edge are live and fit. -/
structure PointersFit (m : Mesh) (h : HalfedgeId) (record : Halfedge) : Prop where
  origin_live : m.containsNode record.origin = true
  next_live : m.containsHalfedge record.next = true
  prev_live : m.containsHalfedge record.prev = true
  next_of_prev : m.next? record.prev = some h
  prev_of_next : m.prev? record.next = some h
  next_starts : m.origin? record.next = m.origin? h.pair
  face_live : ∀ f, record.face = some f → m.containsFace f = true

/-- The half-edge `h` comes after some steps around the node at which `r` starts. -/
def Around (m : Mesh) (r h : HalfedgeId) : Prop :=
  Relation.ReflTransGen (fun g g' => m.around? g = some g') r h

/-- The half-edge `h` comes after some steps around the node `n`, from its representative on. -/
def Reaches (m : Mesh) (n : NodeId) (h : HalfedgeId) : Prop :=
  ∃ r, m.Represents n r ∧ m.Around r h

/-- Three steps from `h₁` on stay on half-edges that report the face, and lead back. -/
def Encloses (m : Mesh) (f : FaceId) (h₁ : HalfedgeId) : Prop :=
  ∃ h₂ h₃, m.faceOf? h₁ = some (some f) ∧ m.next? h₁ = some h₂ ∧ m.faceOf? h₂ = some (some f) ∧
    m.next? h₂ = some h₃ ∧ m.faceOf? h₃ = some (some f) ∧ m.next? h₃ = some h₁

/-- The records fit together as half-edges of a triangulated surface. -/
structure Intact (m : Mesh) : Prop where
  represented : ∀ n r, m.Represents n r → m.origin? r = some n
  fits : ∀ h record, m.halfedge? h = some record → m.PointersFit h record
  covered : ∀ h n, m.origin? h = some n → m.Reaches n h
  enclosed : ∀ f record, m.face? f = some record → m.Encloses f record.halfedge
  faced : {h | ∃ f, m.faceOf? h = some (some f)}.ncard = 3 * m.faceCount

variable {m : Mesh}

/-! ## Single pointers -/

theorem checkRepresentative_tells {n : NodeId} (live : m.containsNode n = true) :
    Tells (fun _ => ∀ r, m.Represents n r → m.origin? r = some n) (m.checkRepresentative n) := by
  rcases Option.isSome_iff_exists.1 live with ⟨record, found⟩
  apply Tells.of_ok (node_eq_ok_iff.2 found)
  cases chosen : record.halfedge with
  | none => exact .answer (by simp [Represents, found, chosen])
  | some r =>
    dsimp only
    cases resolved : m.halfedge? r with
    | none =>
      apply Tells.violation
      simp [Represents, found, chosen, origin?, resolved]
    | some halfedge =>
      exact (Tells.require _ _).congr (by simp [Represents, found, chosen, origin?, resolved])

theorem checkHalfedge_tells {h : HalfedgeId} {record : Halfedge}
    (found : m.halfedge? h = some record) :
    Tells (fun _ => m.PointersFit h record) (m.checkHalfedge h) := by
  have twinLive : m.containsHalfedge h.pair = true := by
    rw [containsHalfedge_pair]
    exact Option.isSome_iff_exists.2 ⟨record, found⟩
  apply Tells.of_ok (halfedge_eq_ok_iff.2 found)
  apply (Tells.require _ _).bind _ fun _ fits => ⟨(), fits.origin_live⟩
  intro _ originLive
  apply (Tells.require _ _).bind _ fun _ fits => ⟨(), fits.next_live⟩
  intro _ nextLive
  apply (Tells.require _ _).bind _ fun _ fits => ⟨(), fits.prev_live⟩
  intro _ prevLive
  rcases containsHalfedge_iff_next?.1 prevLive with ⟨after, next⟩
  rcases containsHalfedge_iff_prev?.1 nextLive with ⟨before, prev⟩
  rcases containsHalfedge_iff_origin?.1 nextLive with ⟨n, start⟩
  rcases containsHalfedge_iff_origin?.1 twinLive with ⟨n', finish⟩
  apply Tells.of_ok (next_eq_ok_iff.2 next)
  apply (Tells.require _ _).bind _ fun _ fits =>
    ⟨(), decide_eq_true (Option.some.inj (next.symm.trans fits.next_of_prev))⟩
  intro _ forth
  apply Tells.of_ok (prev_eq_ok_iff.2 prev)
  apply (Tells.require _ _).bind _ fun _ fits =>
    ⟨(), decide_eq_true (Option.some.inj (prev.symm.trans fits.prev_of_next))⟩
  intro _ back
  apply Tells.of_ok (origin_eq_ok_iff.2 start)
  apply Tells.of_ok (origin_eq_ok_iff.2 finish)
  apply (Tells.require _ _).bind _ fun _ fits =>
    ⟨(), decide_eq_true (Option.some.inj
      (start.symm.trans (fits.next_starts.trans finish)))⟩
  intro _ starts
  rw [decide_eq_true_eq] at forth back starts
  rw [forth] at next
  rw [back] at prev
  rw [starts] at start
  have fits (faceLive : ∀ f, record.face = some f → m.containsFace f = true) :
      m.PointersFit h record :=
    ⟨originLive, nextLive, prevLive, next, prev, start.trans finish.symm, faceLive⟩
  cases reported : record.face with
  | none => exact .answer (fits (by simp [reported]))
  | some f => exact (Tells.require _ _).congr fun _ =>
      ⟨fun live => fits (by simp [reported, live]), fun fits => fits.face_live f reported⟩

/-! ## Around nodes -/

section Cycles

variable (fits : ∀ h record, m.halfedge? h = some record → m.PointersFit h record)

include fits

theorem exists_follows_of_fits {h : HalfedgeId} (live : m.containsHalfedge h = true) :
    ∃ g, m.Follows h g ∧ m.origin? g = m.origin? h := by
  rw [← containsHalfedge_pair] at live
  rcases Option.isSome_iff_exists.1 live with ⟨record, found⟩
  have pointers := fits h.pair record found
  refine ⟨record.next, ⟨by simp [next?, found], pointers.prev_of_next⟩, ?_⟩
  rw [pointers.next_starts, HalfedgeId.pair_pair]

theorem follows_of_around? {g h : HalfedgeId} (next : m.around? g = some h) : m.Follows g h := by
  have live : m.containsHalfedge g = true := by
    rw [← containsHalfedge_pair]
    exact containsHalfedge_iff_next?.2 ⟨h, next⟩
  rcases exists_follows_of_fits fits live with ⟨h', follows, -⟩
  cases follows.1.symm.trans next
  exact follows

/-- A walk around a node returns, because no two half-edges have the same one after them. -/
theorem exists_orbit {r : HalfedgeId} (live : m.containsHalfedge r = true) :
    ∃ ring, m.Orbit ring ∧ ∀ h, h ∈ ring ↔ m.Around r h := by
  have finite : {h | m.containsHalfedge h = true}.Finite :=
    m.halfedgeIds.finite_toSet.subset fun h live => mem_halfedgeIds.2 live
  have stays : ∀ h ∈ {h | m.containsHalfedge h = true},
      ∃ g ∈ {h | m.containsHalfedge h = true}, m.around? h = some g := by
    intro h live
    rcases exists_follows_of_fits fits live with ⟨g, follows, -⟩
    exact ⟨g, follows.live_right, follows.1⟩
  have injective : ∀ g h x, m.around? g = some x → m.around? h = some x → g = h :=
    fun _ _ _ first second =>
      (follows_of_around? fits first).left_unique (follows_of_around? fits second)
  rcases Cycle.exists_of_injective finite stays injective live with ⟨ring, nodup, chain, mem_iff⟩
  have follows : ring.Chain m.Follows :=
    Cycle.chain_of_adjacent fun _ _ adjacent => follows_of_around? fits (chain.rel adjacent)
  exact ⟨ring, ⟨nodup, follows⟩, mem_iff⟩

theorem Around.origin? {r h : HalfedgeId} {n : NodeId} (around : m.Around r h)
    (start : m.origin? r = some n) : m.origin? h = some n := by
  induction around with
  | refl => exact start
  | tail _ next here =>
    rcases exists_follows_of_fits fits (containsHalfedge_of_origin? here) with ⟨g, follows, same⟩
    cases follows.1.symm.trans next
    rw [same, here]

variable (represented : ∀ n r, m.Represents n r → m.origin? r = some n)

include represented

/-- The walk around a node returns, and passes the half-edges that come after the representative. -/
theorem exists_cycle {n : NodeId} (live : m.containsNode n = true) : ∃ l : List HalfedgeId,
    l.Nodup ∧ (∀ h, h ∈ l ↔ m.Reaches n h) ∧ m.checkIncidenceCycle n = .ok l.length := by
  rcases Option.isSome_iff_exists.1 live with ⟨record, found⟩
  simp only [checkIncidenceCycle, node_eq_ok_iff.2 found, bind, Except.bind]
  cases chosen : record.halfedge with
  | none =>
    refine ⟨[], List.nodup_nil, ?_, rfl⟩
    simp [Reaches, Represents, found, chosen]
  | some r =>
    have represents (r' : HalfedgeId) : m.Represents n r' ↔ r' = r := by
      simp [Represents, found, chosen, eq_comm]
    have start := represented n r ((represents r).2 rfl)
    rcases exists_orbit fits (containsHalfedge_of_origin? start) with ⟨ring, orbit, mem_iff⟩
    rcases Cycle.exists_coe_cons ((mem_iff r).2 .refl) with ⟨l, rfl⟩
    rcases Cycle.chain_coe_iff.1 orbit.chain with ⟨chain, closes⟩
    have starts : ∀ g ∈ r :: l, m.origin? g = some n := fun g mem =>
      ((mem_iff g).1 mem).origin? fits start
    have enough : l.length < m.halfedgeCount + 1 := by
      have bound := orbit.length_le
      rw [List.length_cons] at bound
      omega
    refine ⟨r :: l, orbit.nodup, fun h => ?_, ?_⟩
    · rw [← Cycle.mem_coe_iff, mem_iff]
      simp only [Reaches, represents, exists_eq_left]
    · exact cycleLength_eq starts chain (fun g last => closes g last r rfl)
        (List.nodup_cons.1 orbit.nodup).1 enough

/-- The walks around all nodes pass as many half-edges as there are if and only if they pass all of
them, because they pass none twice. -/
theorem checkIncidenceCycles_tells :
    Tells (fun _ => ∀ h n, m.origin? h = some n → m.Reaches n h) m.checkIncidenceCycles := by
  have cycles : ∀ n ∈ m.nodeIds, ∃ l : List HalfedgeId, l.Nodup ∧ (∀ h, h ∈ l ↔ m.Reaches n h) ∧
      m.checkIncidenceCycle n = .ok l.length := fun n listed =>
    exists_cycle fits represented (mem_nodeIds.1 listed)
  choose! cycle nodup mem_iff counts using cycles
  let passed := m.nodeIds.flatMap cycle
  have starts {n h} (listed : n ∈ m.nodeIds) (mem : h ∈ cycle n) : m.origin? h = some n := by
    rcases (mem_iff n listed h).1 mem with ⟨r, represents, around⟩
    exact around.origin? fits (represented n r represents)
  have once : passed.Nodup := by
    refine List.nodup_flatMap.2 ⟨nodup, m.nodes.nodup_keys.imp_of_mem ?_⟩
    intro n n' listed listed' other h mem mem'
    exact other (Option.some.inj ((starts listed mem).symm.trans (starts listed' mem')))
  have live : passed ⊆ m.halfedgeIds := by
    intro h mem
    rcases List.mem_flatMap.1 mem with ⟨n, listed, mem⟩
    exact mem_halfedgeIds.2 (containsHalfedge_of_origin? (starts listed mem))
  have within := once.subperm live
  have total : (m.nodeIds.map fun n => (cycle n).length).sum = passed.length :=
    List.length_flatMap.symm
  apply Tells.of_ok (mapM_eq_ok counts)
  apply (Tells.require _ _).congr
  intro _
  rw [decide_eq_true_eq, ← List.sum_eq_foldl, total, ← length_halfedgeIds]
  constructor
  · intro all h n start
    have listed := mem_halfedgeIds.2 (containsHalfedge_of_origin? start)
    rw [← (within.perm_of_length_le all.ge).mem_iff] at listed
    rcases List.mem_flatMap.1 listed with ⟨n', listed', mem⟩
    cases (starts listed' mem).symm.trans start
    exact (mem_iff n listed' h).1 mem
  · intro covered
    have complete : m.halfedgeIds ⊆ passed := by
      intro h listed
      rcases Option.isSome_iff_exists.1 (mem_halfedgeIds.1 listed) with ⟨record, found⟩
      have start : m.origin? h = some record.origin := by simp [origin?, found]
      have listed' := mem_nodeIds.2 (fits h record found).origin_live
      exact List.mem_flatMap.2 ⟨_, listed', (mem_iff _ listed' h).2 (covered h _ start)⟩
    exact within.length_le.antisymm (m.nodup_halfedgeIds.subperm complete).length_le

end Cycles

/-! ## Around faces -/

theorem checkFaceStep_tells (f : FaceId) (step : Nat) (h : HalfedgeId) :
    Tells (fun g => m.faceOf? h = some (some f) ∧ m.next? h = some g)
      (m.checkFaceStep f step h) := by
  unfold checkFaceStep
  cases found : m.halfedge? h with
  | none => exact .violation (by simp [faceOf?, found])
  | some record =>
    apply (Tells.require _ _).bind
    · intro _ reports
      exact .answer (by simpa [faceOf?, next?, found] using reports)
    · intro g step
      simpa [faceOf?, found] using step.1

theorem checkFaceLoop_tells {f : FaceId} {record : Face} (found : m.face? f = some record) :
    Tells (fun _ => m.Encloses f record.halfedge) (m.checkFaceLoop f) := by
  apply Tells.of_ok (face_eq_ok_iff.2 found)
  apply (checkFaceStep_tells f 0 record.halfedge).bind
  · rintro h₂ ⟨reports₁, next₁⟩
    apply (checkFaceStep_tells f 1 h₂).bind
    · rintro h₃ ⟨reports₂, next₂⟩
      apply (checkFaceStep_tells f 2 h₃).bind
      · rintro back ⟨reports₃, next₃⟩
        apply (Tells.require _ _).congr
        intro _
        simp [Encloses, reports₁, next₁, reports₂, next₂, reports₃, next₃]
      · rintro _ ⟨h₂', h₃', -, next₁', -, next₂', reports₃, next₃⟩
        cases next₁.symm.trans next₁'
        cases next₂.symm.trans next₂'
        exact ⟨record.halfedge, reports₃, next₃⟩
    · rintro _ ⟨h₂', h₃, -, next₁', reports₂, next₂, -⟩
      cases next₁.symm.trans next₁'
      exact ⟨h₃, reports₂, next₂⟩
  · rintro _ ⟨h₂, h₃, reports₁, next₁, -⟩
    exact ⟨h₂, reports₁, next₁⟩

theorem facedCount_eq_ncard :
    m.facedCount = {h | ∃ f, m.faceOf? h = some (some f)}.ncard := by
  let reports (h : HalfedgeId) : Bool :=
    (m.halfedge? h).any fun record => record.face.isSome
  have listed : {h | ∃ f, m.faceOf? h = some (some f)} =
      ((m.halfedgeIds.filter reports).toFinset : Set HalfedgeId) := by
    ext h
    rw [List.coe_toFinset]
    cases found : m.halfedge? h with
    | none => simp [reports, faceOf?, found]
    | some record =>
      simp [reports, faceOf?, found, Option.isSome_iff_exists, mem_halfedgeIds, containsHalfedge]
  rw [listed, Set.ncard_coe_finset, List.toFinset_card_of_nodup (m.nodup_halfedgeIds.filter _),
    ← List.countP_eq_length_filter]
  rfl

theorem checkFaceLoops_tells :
    Tells (fun _ => (∀ f ∈ m.faceIds, ∀ record, m.face? f = some record →
        m.Encloses f record.halfedge) ∧
      {h | ∃ f, m.faceOf? h = some (some f)}.ncard = 3 * m.faceCount) m.checkFaceLoops := by
  apply Tells.andThen
  · apply Tells.forM
    intro f listed
    rcases Option.isSome_iff_exists.1 (mem_faceIds.1 listed) with ⟨record, found⟩
    exact (checkFaceLoop_tells found).congr fun _ => by simp [found]
  · intro _
    apply (Tells.require _ _).congr
    intro _
    rw [decide_eq_true_eq, facedCount_eq_ncard]

/-! ## The whole mesh -/

theorem checkTopology_tells : Tells (fun _ => m.Intact) (m.checkTopology {}) := by
  have pointers : Tells (fun _ => ∀ n ∈ m.nodeIds, ∀ r, m.Represents n r → m.origin? r = some n)
      (m.nodeIds.forM m.checkRepresentative) :=
    Tells.forM fun n listed => checkRepresentative_tells (mem_nodeIds.1 listed)
  have halfedges : Tells (fun _ => ∀ h ∈ m.halfedgeIds, ∀ record, m.halfedge? h = some record →
      m.PointersFit h record) (m.halfedgeIds.forM m.checkHalfedge) := by
    apply Tells.forM
    intro h listed
    rcases Option.isSome_iff_exists.1 (mem_halfedgeIds.1 listed) with ⟨record, found⟩
    exact (checkHalfedge_tells found).congr fun _ => by simp [found]
  apply pointers.bind _ fun _ intact => ⟨(), fun n _ => intact.represented n⟩
  intro _ listed
  apply halfedges.bind _ fun _ intact => ⟨(), fun h _ => intact.fits h⟩
  intro _ listed'
  have represented (n : NodeId) (r : HalfedgeId) (represents : m.Represents n r) :
      m.origin? r = some n := by
    rcases represents with ⟨record, found, chosen⟩
    have live := Option.isSome_iff_exists.2 ⟨record, found⟩
    exact listed n (mem_nodeIds.2 live) r ⟨record, found, chosen⟩
  have fits (h : HalfedgeId) (record : Halfedge) (found : m.halfedge? h = some record) :
      m.PointersFit h record := by
    have live := Option.isSome_iff_exists.2 ⟨record, found⟩
    exact listed' h (mem_halfedgeIds.2 live) record found
  apply ((checkIncidenceCycles_tells fits represented).andThen fun _ => checkFaceLoops_tells).congr
  intro _
  constructor
  · rintro ⟨covered, enclosed, faced⟩
    refine ⟨represented, fits, covered, fun f record found => ?_, faced⟩
    have live := Option.isSome_iff_exists.2 ⟨record, found⟩
    exact enclosed f (mem_faceIds.2 live) record found
  · intro intact
    exact ⟨intact.covered, fun f _ => intact.enclosed f, intact.faced⟩

/-- The checks of the structure pass exactly on intact meshes, and otherwise they report a violated
invariant and nothing else, whatever the records contain. -/
theorem checkTopology_iff_intact (m : Mesh) :
    (m.checkTopology {} = .ok () ↔ m.Intact) ∧
      ∀ error, m.checkTopology {} = .error error → ∃ cause, error = .invariantViolation cause :=
  ⟨checkTopology_tells.eq_ok_iff, fun _ refuses => checkTopology_tells.eq_violation refuses⟩

end Mesh

end PlanarMesh
