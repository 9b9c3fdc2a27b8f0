import PlanarMesh.Mesh.Validity
import PlanarMesh.Proofs.Sound
import Mathlib.Algebra.BigOperators.Group.List.Basic
import Mathlib.Algebra.GroupWithZero.Nat

/-!
# Sound meshes are valid

The checks that every edit ends with accept every sound mesh (`Sound.checkInvariants`).

The two counting checks are instances of one fact about labels: if every item carries one of
the labels, then the numbers of items per label add up to the number of items
(`sum_countP_eq_length`).  Half-edges are labelled by the node where they start, and the
items per node are its ring; half-edges that report a face are labelled by it, and the items
per face are its three sides.
-/

namespace PlanarMesh

theorem sum_indicator {β : Type} (labels : List β) (p : β → Bool) :
    (labels.map fun b => if p b then 1 else 0).sum = labels.countP p := by
  induction labels with
  | nil => rfl
  | cons b labels inductionHypothesis =>
    rw [List.map_cons, List.sum_cons, inductionHypothesis, List.countP_cons, Nat.add_comm]

/-- Items counted label by label. -/
theorem sum_countP_eq_length {α β : Type} [DecidableEq β] (label : α → Option β)
    {labels : List β} (nodup : labels.Nodup) (items : List α)
    (labelled : ∀ x ∈ items, ∃ b ∈ labels, label x = some b) :
    (labels.map fun b => items.countP fun x => label x = some b).sum = items.length := by
  induction items with
  | nil => simp
  | cons x items inductionHypothesis =>
    rcases labelled x List.mem_cons_self with ⟨b, listed, carries⟩
    have rest := inductionHypothesis fun y mem => labelled y (List.mem_cons_of_mem x mem)
    have once : labels.countP (fun c => decide (label x = some c)) = 1 := by
      rw [← List.count_eq_one_of_mem nodup listed, List.count]
      congr 1
      funext c
      rw [carries, Bool.eq_iff_iff, decide_eq_true_eq, Option.some_inj, beq_iff_eq]
      exact eq_comm
    simp only [List.countP_cons, List.sum_map_add, rest, sum_indicator, once, List.length_cons]

/-- Two ways to count a list without repetition. -/
theorem countP_eq_length_of_mem_iff {α : Type} {items members : List α} {p : α → Bool}
    (nodup : items.Nodup) (nodup' : members.Nodup)
    (mem_iff : ∀ x, x ∈ members ↔ x ∈ items ∧ p x = true) :
    items.countP p = members.length := by
  rw [List.countP_eq_length_filter]
  refine List.Perm.length_eq ((List.perm_ext_iff_of_nodup (nodup.filter p) nodup').2 ?_)
  intro x
  rw [List.mem_filter, mem_iff]

/-- Going through a list succeeds exactly if every element passes. -/
theorem forM_eq_ok_iff {α : Type} {f : α → Except MeshError Unit} {l : List α} :
    l.forM f = .ok () ↔ ∀ x ∈ l, f x = .ok () := by
  induction l with
  | nil => simp [pure, Except.pure]
  | cons x l inductionHypothesis =>
    show (f x >>= fun _ => l.forM f) = .ok () ↔ _
    rw [bind_eq_ok_iff, List.forall_mem_cons, inductionHypothesis]
    exact ⟨fun ⟨_, here, rest⟩ => ⟨here, rest⟩, fun ⟨here, rest⟩ => ⟨(), here, rest⟩⟩

/-- What stands in the second of two related lists is related to something in the first. -/
theorem exists_related {α β : Type} {r : α → β → Prop} {l : List α} {l' : List β}
    (related : List.Forall₂ r l l') {b : β} (mem : b ∈ l') : ∃ a ∈ l, r a b := by
  induction related with
  | nil => cases mem
  | @cons a b' l l' here _ inductionHypothesis =>
    rcases List.mem_cons.1 mem with rfl | mem
    · exact ⟨a, List.mem_cons_self, here⟩
    · rcases inductionHypothesis mem with ⟨a', mem', there⟩
      exact ⟨a', List.mem_cons_of_mem a mem', there⟩

/-- Collecting answers succeeds if every element has one. -/
theorem mapM_eq_ok {α β ε : Type} {f : α → Except ε β} {g : α → β} {l : List α}
    (answers : ∀ x ∈ l, f x = .ok (g x)) : l.mapM f = .ok (l.map g) := by
  induction l with
  | nil => rfl
  | cons x l inductionHypothesis =>
    rw [List.mapM_cons, answers x List.mem_cons_self,
      inductionHypothesis fun y mem => answers y (List.mem_cons_of_mem x mem)]
    rfl

namespace Mesh

variable {m : Mesh}

/-! ## Listing half-edges -/

theorem mem_nodeIds {n : NodeId} : n ∈ m.nodeIds ↔ m.containsNode n = true :=
  SlotStore.mem_keys

theorem mem_faceIds {f : FaceId} : f ∈ m.faceIds ↔ m.containsFace f = true :=
  SlotStore.mem_keys

theorem mem_halfedgeIds {h : HalfedgeId} : h ∈ m.halfedgeIds ↔ m.containsHalfedge h = true := by
  rw [containsHalfedge_eq_containsEdge, halfedgeIds, List.mem_flatMap]
  constructor
  · rintro ⟨e, listed, side⟩
    have same : h.edge = e := by
      rcases List.mem_pair.1 side with rfl | rfl <;> rfl
    rw [same]
    exact SlotStore.mem_keys.1 listed
  · intro live
    exact ⟨h.edge, SlotStore.mem_keys.2 live, h.mem_halfedges_edge⟩

theorem nodup_halfedgeIds (m : Mesh) : m.halfedgeIds.Nodup := by
  refine List.nodup_flatMap.2 ⟨fun e _ => ?_, m.edges.nodup_keys.imp fun {e e'} differ => ?_⟩
  · simp [Key.halfedges, Key.first, Key.second]
  · intro h side side'
    have same : h.edge = e := by rcases List.mem_pair.1 side with rfl | rfl <;> rfl
    have same' : h.edge = e' := by rcases List.mem_pair.1 side' with rfl | rfl <;> rfl
    exact differ (same.symm.trans same')

theorem length_halfedgeIds (m : Mesh) : m.halfedgeIds.length = m.halfedgeCount := by
  rw [halfedgeIds, List.length_flatMap, halfedgeCount, edgeCount, ← SlotStore.length_keys]
  simp [Key.halfedges, edgeIds, Nat.mul_comm]

/-- No list of different live half-edges is longer than their number. -/
theorem length_le_halfedgeCount {l : List HalfedgeId} (nodup : l.Nodup)
    (live : ∀ h ∈ l, m.containsHalfedge h = true) : l.length ≤ m.halfedgeCount := by
  rw [← length_halfedgeIds]
  exact (nodup.subperm fun h mem => mem_halfedgeIds.2 (live h mem)).length_le

theorem Orbit.length_le {l : List HalfedgeId} (orbit : m.Orbit ↑l) :
    l.length ≤ m.halfedgeCount :=
  length_le_halfedgeCount orbit.nodup fun _ mem => orbit.live mem

/-! ## The checks, one by one -/

namespace Sound

variable (sound : m.Sound)

include sound

theorem checkRepresentative {n : NodeId} (live : m.containsNode n = true) :
    m.checkRepresentative n = .ok () := by
  rcases Option.isSome_iff_exists.1 live with ⟨record, found⟩
  simp only [Mesh.checkRepresentative, node_eq_ok_iff.2 found]
  cases chosen : record.halfedge with
  | none => simp [bind, Except.bind, chosen, pure, Except.pure]
  | some h =>
    have start := sound.representative n record h found chosen
    rcases Option.map_eq_some_iff.1 start with ⟨halfedge, resolved, origin⟩
    simp [bind, Except.bind, chosen, resolved, origin]

theorem checkHalfedge {h : HalfedgeId} (live : m.containsHalfedge h = true) :
    m.checkHalfedge h = .ok () := by
  rcases Option.isSome_iff_exists.1 live with ⟨record, found⟩
  have start : m.origin? h = some record.origin := by simp [origin?, found]
  have next : m.next? h = some record.next := by simp [next?, found]
  have prev : m.prev? h = some record.prev := by simp [prev?, found]
  have face : m.faceOf? h = some record.face := by simp [faceOf?, found]
  have back : m.prev? record.next = some h := sound.prev?_eq_some_iff.2 next
  have forth : m.next? record.prev = some h := sound.prev?_eq_some_iff.1 prev
  rcases sound.exists_origin_pair start with ⟨n, finish, _⟩
  have joined : m.origin? record.next = some n := (sound.origin?_next? next).trans finish
  have nextLive : m.containsHalfedge record.next = true := containsHalfedge_of_origin? joined
  have prevLive : m.containsHalfedge record.prev = true :=
    containsHalfedge_iff_next?.2 ⟨h, forth⟩
  simp only [Mesh.checkHalfedge, halfedge_eq_ok_iff.2 found, next_eq_orInvalid,
    prev_eq_orInvalid, target, origin_eq_orInvalid, forth, back, joined, finish,
    sound.origin_live h _ start, nextLive, prevLive, require, orInvalid, bind, Except.bind]
  cases reported : record.face with
  | none => rfl
  | some f =>
    rw [reported] at face
    simp [sound.face_live h f face]

end Sound

/-- Around a stretch of a ring up to its end, all half-edges are counted. -/
theorem cycleLength_eq {n : NodeId} {start : HalfedgeId} {l : List HalfedgeId} {h : HalfedgeId}
    {fuel : Nat} (starts : ∀ g ∈ h :: l, m.origin? g = some n)
    (chain : (h :: l).IsChain m.Follows) (closes : ∀ g ∈ (h :: l).getLast?, m.Follows g start)
    (fresh : start ∉ l) (enough : l.length < fuel) :
    m.cycleLength n start fuel h = .ok (l.length + 1) := by
  induction l generalizing h fuel with
  | nil =>
    rcases Nat.exists_eq_succ_of_ne_zero (Nat.ne_of_gt enough) with ⟨fuel, rfl⟩
    have here := starts h (by simp)
    have next := (closes h rfl).1
    simp [cycleLength, origin_eq_orInvalid, next_eq_orInvalid, here, next, require, orInvalid,
      bind, Except.bind, pure, Except.pure]
  | cons g l inductionHypothesis =>
    rcases Nat.exists_eq_succ_of_ne_zero (Nat.ne_of_gt (Nat.zero_lt_of_lt enough)) with ⟨fuel, rfl⟩
    have here := starts h (by simp)
    rcases List.isChain_cons_cons.1 chain with ⟨follows, chain⟩
    have rest := inductionHypothesis (fun x mem => starts x (List.mem_cons_of_mem h mem)) chain
      (by simpa using closes) (fun mem => fresh (List.mem_cons_of_mem g mem))
      (Nat.lt_of_succ_lt_succ enough)
    have other : g ≠ start := fun same => fresh (by simp [same])
    simp [cycleLength, origin_eq_orInvalid, next_eq_orInvalid, here, follows.1, require,
      orInvalid, bind, Except.bind, pure, Except.pure, other, rest]

namespace Sound

variable (sound : m.Sound)

include sound

theorem checkIncidenceCycle {n : NodeId} (live : m.containsNode n = true) :
    m.checkIncidenceCycle n =
      .ok (m.halfedgeIds.countP fun h => m.origin? h = some n) := by
  rcases Option.isSome_iff_exists.1 live with ⟨record, found⟩
  simp only [Mesh.checkIncidenceCycle, node_eq_ok_iff.2 found]
  cases chosen : record.halfedge with
  | none =>
    have bare := sound.isolated n record found chosen
    simp [bind, Except.bind, chosen, pure, Except.pure, bare]
  | some start =>
    rcases sound.exists_ring n with ⟨ring, around⟩
    have first := sound.representative n record start found chosen
    rcases Cycle.exists_coe_cons ((around.mem_iff start).2 first) with ⟨l, rfl⟩
    rcases Cycle.chain_coe_iff.1 around.chain with ⟨chain, closes⟩
    have counted : m.halfedgeIds.countP (fun h => m.origin? h = some n) = l.length + 1 := by
      apply countP_eq_length_of_mem_iff m.nodup_halfedgeIds around.nodup
      intro h
      rw [show h ∈ start :: l ↔ m.origin? h = some n from around.mem_iff h, mem_halfedgeIds,
        decide_eq_true_eq]
      exact ⟨fun here => ⟨containsHalfedge_of_origin? here, here⟩, And.right⟩
    simp only [bind, Except.bind, chosen, counted]
    exact cycleLength_eq (fun h mem => (around.mem_iff h).1 mem) chain
      (fun g last => closes g last start rfl) (List.nodup_cons.1 around.nodup).1
      (by have := around.toOrbit.length_le; simp at this; omega)

theorem checkIncidenceCycles : m.checkIncidenceCycles = .ok () := by
  have lengths : m.nodeIds.mapM m.checkIncidenceCycle =
      .ok (m.nodeIds.map fun n => m.halfedgeIds.countP fun h => m.origin? h = some n) :=
    mapM_eq_ok fun n listed => sound.checkIncidenceCycle (mem_nodeIds.1 listed)
  have total := sum_countP_eq_length m.origin? m.nodes.nodup_keys m.halfedgeIds
    fun h listed => by
      rcases containsHalfedge_iff_origin?.1 (mem_halfedgeIds.1 listed) with ⟨n, start⟩
      exact ⟨n, mem_nodeIds.2 (sound.origin_live h n start), start⟩
  rw [length_halfedgeIds, List.sum_eq_foldl] at total
  simp only [Mesh.checkIncidenceCycles, lengths, bind, Except.bind]
  exact require_eq_ok_iff.2 (decide_eq_true total)

theorem checkFaceLoop {f : FaceId} (live : m.containsFace f = true) :
    m.checkFaceLoop f = .ok () := by
  rcases Option.isSome_iff_exists.1 live with ⟨record, found⟩
  rcases sound.triangle f record found with ⟨t, first, triangle⟩
  have step : ∀ place h g, m.faceOf? h = some (some f) → m.next? h = some g →
      m.checkFaceStep f place h = .ok g := by
    intro place h g face next
    rcases Option.map_eq_some_iff.1 next with ⟨halfedge, resolved, rfl⟩
    have reports : halfedge.face = some f := by simpa [faceOf?, resolved] using face
    simp [checkFaceStep, resolved, reports, bind, Except.bind, require, pure, Except.pure]
  simp only [Mesh.checkFaceLoop, face_eq_ok_iff.2 found, ← first, bind, Except.bind,
    step 0 _ _ triangle.faceOf?_a triangle.next_a, step 1 _ _ triangle.faceOf?_b triangle.next_b,
    step 2 _ _ triangle.faceOf?_c triangle.next_c]
  simp

/-- The sides of a triangle are three different half-edges. -/
theorem nodup_triangle {f : FaceId} {t : Corners HalfedgeId} (triangle : m.Triangle f t) :
    t.toList.Nodup := by
  have ab := triangle.b_ne_a sound
  have bc : t.c ≠ t.b := triangle.rotate.b_ne_a sound
  have ca : t.a ≠ t.c := triangle.rotate.rotate.b_ne_a sound
  simp [Corners.toList, ab.symm, bc.symm, ca]

theorem countP_faceOf? {f : FaceId} (live : m.containsFace f = true) :
    m.halfedgeIds.countP (fun h => m.faceOf? h = some (some f)) = 3 := by
  rcases Option.isSome_iff_exists.1 live with ⟨record, found⟩
  rcases sound.triangle f record found with ⟨t, _, triangle⟩
  refine countP_eq_length_of_mem_iff m.nodup_halfedgeIds (sound.nodup_triangle triangle)
    fun h => ?_
  rw [← triangle.reports_iff, mem_halfedgeIds, decide_eq_true_eq]
  exact ⟨fun face => ⟨containsHalfedge_iff_faceOf?.2 ⟨_, face⟩, face⟩, And.right⟩

theorem facedCount_eq : m.facedCount = 3 * m.faceCount := by
  let reports (h : HalfedgeId) : Bool :=
    (m.halfedge? h).any fun record => record.face.isSome
  have reports_iff : ∀ h, reports h = true ↔ ∃ f, (m.faceOf? h).join = some f := by
    intro h
    cases found : m.halfedge? h with
    | none => simp [reports, faceOf?, found]
    | some record => simp [reports, faceOf?, found, Option.isSome_iff_exists]
  have label_iff : ∀ h f, (m.faceOf? h).join = some f ↔ m.faceOf? h = some (some f) :=
    fun h f => Option.join_eq_some_iff
  have total := sum_countP_eq_length (fun h => (m.faceOf? h).join) m.faces.nodup_keys
    (m.halfedgeIds.filter reports) fun h listed => by
      rcases (reports_iff h).1 (List.mem_filter.1 listed).2 with ⟨f, face⟩
      exact ⟨f, mem_faceIds.2 (sound.face_live h f ((label_iff h f).1 face)), face⟩
  have three : ∀ f ∈ m.faces.keys, ((m.halfedgeIds.filter reports).countP fun h =>
      (m.faceOf? h).join = some f) = 3 := by
    intro f listed
    rw [← sound.countP_faceOf? (mem_faceIds.1 listed), List.countP_filter]
    apply List.countP_congr
    intro h _
    simp only [Bool.and_eq_true, decide_eq_true_eq, label_iff, reports_iff]
    exact ⟨And.left, fun face => ⟨face, f, face⟩⟩
  rw [List.map_congr_left three, List.map_const', List.sum_replicate_nat,
    SlotStore.length_keys, ← List.countP_eq_length_filter] at total
  rw [facedCount, ← total, faceCount, Nat.mul_comm]

theorem checkFaceLoops : m.checkFaceLoops = .ok () := by
  have loops : m.faceIds.forM m.checkFaceLoop = .ok () :=
    forM_eq_ok_iff.2 fun f listed => sound.checkFaceLoop (mem_faceIds.1 listed)
  simp only [Mesh.checkFaceLoops, loops, bind, Except.bind, require_eq_ok_iff]
  exact decide_eq_true sound.facedCount_eq

/-- The checks of the structure accept sound meshes, whichever are asked for. -/
theorem checkTopology (options : ValidationOptions) : m.checkTopology options = .ok () := by
  have nodes : m.nodeIds.forM m.checkRepresentative = .ok () :=
    forM_eq_ok_iff.2 fun n listed => sound.checkRepresentative (mem_nodeIds.1 listed)
  have halfedges : m.halfedgeIds.forM m.checkHalfedge = .ok () :=
    forM_eq_ok_iff.2 fun h listed => sound.checkHalfedge (mem_halfedgeIds.1 listed)
  rw [Mesh.checkTopology, nodes, halfedges, sound.checkIncidenceCycles, sound.checkFaceLoops]
  cases options.incidenceCycles <;> cases options.faceLoops <;> rfl

/-- The check after an edit accepts sound meshes. -/
theorem checkInvariants : m.checkInvariants = .ok () :=
  sound.checkTopology .topology

end Sound

end Mesh

end PlanarMesh
