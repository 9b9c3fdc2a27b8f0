import PlanarMesh.Proofs.Boundary.Loops

/-!
# The places of nodes

A node is on the boundary when some half-edge at it, in either direction, borders no face.  It is
enough to look at those that start there: where a half-edge without a face ends, another one
starts.  So the nodes on the boundary are those where the half-edges of boundary loops start, and
the three ways to look at the boundary agree (`boundaryLoops_of_operations`): the scan of the
edges, the loops along `next`, and the half-edges around each node.
-/

namespace PlanarMesh

/-- Looking for a member with a property succeeds if every test can be made. -/
theorem anyM_eq_ok {α ε : Type} {f : α → Except ε Bool} {p : α → Bool} {l : List α}
    (tests : ∀ x ∈ l, f x = .ok (p x)) : l.anyM f = .ok (l.any p) := by
  induction l with
  | nil => rfl
  | cons x l inductionHypothesis =>
    have rest := inductionHypothesis fun y mem => tests y (List.mem_cons_of_mem x mem)
    rw [List.anyM, tests x List.mem_cons_self, List.any_cons]
    cases p x with
    | true => rfl
    | false => exact rest

namespace Mesh

variable {m : Mesh}

theorem isBoundary_of_live {h : HalfedgeId} (live : m.containsHalfedge h = true) :
    m.isBoundary h = .ok (decide (m.Free h)) := by
  by_cases free : m.Free h
  · rw [isBoundary_of_free free, decide_eq_true free]
  · rw [isBoundary_of_not_free live free, decide_eq_false free]

/-- Where a half-edge without a face ends, another one starts. -/
theorem Sound.exists_free_start (sound : m.Sound) {h : HalfedgeId} {n : NodeId}
    (free : m.Free h.pair) (start : m.origin? h = some n) :
    ∃ g, m.Free g ∧ m.origin? g = some n := by
  rcases sound.exists_free free with ⟨g, -, next, -, free', -⟩
  have start' := sound.origin?_next? next
  rw [HalfedgeId.pair_pair, start] at start'
  exact ⟨g, free', start'⟩

/-- A node is on the boundary if a half-edge without a face starts at it. -/
theorem Sound.exists_isOnBoundary (sound : m.Sound) {n : NodeId}
    (live : m.containsNode n = true) : ∃ answer, m.isOnBoundary n = .ok answer ∧
      (answer = true ↔ ∃ h, m.Free h ∧ m.origin? h = some n) := by
  rcases sound.exists_tour live with ⟨l, lists, around⟩
  have starts : ∀ h, h ∈ l ↔ m.origin? h = some n := around.mem_iff
  have tests : ∀ h ∈ l,
      (do if ← m.isBoundary h then return true else m.isBoundary h.pair : Except MeshError Bool) =
        .ok (decide (m.Free h ∨ m.Free h.pair)) := by
    intro h mem
    have hLive := containsHalfedge_of_origin? ((starts h).1 mem)
    have pairLive := hLive
    rw [← containsHalfedge_pair] at pairLive
    rw [isBoundary_of_live hLive, isBoundary_of_live pairLive]
    by_cases free : m.Free h <;> simp [free, bind, Except.bind, pure, Except.pure]
  refine ⟨l.any fun h => decide (m.Free h ∨ m.Free h.pair), ?_, ?_⟩
  · rw [isOnBoundary, lists]
    exact anyM_eq_ok tests
  · rw [List.any_eq_true]
    constructor
    · rintro ⟨h, mem, either⟩
      rcases of_decide_eq_true either with free | free
      · exact ⟨h, free, (starts h).1 mem⟩
      · exact sound.exists_free_start free ((starts h).1 mem)
    · rintro ⟨h, free, start⟩
      exact ⟨h, (starts h).2 start, decide_eq_true (.inl free)⟩

/-- A node is isolated if no half-edge starts at it. -/
theorem Sound.exists_isIsolated (sound : m.Sound) {n : NodeId}
    (live : m.containsNode n = true) : ∃ answer, m.isIsolated n = .ok answer ∧
      (answer = true ↔ ∀ h, m.origin? h ≠ some n) := by
  rcases Option.isSome_iff_exists.1 live with ⟨record, found⟩
  refine ⟨record.isIsolated, ?_, ?_⟩
  · rw [isIsolated, node_eq_ok_iff.2 found]
    rfl
  · rw [Node.isIsolated, Option.isNone_iff_eq_none]
    constructor
    · exact sound.isolated n record found
    · intro none
      apply Option.eq_none_iff_forall_ne_some.2
      intro h chosen
      exact none h (sound.representative n record h found chosen)

/-- What the place of a node says about the half-edges at it. -/
structure Lies (m : Mesh) (n : NodeId) (place : NodeClass) : Prop where
  isolated_iff : place = .isolated ↔ ∀ h, m.origin? h ≠ some n
  boundary_iff : place = .boundary ↔ ∃ h, m.Free h ∧ m.origin? h = some n

theorem Sound.exists_classifyNode (sound : m.Sound) {n : NodeId}
    (live : m.containsNode n = true) : ∃ place, m.classifyNode n = .ok place ∧ m.Lies n place := by
  rcases sound.exists_isIsolated live with ⟨alone, asked, alone_iff⟩
  rcases sound.exists_isOnBoundary live with ⟨outer, asked', outer_iff⟩
  simp only [classifyNode, asked, asked', bind, Except.bind, pure, Except.pure]
  cases alone with
  | true =>
    have none := alone_iff.1 rfl
    have inner : ¬ ∃ h, m.Free h ∧ m.origin? h = some n := fun ⟨h, _, start⟩ => none h start
    exact ⟨.isolated, rfl, ⟨by simpa using none, by simpa using inner⟩⟩
  | false =>
    have some : ¬ ∀ h, m.origin? h ≠ some n := fun none => Bool.false_ne_true (alone_iff.2 none)
    cases outer with
    | true => exact ⟨.boundary, rfl, ⟨by simpa using some, by simpa using outer_iff.1 rfl⟩⟩
    | false =>
      have inner := mt outer_iff.2 Bool.false_ne_true
      exact ⟨.interior, rfl, ⟨by simpa using some, by simpa using inner⟩⟩

/-- Every node is classified, in the list of its place. -/
theorem Sound.exists_classifyNodes (sound : m.Sound) :
    ∃ (classes : NodeClasses) (place : NodeId → NodeClass), m.classifyNodes = .ok classes ∧
      (∀ n, m.containsNode n = true → m.Lies n (place n)) ∧
      (∀ n, n ∈ classes.boundary ↔ m.containsNode n = true ∧ place n = .boundary) ∧
      (∀ n, n ∈ classes.interior ↔ m.containsNode n = true ∧ place n = .interior) ∧
      (∀ n, n ∈ classes.isolated ↔ m.containsNode n = true ∧ place n = .isolated) ∧
      classes.interior.Nodup := by
  have : Nonempty NodeClass := ⟨.interior⟩
  choose! place answers lies using fun n => sound.exists_classifyNode (n := n)
  have listed : (m.nodeIds.mapM fun n => return (n, ← m.classifyNode n)) =
      Except.ok (m.nodeIds.map fun n => (n, place n)) := by
    apply mapM_eq_ok
    intro n mem
    rw [answers n (mem_nodeIds.1 mem)]
    rfl
  let select (wanted : NodeClass) : List NodeId :=
    (m.nodeIds.map fun n => (n, place n)).filterMap fun entry =>
      if entry.2 = wanted then some entry.1 else none
  have mem_select (wanted : NodeClass) (n : NodeId) :
      n ∈ select wanted ↔ m.containsNode n = true ∧ place n = wanted := by
    simp [select, mem_nodeIds]
  have nodup_select (wanted : NodeClass) : (select wanted).Nodup := by
    have pairs : (m.nodeIds.map fun n => (n, place n)).Nodup :=
      m.nodes.nodup_keys.map fun n n' same => congrArg Prod.fst same
    refine pairs.filterMap fun entry entry' n => ?_
    simp only [Option.mem_def, Option.ite_none_right_eq_some, Option.some.injEq]
    rintro ⟨here, rfl⟩ ⟨here', same⟩
    exact Prod.ext same.symm (here.trans here'.symm)
  refine ⟨⟨select .boundary, select .interior, select .isolated⟩, place, ?_, lies,
    mem_select .boundary, mem_select .interior, mem_select .isolated, nodup_select .interior⟩
  rw [classifyNodes, listed]
  rfl

/-! ## The boundary of every mesh -/

/-- Whatever operations were run: the boundary half-edges are listed once each, in loops that start
at their smallest half-edge and are ordered by it; the nodes on the boundary are those at which
half-edges of loops start, the isolated ones those at which no half-edge starts. -/
theorem boundaryLoops_of_operations (operations : List Operation) :
    ∃ loops classes, (empty.run operations).boundaryLoops = .ok loops ∧
      (∀ h, h ∈ loops.flatten ↔ (empty.run operations).isBoundary h = .ok true) ∧
      loops.flatten.Nodup ∧
      (∀ l ∈ loops, (empty.run operations).BoundaryLoop l) ∧
      loops.Pairwise StartsBefore ∧
      (empty.run operations).classifyNodes = .ok classes ∧
      (∀ n, n ∈ classes.boundary ↔
        ∃ l ∈ loops, ∃ h ∈ l, (empty.run operations).origin h = .ok n) ∧
      (∀ n, n ∈ classes.isolated ↔ (empty.run operations).containsNode n = true ∧
        ∀ h, (empty.run operations).origin h ≠ .ok n) ∧
      ∀ n, n ∈ classes.interior ↔ (empty.run operations).containsNode n = true ∧
        n ∉ classes.boundary ∧ n ∉ classes.isolated := by
  have sound := sound_empty.run operations
  rcases sound.exists_boundaryLoops with ⟨loops, scanned, beyond⟩
  rcases sound.exists_classifyNodes with
    ⟨classes, place, classified, lies, boundary, interior, isolated, -⟩
  have mem_iff : ∀ h, h ∈ loops.flatten ↔ (empty.run operations).isBoundary h = .ok true := by
    intro h
    simpa using beyond.mem_iff h
  refine ⟨loops, classes, scanned, mem_iff, beyond.nodup, beyond.loop, beyond.ordered, classified,
    fun n => ?_, fun n => ?_, fun n => ?_⟩
  · rw [boundary]
    constructor
    · rintro ⟨live, here⟩
      rcases (lies n live).boundary_iff.1 here with ⟨h, free, start⟩
      have listed := (mem_iff h).2 (isBoundary_eq_true_iff.2 free)
      rcases List.mem_flatten.1 listed with ⟨l, mem, mem'⟩
      exact ⟨l, mem, h, mem', origin_eq_ok_iff.2 start⟩
    · rintro ⟨l, mem, h, mem', start⟩
      have start' := origin_eq_ok_iff.1 start
      have live := sound.origin_live h n start'
      have free := (mem_iff h).1 (List.mem_flatten.2 ⟨l, mem, mem'⟩)
      exact ⟨live, (lies n live).boundary_iff.2 ⟨h, isBoundary_eq_true_iff.1 free, start'⟩⟩
  · rw [isolated]
    simp only [ne_eq, origin_eq_ok_iff]
    exact and_congr_right fun live => (lies n live).isolated_iff
  · rw [interior, boundary, isolated]
    apply and_congr_right
    intro live
    cases place n <;> simp [live]

end Mesh

end PlanarMesh
