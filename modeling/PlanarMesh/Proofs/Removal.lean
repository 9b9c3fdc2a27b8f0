import PlanarMesh.Proofs.Adjacency
import PlanarMesh.Proofs.Edit.Pruned
import PlanarMesh.Proofs.Reachability

/-!
# What a removal takes along

Removing an edge takes along the faces at its sides, and removing a node takes along its edges and
with them the faces of which it is a corner.  Nothing else goes (`removal_of_operations`): what is
left keeps its handles, positions, ends and triangles, and the walk around a node that is left is
the old one without the half-edges of removed edges.  Its representative stays if it can.

A node is removed by removing the edge of its representative until there is none.  Which edge that
is changes from round to round, but what is gone at the end does not depend on it, because the
mesh is then pruned of the edges at the node (`Stripped.pruned`).
-/

namespace PlanarMesh

namespace Mesh

variable {m m' : Mesh}

/-- Around `n` the half-edges in `away` are gone in `m'`.  The representative is kept unless it is
gone as well; then another half-edge that is left takes its place, or none if none is left. -/
def Thins (m : Mesh) (away : HalfedgeId → Bool) (n : NodeId) (m' : Mesh) : Prop :=
  ∃ record record' l l', m.node n = .ok record ∧ m'.node n = .ok record' ∧ m.Tour n l ∧
    m'.Tour n l' ∧ (l' : Cycle HalfedgeId) = ↑(l.filter fun h => ¬ away h) ∧
    record'.halfedge = l'.head? ∧
    ∀ r, record.halfedge = some r → ¬ away r → record'.halfedge = some r

/-- `m'` is `m` without the given nodes, edges and faces, as readers see it; around the nodes that
are left the half-edges in `away` are gone. -/
structure Loses (m : Mesh) (ns : List NodeId) (es : List EdgeId) (fs : FaceId → Prop)
    (away : HalfedgeId → Bool) (m' : Mesh) : Prop where
  nodeCount : m'.nodeCount + ns.length = m.nodeCount
  edgeCount : m'.edgeCount + es.length = m.edgeCount
  containsNode : ∀ n, m'.containsNode n = true ↔ m.containsNode n = true ∧ n ∉ ns
  containsEdge : ∀ e, m'.containsEdge e = true ↔ m.containsEdge e = true ∧ e ∉ es
  containsFace : ∀ f, m'.containsFace f = true ↔ m.containsFace f = true ∧ ¬ fs f
  position : ∀ n, n ∉ ns → m'.position n = m.position n
  origin : ∀ h : HalfedgeId, h.edge ∉ es → m'.origin h = m.origin h
  faceHalfedges : ∀ f, ¬ fs f → m'.faceHalfedges f = m.faceHalfedges f
  faceOf : ∀ (h : HalfedgeId) face, h.edge ∉ es → m.faceOf h = .ok face →
    m'.faceOf h = .ok (face.filter m'.containsFace)
  thins : ∀ n, m'.containsNode n = true → m.Thins away n m'

/-! ## Without edges -/

namespace Pruned

variable {es : List EdgeId} (pruned : m.Pruned es m') (sound : m.Sound)

include pruned

theorem origin (h : HalfedgeId) (still : h.edge ∉ es) : m'.origin h = m.origin h := by
  rw [origin_eq_orInvalid, origin_eq_orInvalid, pruned.origin?, if_neg still]

include sound

theorem faceHalfedges (f : FaceId) (apart : ¬ m.FaceAt es f) :
    m'.faceHalfedges f = m.faceHalfedges f := by
  cases found : m.face? f with
  | none =>
    have missing : m'.face? f = none := by
      apply Option.eq_none_iff_forall_ne_some.2
      intro record found'
      cases found.symm.trans ((pruned.face?_iff f record).1 found').1
    rw [Mesh.faceHalfedges, Mesh.faceHalfedges, face, face, found, missing]
    rfl
  | some record =>
    rcases sound.triangle f record found with ⟨t, first, triangle⟩
    have found' := (pruned.face?_iff f record).2 ⟨found, apart⟩
    rw [faceHalfedges_of_triangle found first triangle,
      faceHalfedges_of_triangle found' first (pruned.triangle f t apart triangle)]

/-- A half-edge that is left loses its face exactly if the face is gone. -/
theorem faceOf (h : HalfedgeId) (face : Option FaceId) (still : h.edge ∉ es)
    (reports : m.faceOf h = .ok face) : m'.faceOf h = .ok (face.filter m'.containsFace) := by
  rw [faceOf_eq_ok_iff] at reports ⊢
  have live : m'.containsHalfedge h = true :=
    (pruned.containsHalfedge_iff h).2 ⟨containsHalfedge_iff_faceOf?.2 ⟨face, reports⟩, still⟩
  rcases containsHalfedge_iff_faceOf?.1 live with ⟨face', reports'⟩
  rw [reports']
  congr 1
  ext f
  rw [Option.filter_eq_some_iff]
  constructor
  · intro same
    subst same
    have told := ((pruned.reports_iff h f).1 reports').2
    rw [reports] at told
    refine ⟨Option.some.inj told.1, (pruned.containsFace_iff f).2 ⟨?_, told.2⟩⟩
    rw [← reports] at told
    exact sound.face_live h f told.1
  · rintro ⟨rfl, faceLive⟩
    have apart := ((pruned.containsFace_iff f).1 faceLive).2
    exact Option.some.inj (reports'.symm.trans ((pruned.reports_iff h f).2 ⟨still, reports, apart⟩))

/-- The walks around nodes go over the half-edges that are left. -/
theorem thins {n : NodeId} (live : m.containsNode n = true) :
    m.Thins (fun h => h.edge ∈ es) n m' := by
  rcases sound.exists_tour live with ⟨l, tour⟩
  rcases pruned.sound.exists_tour ((pruned.containsNode n).trans live) with ⟨l', tour'⟩
  rcases tour.exists_node with ⟨record, found⟩
  rcases tour'.exists_node with ⟨record', found'⟩
  refine ⟨record, record', l, l', node_eq_ok_iff.2 found, node_eq_ok_iff.2 found', tour, tour', ?_,
    (pruned.sound.head?_of_tour found' tour').symm, fun r chosen still => ?_⟩
  · have around := pruned.ring n l tour.ring
    simpa using tour'.ring.unique around
  · have kept := pruned.represented n record r found chosen (by simpa using still)
    cases found'.symm.trans kept
    exact chosen

theorem loses : m.Loses [] es (m.FaceAt es) (fun h => h.edge ∈ es) m' where
  nodeCount := SlotStore.size_eq_of_contains pruned.containsNode
  edgeCount := pruned.edgeCount
  containsNode n := by simp [pruned.containsNode n]
  containsEdge := pruned.containsEdge_iff
  containsFace := pruned.containsFace_iff
  position n _ := by
    rw [position_eq_orInvalid, position_eq_orInvalid, pruned.position]
  origin := pruned.origin
  faceHalfedges := pruned.faceHalfedges sound
  faceOf := pruned.faceOf sound
  thins n live := pruned.thins sound ((pruned.containsNode n).symm.trans live)

omit sound in
/-- The order of the edges does not matter. -/
theorem of_perm {es' : List EdgeId} (same : es.Perm es') : m.Pruned es' m' := by
  have faceAt (f : FaceId) : m.FaceAt es' f ↔ m.FaceAt es f := by
    simp only [FaceAt, same.mem_iff]
  constructor
  case sound => exact pruned.sound
  case nodup => exact same.nodup_iff.1 pruned.nodup
  case live => exact fun e mem => pruned.live e (same.mem_iff.2 mem)
  case edgeCount => exact same.length_eq ▸ pruned.edgeCount
  case position => exact pruned.position
  case represented => simpa only [same.mem_iff] using pruned.represented
  case origin? => simpa only [same.mem_iff] using pruned.origin?
  case reports_iff => simpa only [same.mem_iff, faceAt] using pruned.reports_iff
  case face?_iff => simpa only [faceAt] using pruned.face?_iff
  case triangle => simpa only [faceAt] using pruned.triangle
  case ring => simpa only [same.mem_iff] using pruned.ring

end Pruned

/-- Which half-edges are gone matters for those at the node only. -/
theorem Thins.congr {away away' : HalfedgeId → Bool} {n : NodeId} (thins : m.Thins away n m')
    (same : ∀ h, m.origin? h = some n → away' h = away h) (sound : m.Sound) :
    m.Thins away' n m' := by
  rcases thins with ⟨record, record', l, l', found, found', tour, tour', left, start, kept⟩
  refine ⟨record, record', l, l', found, found', tour, tour', ?_, start, fun r chosen still => ?_⟩
  · rw [left]
    congr 1
    apply List.filter_congr
    intro h mem
    rw [same h ((tour.ring.mem_iff h).1 mem)]
  · have starts := sound.representative n record r (node_eq_ok_iff.1 found) chosen
    exact kept r chosen (same r starts ▸ still)

/-! ## Without a node -/

namespace DroppedNode

variable {m₁ : Mesh} {n : NodeId} (dropped : m₁.DroppedNode n m')

include dropped

theorem node? (n' : NodeId) : m'.node? n' = if n' = n then none else m₁.node? n' := by
  rw [Mesh.node?, dropped.nodes, SlotStore.get?_erase]
  rfl

theorem containsNode (n' : NodeId) :
    m'.containsNode n' = true ↔ m₁.containsNode n' = true ∧ n' ≠ n := by
  rw [Mesh.containsNode, dropped.node?, Mesh.containsNode]
  by_cases same : n' = n <;> simp [same]

theorem halfedge? (h : HalfedgeId) : m'.halfedge? h = m₁.halfedge? h := by
  rw [Mesh.halfedge?, Mesh.edge?, dropped.edges]
  rfl

theorem face? (f : FaceId) : m'.face? f = m₁.face? f := by
  rw [Mesh.face?, dropped.faces]
  rfl

theorem tour {n' : NodeId} {l : List HalfedgeId} (sound : m₁.Sound) (other : n' ≠ n)
    (tour : m₁.Tour n' l) : m'.Tour n' l := by
  apply tour.of_ring sound
  · rw [dropped.node?, if_neg other]
  · apply tour.ring.of_keeps
    · intro h
      rw [origin?, dropped.halfedge?, origin?]
    · intro g h _ follows
      rwa [Follows, next?, prev?, dropped.halfedge?, dropped.halfedge?]

/-- A node that is dropped when its edges are gone is the only node that goes. -/
theorem loses {es : List EdgeId} {fs : FaceId → Prop} {away : HalfedgeId → Bool}
    (loses : m.Loses [] es fs away m₁) (sound : m₁.Sound) (live : m₁.containsNode n = true) :
    m.Loses [n] es fs away m' := by
  have halfedge (h : HalfedgeId) : m'.halfedge h = m₁.halfedge h := by
    rw [Mesh.halfedge, Mesh.halfedge, dropped.halfedge?]
  have face (f : FaceId) : m'.face f = m₁.face f := by
    rw [Mesh.face, Mesh.face, dropped.face?]
  have containsFace (f : FaceId) : m'.containsFace f = m₁.containsFace f := by
    rw [Mesh.containsFace, Mesh.containsFace, dropped.face?]
  constructor
  case nodeCount =>
    rw [← loses.nodeCount, nodeCount, dropped.nodes]
    exact SlotStore.size_erase live
  case edgeCount =>
    rw [← loses.edgeCount, Mesh.edgeCount, dropped.edges]
    rfl
  case containsNode =>
    intro n'
    rw [dropped.containsNode, loses.containsNode]
    simp
  case containsEdge =>
    intro e
    rw [← loses.containsEdge, containsEdge, edge?, dropped.edges]
    rfl
  case containsFace =>
    intro f
    rw [containsFace, loses.containsFace]
  case position =>
    intro n' other
    rw [← loses.position n' (by simp), position_eq_orInvalid, position_eq_orInvalid,
      dropped.node?, if_neg (by simpa using other)]
  case origin =>
    intro h still
    rw [← loses.origin h still, origin, origin, halfedge]
  case faceHalfedges =>
    intro f apart
    rw [← loses.faceHalfedges f apart]
    simp only [faceHalfedges, next, face, halfedge]
  case faceOf =>
    intro h f still reports
    rw [show m'.containsFace = m₁.containsFace from funext containsFace,
      ← loses.faceOf h f still reports, faceOf, faceOf, halfedge]
  case thins =>
    intro n' live'
    rcases (dropped.containsNode n').1 live' with ⟨live₁, other⟩
    rcases loses.thins n' live₁ with
      ⟨record, record', l, l', found, found', tour, tour', left, start, kept⟩
    have still : m'.node n' = .ok record' := by
      rw [node_eq_ok_iff, dropped.node?, if_neg other]
      exact node_eq_ok_iff.1 found'
    exact ⟨record, record', l, l', found, still, tour, dropped.tour sound other tour', left, start,
      kept⟩

end DroppedNode

/-! ## The edges at a node -/

section Star

variable {n : NodeId} {l : List HalfedgeId} (sound : m.Sound) (tour : m.Tour n l)

include sound tour

/-- No two half-edges at a node belong to one edge. -/
theorem Tour.nodup_edges : (l.map HalfedgeId.edge).Nodup := by
  have nodup : l.Nodup := tour.ring.nodup
  apply nodup.map_on
  intro g gMem h hMem same
  rcases HalfedgeId.eq_or_eq_pair same with rfl | rfl
  · rfl
  · exact absurd ((tour.ring.mem_iff h.pair).1 gMem)
      (sound.ends_ne h n ((tour.ring.mem_iff h).1 hMem))

omit sound in
theorem Tour.mem_edges_iff (e : EdgeId) : e ∈ l.map HalfedgeId.edge ↔ m.EndsAt e n := by
  have starts : ∀ h, h ∈ l ↔ m.origin? h = some n := tour.ring.mem_iff
  simp only [List.mem_map, EndsAt, starts, and_comm]

omit sound in
/-- Seen from another node, the edges at `n` are those that lead there. -/
theorem Tour.mem_edges_iff_target {n' : NodeId} {h : HalfedgeId} (other : n' ≠ n)
    (start : m.origin? h = some n') :
    h.edge ∈ l.map HalfedgeId.edge ↔ m.target h = .ok n := by
  rw [tour.mem_edges_iff, target_eq_ok_iff]
  constructor
  · rintro ⟨g, same, start'⟩
    rcases HalfedgeId.eq_or_eq_pair same with rfl | rfl
    · exact absurd (Option.some.inj (start.symm.trans start')) other
    · exact start'
  · exact fun finish => ⟨h.pair, rfl, finish⟩

/-- The faces at the edges of a node are those that have it as a corner. -/
theorem Tour.faceAt_iff (f : FaceId) :
    m.FaceAt (l.map HalfedgeId.edge) f ↔ m.HasCorner n f := by
  rw [sound.hasCorner_iff]
  constructor
  · rintro ⟨h, mem, reports⟩
    rcases (tour.mem_edges_iff h.edge).1 mem with ⟨g, same, start⟩
    rcases HalfedgeId.eq_or_eq_pair same with rfl | rfl
    · exact ⟨g, start, reports⟩
    · -- The next side of the face starts where this one ends.
      rcases sound.exists_triangle reports with ⟨t, rfl, triangle⟩
      exact ⟨t.b, (sound.origin?_next? triangle.next_a).trans start, triangle.faceOf?_b⟩
  · rintro ⟨h, start, reports⟩
    exact ⟨h, (tour.mem_edges_iff h.edge).2 ⟨h, rfl, start⟩, reports⟩

end Star

/-! ## Removing a node or an edge -/

/-- When all edges at a node were removed and then the node, exactly these are gone, and the faces
of which it was a corner. -/
theorem Stripped.loses {m₁ : Mesh} {n : NodeId} {l : List HalfedgeId} {es : List EdgeId}
    (stripped : m.Stripped es m₁) (atNode : ∀ e ∈ es, m.EndsAt e n)
    (dropped : m₁.DroppedNode n m') (sound : m.Sound) (tour : m.Tour n l) :
    m.Loses [n] (l.map HalfedgeId.edge) (m.HasCorner n) (fun h => m.target h = .ok n) m' := by
  have pruned := stripped.pruned sound
  have same : es.Perm (l.map HalfedgeId.edge) := by
    apply (List.perm_ext_iff_of_nodup pruned.nodup (tour.nodup_edges sound)).2
    intro e
    rw [tour.mem_edges_iff]
    refine ⟨atNode e, ?_⟩
    rintro ⟨h, rfl, start⟩
    by_contra still
    exact dropped.isolated h (by rw [pruned.origin?, if_neg still, start])
  have live : m₁.containsNode n = true :=
    (pruned.containsNode n).trans (Option.isSome_iff_exists.2 tour.exists_node)
  have gone := dropped.loses ((pruned.of_perm same).loses sound) pruned.sound live
  rw [show m.FaceAt _ = m.HasCorner n from funext fun f => propext (tour.faceAt_iff sound f)]
    at gone
  refine { gone with thins := fun n' live' => ?_ }
  have other : n' ≠ n := ((dropped.containsNode n').1 live').2
  apply (gone.thins n' live').congr _ sound
  intro h start
  exact decide_eq_decide.2 (tour.mem_edges_iff_target other start).symm

/-- A live node goes with its edges and the faces of which it is a corner. -/
theorem Sound.outcome_removeNode (sound : m.Sound) {n : NodeId} {l : List HalfedgeId}
    (tour : m.Tour n l) : ∃ m', (Operation.removeNode n).outcome m = (.ok .done, m') ∧
      m.Loses [n] (l.map HalfedgeId.edge) (m.HasCorner n) (fun h => m.target h = .ok n) m' := by
  have ends : (Operation.removeNode n).edit.Ends (Session.on m)
      (fun reply m' => reply = .done ∧
        m.Loses [n] (l.map HalfedgeId.edge) (m.HasCorner n) (fun h => m.target h = .ok n) m')
      (fun _ _ => False) := by
    apply (Edit.removeNode_ends (s := Session.on m) sound).bind
    · rintro - t ⟨-, es, m₁, stripped, atNode, dropped⟩
      exact ⟨rfl, stripped.loses atNode dropped sound tour⟩
    · rintro error m' ⟨dead, -⟩
      have live : m.containsNode n = true := Option.isSome_iff_exists.2 tour.exists_node
      cases live.symm.trans dead
  rcases Operation.outcome_of_ends ends with ⟨_, m', ended, rfl, loses⟩ | ⟨_, _, _, impossible⟩
  · exact ⟨m', ended, loses⟩
  · exact impossible.elim

/-- A live edge goes with the faces at its sides. -/
theorem Sound.outcome_removeEdge (sound : m.Sound) {e : EdgeId} (live : m.containsEdge e = true) :
    ∃ m', (Operation.removeEdge e).outcome m = (.ok .done, m') ∧
      m.Loses [] [e] (fun f => ∃ h ∈ e.halfedges, m.faceOf h = .ok (some f))
        (fun h => h.edge = e) m' := by
  have ends : (Operation.removeEdge e).edit.Ends (Session.on m)
      (fun reply m' => reply = .done ∧ m.Pruned [e] m') (fun _ _ => False) := by
    apply (Edit.removeEdge_ends (s := Session.on m) sound).bind
    · rintro - t ⟨-, m₁, m₂, opened₁, opened₂, dropped⟩
      exact ⟨rfl, dropped.pruned sound live opened₁ opened₂⟩
    · rintro error m' ⟨dead, -⟩
      cases live.symm.trans dead
  rcases Operation.outcome_of_ends ends with ⟨_, m', ended, rfl, pruned⟩ | ⟨_, _, _, impossible⟩
  · refine ⟨m', ended, ?_⟩
    have faceAt : m.FaceAt [e] = fun f => ∃ h ∈ e.halfedges, m.faceOf h = .ok (some f) := by
      funext f
      simp [FaceAt, faceOf_eq_ok_iff, edge_eq_iff, Key.halfedges]
    have loses := pruned.loses sound
    rw [faceAt] at loses
    simpa using loses
  · exact impossible.elim

/-- Whatever operations were run: removing a live node succeeds and takes along exactly the edges at
it, as many as its degree, and the faces of which it is a corner; removing a live edge succeeds and
takes along exactly the faces at its sides. -/
theorem removal_of_operations (operations : List Operation) :
    let m := empty.run operations
    (∀ n, m.containsNode n = true → ∃ l m', m.Tour n l ∧ m.degree n = .ok l.length ∧
      (l.map HalfedgeId.edge).Nodup ∧ (Operation.removeNode n).outcome m = (.ok .done, m') ∧
      m.Loses [n] (l.map HalfedgeId.edge) (m.HasCorner n) (fun h => m.target h = .ok n) m') ∧
    ∀ e, m.containsEdge e = true → ∃ m', (Operation.removeEdge e).outcome m = (.ok .done, m') ∧
      m.Loses [] [e] (fun f => ∃ h ∈ e.halfedges, m.faceOf h = .ok (some f))
        (fun h => h.edge = e) m' := by
  intro m
  have sound : m.Sound := sound_empty.run operations
  constructor
  · intro n live
    rcases sound.exists_tour live with ⟨l, tour⟩
    rcases sound.outcome_removeNode tour with ⟨m', ended, loses⟩
    refine ⟨l, m', tour, ?_, tour.nodup_edges sound, ended, loses⟩
    rw [degree, tour.lists]
    rfl
  · exact fun e live => sound.outcome_removeEdge live

end Mesh

end PlanarMesh
