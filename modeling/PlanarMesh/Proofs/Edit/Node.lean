import PlanarMesh.Proofs.Edit.RemoveEdge

/-!
# Adding and removing nodes

A new node is isolated, so nothing about edges and faces changes (`AddedNode`).  Removing a node
removes an edge at it as long as there is one (`Stripped`); each round drops an edge, so the number
of edges bounds the rounds, and the node is isolated when it is dropped (`DroppedNode`).
-/

namespace PlanarMesh

namespace Mesh

/-- `m'` is `m` with the new isolated node `n`. -/
structure AddedNode (m : Mesh) (position : Point) (n : NodeId) (m' : Mesh) : Prop where
  sound : m'.Sound
  key : n = m.nodes.nextKey
  nodes : m'.nodes = m.nodes.insert ⟨position, none⟩
  edges : m'.edges = m.edges
  faces : m'.faces = m.faces

/-- `m'` is `m` without the isolated node `n`. -/
structure DroppedNode (m : Mesh) (n : NodeId) (m' : Mesh) : Prop where
  sound : m'.Sound
  isolated : ∀ h, m.origin? h ≠ some n
  nodes : m'.nodes = m.nodes.erase n
  edges : m'.edges = m.edges
  faces : m'.faces = m.faces

/-- The edge has an end at the node. -/
def EndsAt (m : Mesh) (e : EdgeId) (n : NodeId) : Prop :=
  ∃ h : HalfedgeId, h.edge = e ∧ m.origin? h = some n

/-- The edges were removed from the first mesh, one after the other, until the second was left. -/
inductive Stripped : Mesh → List EdgeId → Mesh → Prop
  | refl (m : Mesh) : Stripped m [] m
  | edge {m m₁ m₂ m₃ m' : Mesh} {e : EdgeId} {es : List EdgeId} (opened₁ : m.Opened e.first m₁)
      (opened₂ : m₁.Opened e.second m₂) (dropped : m₂.DroppedEdge e m₃)
      (stripped : Stripped m₃ es m') : Stripped m (e :: es) m'

namespace AddedNode

variable {m m' : Mesh} {position : Point} {n : NodeId} (added : m.AddedNode position n m')

include added

theorem node? (n' : NodeId) :
    m'.node? n' = if n' = n then some ⟨position, none⟩ else m.node? n' := by
  rw [Mesh.node?, added.nodes, SlotStore.get?_insert, added.key]
  rfl

theorem halfedge? (h : HalfedgeId) : m'.halfedge? h = m.halfedge? h := by
  rw [Mesh.halfedge?, Mesh.edge?, added.edges]
  rfl

theorem origin? (h : HalfedgeId) : m'.origin? h = m.origin? h :=
  congrArg (Option.map _) (added.halfedge? h)

theorem faceOf? (h : HalfedgeId) : m'.faceOf? h = m.faceOf? h :=
  congrArg (Option.map _) (added.halfedge? h)

theorem follows {g h : HalfedgeId} : m'.Follows g h ↔ m.Follows g h := by
  rw [Follows, Follows, next?, next?, prev?, prev?, added.halfedge?, added.halfedge?]

theorem ring {n' : NodeId} {ring : Cycle HalfedgeId} (around : m.Ring n' ring) :
    m'.Ring n' ring :=
  around.of_keeps (fun h => by rw [added.origin?]) fun _ _ _ => added.follows.2

end AddedNode

/-- Isolated nodes may come and go. -/
theorem Sound.of_nodes {m m' : Mesh} (sound : m.Sound) (edges : m'.edges = m.edges)
    (faces : m'.faces = m.faces)
    (kept : ∀ h n, m.origin? h = some n → m'.node? n = m.node? n)
    (represented : ∀ n record r, m'.node? n = some record → record.halfedge = some r →
      m.node? n = some record) : m'.Sound := by
  have halfedge? : ∀ h, m'.halfedge? h = m.halfedge? h := fun h => by
    rw [Mesh.halfedge?, edge?, edges]
    rfl
  have origin? : ∀ h, m'.origin? h = m.origin? h := fun h => congrArg (Option.map _) (halfedge? h)
  have next? : ∀ h, m'.next? h = m.next? h := fun h => congrArg (Option.map _) (halfedge? h)
  have prev? : ∀ h, m'.prev? h = m.prev? h := fun h => congrArg (Option.map _) (halfedge? h)
  have faceOf? : ∀ h, m'.faceOf? h = m.faceOf? h := fun h => congrArg (Option.map _) (halfedge? h)
  constructor
  case origin_live =>
    intro h n start
    rw [origin?] at start
    rw [containsNode, kept h n start]
    exact sound.origin_live h n start
  case ends_ne =>
    intro h n
    rw [origin?, origin?]
    exact sound.ends_ne h n
  case exists_ring =>
    intro n
    rcases sound.exists_ring n with ⟨ring, around⟩
    refine ⟨ring, around.of_keeps (fun h => by rw [origin?]) fun g h _ follows => ?_⟩
    rwa [Follows, next?, prev?]
  case isolated =>
    intro n record found isolated h start
    rw [origin?] at start
    exact sound.isolated n record ((kept h n start).symm.trans found) isolated h start
  case representative =>
    intro n record r found chosen
    rw [origin?]
    exact sound.representative n record r (represented n record r found chosen) chosen
  case face_live =>
    intro h f
    rw [faceOf?, containsFace, face?, faces]
    exact sound.face_live h f
  case triangle =>
    intro f record
    rw [face?, faces]
    intro found
    rcases sound.triangle f record found with ⟨t, first, triangle⟩
    exact ⟨t, first, (next? _).trans triangle.next_a, (next? _).trans triangle.next_b,
      (next? _).trans triangle.next_c, fun h => by rw [faceOf?, triangle.reports_iff]⟩

theorem sound_insertNode {m m' : Mesh} (sound : m.Sound) {position : Point}
    (nodes : m'.nodes = m.nodes.insert ⟨position, none⟩) (edges : m'.edges = m.edges)
    (faces : m'.faces = m.faces) : m'.Sound := by
  have node? : ∀ n, m'.node? n =
      if n = m.nodes.nextKey then some ⟨position, none⟩ else m.node? n := fun n => by
    rw [Mesh.node?, nodes, SlotStore.get?_insert]
    rfl
  apply sound.of_nodes edges faces
  · intro h n start
    rw [node?, if_neg]
    rintro rfl
    simpa [containsNode, Mesh.node?] using sound.origin_live h _ start
  · intro n record r found chosen
    rw [node?] at found
    split at found
    · cases Option.some.inj found
      cases chosen
    · exact found

theorem sound_eraseNode {m m' : Mesh} (sound : m.Sound) {n : NodeId}
    (isolated : ∀ h, m.origin? h ≠ some n) (nodes : m'.nodes = m.nodes.erase n)
    (edges : m'.edges = m.edges) (faces : m'.faces = m.faces) : m'.Sound := by
  have node? : ∀ n', m'.node? n' = if n' = n then none else m.node? n' := fun n' => by
    rw [Mesh.node?, nodes, SlotStore.get?_erase]
    rfl
  apply sound.of_nodes edges faces
  · intro h n' start
    rw [node?, if_neg]
    rintro rfl
    exact isolated h start
  · intro n' record r found chosen
    rw [node?] at found
    split at found
    · cases found
    · exact found

end Mesh

namespace Edit

open Mesh

variable {s : Session}

theorem addNode_ends (sound : s.mesh.Sound) {position : Point} :
    (addNode position).Ends s (fun n m => s.mesh.AddedNode position n m) (fun _ _ => False) := by
  unfold addNode invalidateCache
  rw [ends_bind_of_ok (insertNode_apply _ _), ends_bind_of_ok (update_apply _ _),
    ends_bind_of_ok (record_apply _ _), ends_pure]
  exact ⟨sound_insertNode sound rfl rfl rfl, rfl, rfl, rfl, rfl⟩

theorem removeEdgesAt_ends {rounds : Nat} (sound : s.mesh.Sound) {n : NodeId}
    (live : s.mesh.containsNode n = true) (enough : s.mesh.edgeCount < rounds) :
    (removeEdgesAt n rounds).Ends s
      (fun _ m => ∃ es, s.mesh.Stripped es m ∧ (∀ e ∈ es, s.mesh.EndsAt e n) ∧ m.Sound ∧
        ∀ h, m.origin? h ≠ some n)
      (fun _ _ => False) := by
  induction rounds generalizing s with
  | zero => exact absurd enough (Nat.not_lt_zero _)
  | succ rounds inductionHypothesis =>
    rcases Option.isSome_iff_exists.1 live with ⟨record, found⟩
    unfold removeEdgesAt
    rw [ends_bind_of_ok (query_node found)]
    cases chosen : record.halfedge with
    | none => exact ⟨[], .refl _, by simp, sound, sound.isolated n record found chosen⟩
    | some h =>
      have start := sound.representative n record h found chosen
      have edgeLive : s.mesh.containsEdge h.edge = true := by
        rw [← containsHalfedge_eq_containsEdge]
        exact containsHalfedge_of_origin? start
      apply (removeEdge_ends sound).bind
      · rintro - t ⟨-, m₁, m₂, opened₁, opened₂, dropped⟩
        have nodeLive : t.mesh.containsNode n = true := by
          rw [containsNode, ← Option.isSome_map (f := Node.position), dropped.position,
            Option.isSome_map, Mesh.node?, opened₂.nodes, opened₁.nodes]
          exact live
        have fewer := dropped.edgeCount
        rw [edgeCount_eq_of_origin? opened₂.origin?, edgeCount_eq_of_origin? opened₁.origin?]
          at fewer
        apply (inductionHypothesis dropped.sound nodeLive (by omega)).bind
        · rintro removed m ⟨es, stripped, ends, still, isolated⟩
          refine ⟨_, .edge opened₁ opened₂ dropped stripped, ?_, still, isolated⟩
          refine List.forall_mem_cons.2 ⟨⟨h, rfl, start⟩, fun e mem => ?_⟩
          rcases ends e mem with ⟨g, same, start'⟩
          refine ⟨g, same, ?_⟩
          rw [dropped.origin?, opened₂.origin?, opened₁.origin?] at start'
          split at start'
          · cases start'
          · exact start'
        · exact fun _ _ => False.elim
      · rintro error m ⟨dead, -⟩
        rw [edgeLive] at dead
        cases dead

theorem removeEdgesAt_of_dead {rounds : Nat} {n : NodeId} (dead : s.mesh.containsNode n = false) :
    (removeEdgesAt n (rounds + 1)).Ends s (fun _ _ => False)
      (fun error m => m = s.mesh ∧ error = .invalidNode n) := by
  unfold removeEdgesAt
  rw [ends_bind_of_refused (query_of_error (node_of_dead dead))]
  exact ⟨rfl, rfl⟩

theorem removeNode_ends (sound : s.mesh.Sound) {n : NodeId} :
    (removeNode n).Ends s
      (fun _ m => s.mesh.containsNode n = true ∧ ∃ es m₁, s.mesh.Stripped es m₁ ∧
        (∀ e ∈ es, s.mesh.EndsAt e n) ∧ m₁.DroppedNode n m)
      (fun error m => s.mesh.containsNode n = false ∧ m = s.mesh ∧ error = .invalidNode n) := by
  unfold removeNode invalidateCache
  rw [ends_bind_of_ok (get_apply s)]
  cases live : s.mesh.containsNode n with
  | false =>
    apply (removeEdgesAt_of_dead live).bind (fun _ _ => False.elim)
    rintro error m ⟨same, rfl⟩
    exact ⟨rfl, same, rfl⟩
  | true =>
    refine (removeEdgesAt_ends sound live (Nat.lt_succ_self _)).bind ?_ fun _ _ => False.elim
    rintro removed t ⟨es, stripped, ends, still, isolated⟩
    rw [ends_bind_of_ok (dropNode_apply n t), ends_bind_of_ok (update_apply _ _),
      ends_bind_of_ok (record_apply _ _)]
    have sound' : Mesh.Sound (.invalidateCache { t.mesh with nodes := t.mesh.nodes.erase n }) :=
      sound_eraseNode still isolated rfl rfl rfl
    exact ends_of_ok (checkAfter_of_sound sound')
      ⟨rfl, es, t.mesh, stripped, ends, sound', isolated, rfl, rfl, rfl⟩

end Edit

end PlanarMesh
