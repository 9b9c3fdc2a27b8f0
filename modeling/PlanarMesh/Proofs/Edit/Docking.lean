import PlanarMesh.Proofs.Edit.EdgeRecord

/-!
# Docked edges

An edge can be added between two different live nodes unless one of them is interior: it has
half-edges, and every half-edge that arrives there borders a face (`Connectable`).  The new
half-edges enter the rings of the nodes after the first member, from the representative on, with
a free twin; nothing else about the mesh changes (`AddedEdge`).  All of this is what attaching the
two sides of a new record one after the other does (`addedEdge_of_docks`).
-/

namespace PlanarMesh

namespace Mesh

/-- The node has half-edges, and all that arrive border a face. -/
def Interior (m : Mesh) (n : NodeId) : Prop :=
  (∃ h, m.origin? h = some n) ∧ ∀ h, m.origin? h = some n → ¬ m.Free h.pair

/-- An edge can be added between the nodes. -/
structure Connectable (m : Mesh) (n₁ n₂ : NodeId) : Prop where
  live₁ : m.containsNode n₁ = true
  live₂ : m.containsNode n₂ = true
  ne : n₁ ≠ n₂
  room₁ : ¬ m.Interior n₁
  room₂ : ¬ m.Interior n₂

/-- No edge can be added between the nodes, for the first reason that applies. -/
inductive Unconnectable (m : Mesh) (n₁ n₂ : NodeId) : MeshError → Prop
  | dead₁ (dead : m.containsNode n₁ = false) : Unconnectable m n₁ n₂ (.invalidNode n₁)
  | dead₂ (live₁ : m.containsNode n₁ = true) (dead : m.containsNode n₂ = false) :
      Unconnectable m n₁ n₂ (.invalidNode n₂)
  | loop (live₁ : m.containsNode n₁ = true) (same : n₁ = n₂) :
      Unconnectable m n₁ n₂ (.selfLoop n₁)
  | interior₁ (live₁ : m.containsNode n₁ = true) (live₂ : m.containsNode n₂ = true)
      (ne : n₁ ≠ n₂) (interior : m.Interior n₁) :
      Unconnectable m n₁ n₂ (.attachToCompleteMesh (.noFreeSlot n₁))
  | interior₂ (live₁ : m.containsNode n₁ = true) (live₂ : m.containsNode n₂ = true)
      (ne : n₁ ≠ n₂) (room₁ : ¬ m.Interior n₁) (interior : m.Interior n₂) :
      Unconnectable m n₁ n₂ (.attachToCompleteMesh (.noFreeSlot n₂))

theorem Unconnectable.not_connectable {m : Mesh} {n₁ n₂ : NodeId} {error : MeshError}
    (unable : m.Unconnectable n₁ n₂ error) : ¬ m.Connectable n₁ n₂ := by
  intro able
  cases unable with
  | dead₁ dead => exact Bool.eq_false_iff.1 dead able.live₁
  | dead₂ _ dead => exact Bool.eq_false_iff.1 dead able.live₂
  | loop _ same => exact able.ne same
  | interior₁ _ _ _ interior => exact able.room₁ interior
  | interior₂ _ _ _ _ interior => exact able.room₂ interior

/-- `h` is on the ring of the node in `m'`, where there was the first room for it in `m`. -/
structure Docked (m : Mesh) (h : HalfedgeId) (n : NodeId) (m' : Mesh) : Prop where
  ring_of_isolated : ∀ record, m.node? n = some record → record.halfedge = none → m'.Ring n ↑[h]
  ring : ∀ record r (l : List HalfedgeId) A u B, m.node? n = some record →
    record.halfedge = some r → m.Ring n ↑l → l.head? = some r → m.FirstFree l A u B →
    m'.Ring n ↑(A ++ u :: h :: B)

/-- `m'` is `m` with the new edge `e` between two nodes. -/
structure AddedEdge (m : Mesh) (n₁ n₂ : NodeId) (e : EdgeId) (m' : Mesh) : Prop where
  sound : m'.Sound
  key : e = m.edges.nextKey
  faces : m'.faces = m.faces
  edgeCount : m'.edgeCount = m.edgeCount + 1
  edgeGenerations : m'.edges.generationAt = m.edges.generationAt
  node? : ∀ n, m'.node? n = (m.node? n).map fun record =>
    record.adopt (if n = n₁ then some e.first else if n = n₂ then some e.second else none)
  origin? : ∀ h, m'.origin? h =
    if h = e.first then some n₁ else if h = e.second then some n₂ else m.origin? h
  faceOf? : ∀ h, m'.faceOf? h = if h.edge = e then some none else m.faceOf? h
  keeps_faced : m.Keeps m' fun g => m.Free g.pair
  ring_of_ne : ∀ n ring, n ≠ n₁ → n ≠ n₂ → m.Ring n ring → m'.Ring n ring
  docked₁ : m.Docked e.first n₁ m'
  docked₂ : m.Docked e.second n₂ m'

namespace AddedEdge

variable {m m' : Mesh} {n₁ n₂ : NodeId} {e : EdgeId} (added : m.AddedEdge n₁ n₂ e m')

include added

theorem face? (f : FaceId) : m'.face? f = m.face? f := by
  rw [Mesh.face?, added.faces]
  rfl

theorem node?_of_represented {n : NodeId} {record : Node} {r : HalfedgeId}
    (found : m.node? n = some record) (chosen : record.halfedge = some r) :
    m'.node? n = some record := by
  have kept : ∀ h, record.adopt h = record := fun h => by
    cases record
    simp_all [Node.adopt]
  rw [added.node?, found, Option.map_some, kept]

theorem node?_of_ne {n : NodeId} (other₁ : n ≠ n₁) (other₂ : n ≠ n₂) :
    m'.node? n = m.node? n := by
  rw [added.node?]
  simp [other₁, other₂, Node.adopt]

theorem origin?_first : m'.origin? e.first = some n₁ := by
  rw [added.origin?, if_pos rfl]

theorem origin?_second : m'.origin? e.second = some n₂ := by
  rw [added.origin?, if_neg (by simp [Key.first, Key.second]), if_pos rfl]

theorem origin?_of_ne {h : HalfedgeId} (old : h.edge ≠ e) : m'.origin? h = m.origin? h := by
  have notFirst : h ≠ e.first := fun same => old (same ▸ rfl)
  have notSecond : h ≠ e.second := fun same => old (same ▸ rfl)
  rw [added.origin?, if_neg notFirst, if_neg notSecond]

theorem not_contains : m.containsEdge e = false := by
  rw [added.key]
  exact m.edges.contains_nextKey

theorem edge_ne {h : HalfedgeId} (live : m.containsHalfedge h = true) : h.edge ≠ e := by
  rintro same
  rw [containsHalfedge_eq_containsEdge, same, added.not_contains] at live
  cases live

theorem origin?_of_live {h : HalfedgeId} {n : NodeId} (start : m.origin? h = some n) :
    m'.origin? h = some n :=
  (added.origin?_of_ne (added.edge_ne (containsHalfedge_of_origin? start))).trans start

theorem free_new {h : HalfedgeId} (new : h.edge = e) : m'.Free h := by
  rw [Free, added.faceOf?, if_pos new]

theorem free_iff {h : HalfedgeId} (old : h.edge ≠ e) : m'.Free h ↔ m.Free h := by
  rw [Free, added.faceOf?, if_neg old, Free]

end AddedEdge

/-! ## Attaching both sides -/

/-- A represented node with room has a first free place. -/
theorem Sound.exists_firstFree_of_room {m : Mesh} (sound : m.Sound) {n : NodeId} {record : Node}
    {r : HalfedgeId} (found : m.node? n = some record) (chosen : record.halfedge = some r)
    (room : ¬ m.Interior n) :
    ∃ (l A : List HalfedgeId) (u : HalfedgeId) (B : List HalfedgeId), m.Ring n ↑l ∧
      l.head? = some r ∧ m.FirstFree l A u B := by
  rcases sound.exists_ring_from found chosen with ⟨l, around, start⟩
  have starts := sound.representative n record r found chosen
  have someFree : ∃ a ∈ l, m.Free a.pair := by
    by_contra none
    refine room ⟨⟨r, starts⟩, fun a start free => none ⟨a, ?_, free⟩⟩
    exact (around.mem_iff a).2 start
  rcases exists_firstFree someFree with ⟨A, u, B, first⟩
  exact ⟨l, A, u, B, around, start, first⟩

section Docked

variable {m m₂ m₃ : Mesh} {n₁ n₂ : NodeId} {e : EdgeId} (sound : m.Sound) (ne : n₁ ≠ n₂)
  (key : e = m.edges.nextKey) (docks₁ : (m.withEdge n₁ n₂).Docks e.first n₁ m₂)
  (docks₂ : m₂.Docks e.second n₂ m₃)

include key docks₁ docks₂

theorem origin?_of_docks (h : HalfedgeId) : m₃.origin? h =
    if h = e.first then some n₁ else if h = e.second then some n₂ else m.origin? h := by
  rw [docks₂.origin?, docks₁.origin?, origin?_withEdge, key]

theorem faceOf?_of_docks (h : HalfedgeId) :
    m₃.faceOf? h = if h.edge = e then some none else m.faceOf? h := by
  rw [docks₂.faceOf?, docks₁.faceOf?, faceOf?_withEdge, key]

omit key in
theorem node?_of_docks (ne : n₁ ≠ n₂) (n : NodeId) : m₃.node? n = (m.node? n).map fun record =>
    record.adopt (if n = n₁ then some e.first else if n = n₂ then some e.second else none) := by
  have kept : ∀ record : Node, record.adopt none = record := fun record => by
    simp [Node.adopt]
  rw [docks₂.node?, docks₁.node?, docks₁.node?]
  by_cases first : n = n₁
  · subst first
    rw [if_neg ne, if_pos rfl]
    simp only [if_true]
    rfl
  by_cases second : n = n₂
  · subst second
    rw [if_pos rfl, if_neg first]
    simp only [if_neg first, if_true]
    rfl
  · simp only [if_neg first, if_neg second, kept, Option.map_id']
    rfl

omit docks₂ in
theorem orbit_of_docks_first {ring : Cycle HalfedgeId} (sound : m.Sound) (around : m.Orbit ring)
    (apart : ∀ x ∈ ring, m.origin? x ≠ some n₁) : m₂.Orbit ring := by
  have around₁ : (m.withEdge n₁ n₂).Orbit ring := around.of_keeps fun _ _ _ => Follows.withEdge
  apply docks₁.orbit_of_avoids around₁
  · exact fun mem => edge_ne_nextKey (around.live mem) key
  · exact fun record r found chosen mem => apart r mem
      (sound.representative n₁ record r found chosen)

theorem orbit_of_docks_second {ring : Cycle HalfedgeId} (sound : m.Sound) (ne : n₁ ≠ n₂)
    (around : m₂.Orbit ring) (members : ∀ x ∈ ring, x = e.first ∨
      m.containsHalfedge x = true ∧ m.origin? x ≠ some n₂) : m₃.Orbit ring := by
  apply docks₂.orbit_of_avoids around
  · intro mem
    rcases members _ mem with same | ⟨live, -⟩
    · exact first_ne_second e same.symm
    · exact edge_ne_nextKey live key
  · intro record r found chosen mem
    rw [docks₁.node?, if_neg ne.symm] at found
    have start := sound.representative n₂ record r found chosen
    rcases members r mem with rfl | ⟨-, other⟩
    · exact edge_ne_nextKey (containsHalfedge_of_origin? start) key
    · exact other start

theorem origin?_eq_iff_of_docks (h : HalfedgeId) (n : NodeId) : m₃.origin? h = some n ↔
    h = e.first ∧ n = n₁ ∨ h = e.second ∧ n = n₂ ∨ m.origin? h = some n := by
  rw [origin?_of_docks key docks₁ docks₂]
  have fresh : ∀ x : HalfedgeId, x.edge = e → m.origin? x = none := fun x new => by
    rw [origin?, halfedge?_of_fresh (new.trans key)]
    rfl
  by_cases first : h = e.first
  · subst first
    simp [fresh e.first rfl, first_ne_second, eq_comm]
  by_cases second : h = e.second
  · subst second
    simp [fresh e.second rfl, first, eq_comm]
  · simp [first, second]

include sound ne

theorem ring_of_docks {n : NodeId} {ring : Cycle HalfedgeId} (other₁ : n ≠ n₁) (other₂ : n ≠ n₂)
    (around : m.Ring n ring) : m₃.Ring n ring where
  toOrbit := by
    have starts : ∀ x ∈ ring, m.origin? x = some n := fun x mem => (around.mem_iff x).1 mem
    refine orbit_of_docks_second key docks₁ docks₂ sound ne
      (orbit_of_docks_first key docks₁ sound around.toOrbit ?_) ?_
    · intro x mem
      rw [starts x mem]
      exact fun same => other₁ (Option.some.inj same)
    · intro x mem
      refine .inr ⟨around.live mem, ?_⟩
      rw [starts x mem]
      exact fun same => other₂ (Option.some.inj same)
  mem_iff x := by
    rw [origin?_eq_iff_of_docks key docks₁ docks₂, around.mem_iff]
    simp [other₁, other₂]

theorem docked_first_of_docks : m.Docked e.first n₁ m₃ where
  ring_of_isolated record found isolated := by
    refine ⟨orbit_of_docks_second key docks₁ docks₂ sound ne
      (docks₁.orbit_of_isolated found isolated) ?_, fun x => ?_⟩
    · intro x mem
      exact .inl (by simpa using mem)
    · rw [origin?_eq_iff_of_docks key docks₁ docks₂]
      simp [ne, sound.isolated n₁ record found isolated x]
  ring record r l A u B found chosen around start first := by
    have around₁ : (m.withEdge n₁ n₂).Orbit ↑l :=
      around.toOrbit.of_keeps fun _ _ _ => Follows.withEdge
    have first₁ : (m.withEdge n₁ n₂).FirstFree l A u B := first.congr fun a mem =>
      free_withEdge (edge_ne_nextKey (h := a) (around.live mem))
    have members : ∀ x, x ∈ A ++ u :: e.first :: B ↔ x = e.first ∨ m.origin? x = some n₁ := by
      intro x
      rw [← around.mem_iff, first.split]
      simp only [List.mem_append, List.mem_cons, Cycle.mem_coe_iff]
      tauto
    refine ⟨orbit_of_docks_second key docks₁ docks₂ sound ne
      (docks₁.orbit_of_firstFree found chosen around₁ start first₁) ?_, fun x => ?_⟩
    · intro x mem
      refine ((members x).1 mem).imp id fun starts => ⟨containsHalfedge_of_origin? starts, ?_⟩
      rw [starts]
      exact fun same => ne (Option.some.inj same)
    · rw [origin?_eq_iff_of_docks key docks₁ docks₂]
      simpa [ne] using members x

theorem docked_second_of_docks : m.Docked e.second n₂ m₃ where
  ring_of_isolated record found isolated := by
    have found₂ : m₂.node? n₂ = some record := by
      rw [docks₁.node?, if_neg ne.symm]
      exact found
    refine ⟨docks₂.orbit_of_isolated found₂ isolated, fun x => ?_⟩
    rw [origin?_eq_iff_of_docks key docks₁ docks₂]
    simp [ne.symm, sound.isolated n₂ record found isolated x]
  ring record r l A u B found chosen around start first := by
    have found₂ : m₂.node? n₂ = some record := by
      rw [docks₁.node?, if_neg ne.symm]
      exact found
    have around₂ : m₂.Orbit ↑l := by
      apply orbit_of_docks_first key docks₁ sound around.toOrbit
      intro x mem
      rw [(around.mem_iff x).1 mem]
      exact fun same => ne (Option.some.inj same).symm
    have first₂ : m₂.FirstFree l A u B := first.congr fun a mem => by
      rw [Free, docks₁.faceOf?]
      exact free_withEdge (edge_ne_nextKey (h := a) (around.live mem))
    refine ⟨docks₂.orbit_of_firstFree found₂ chosen around₂ start first₂, fun x => ?_⟩
    rw [origin?_eq_iff_of_docks key docks₁ docks₂, ← around.mem_iff, first.split]
    simp only [List.mem_append, List.mem_cons, Cycle.mem_coe_iff, ne.symm, and_false, and_true,
      false_or]
    tauto

omit sound ne in
theorem keeps_faced_of_docks : m.Keeps m₃ fun g => m.Free g.pair := by
  intro g h faced follows
  have old := edge_ne_nextKey follows.live_left
  have faced₁ : ¬ (m.withEdge n₁ n₂).Free g.pair := fun free =>
    faced ((free_withEdge (h := g.pair) old).1 free)
  have freeOf : ∀ x : HalfedgeId, x.edge = e → (m.withEdge n₁ n₂).Free x := fun x new => by
    rw [Free, faceOf?_withEdge, if_pos (new.trans key)]
  have follows₂ := docks₁.keeps_faced (freeOf e.first.pair rfl) g h faced₁ follows.withEdge
  refine docks₂.keeps_faced ?_ g h ?_ follows₂
  · rw [Free, docks₁.faceOf?]
    exact freeOf e.second.pair rfl
  · show ¬ m₂.faceOf? g.pair = some none
    rwa [docks₁.faceOf?]

omit sound ne key in
theorem edgeCount_of_docks : m₃.edgeCount = m.edgeCount + 1 := by
  have same : ∀ e', m₃.edges.contains e' = (m.withEdge n₁ n₂).edges.contains e' := fun e' =>
    (docks₂.containsEdge e').trans (docks₁.containsEdge e')
  rw [edgeCount, SlotStore.size_eq_of_contains same]
  exact m.edges.size_insert _

omit key docks₂ ne in
theorem not_interior_first_of_docks : ¬ m.Interior n₁ := by
  rintro ⟨⟨h, starts⟩, faced⟩
  rcases sound.exists_representative starts with ⟨record, r, ring, found, chosen, around, mem⟩
  obtain ⟨u, uMem, free⟩ := docks₁.exists_free
    (around.toOrbit.of_keeps fun _ _ _ => Follows.withEdge) found chosen mem
  have old : u.pair.edge ≠ m.edges.nextKey := edge_ne_nextKey (h := u) (around.live uMem)
  exact faced u ((around.mem_iff u).1 uMem) ((free_withEdge old).1 free)

theorem not_interior_second_of_docks : ¬ m.Interior n₂ := by
  rintro ⟨⟨h, starts⟩, faced⟩
  rcases sound.exists_representative starts with ⟨record, r, ring, found, chosen, around, mem⟩
  have around₂ : m₂.Orbit ring := by
    apply orbit_of_docks_first key docks₁ sound around.toOrbit
    intro x mem
    rw [(around.mem_iff x).1 mem]
    exact fun same => ne (Option.some.inj same).symm
  have found₂ : m₂.node? n₂ = some record := by
    rw [docks₁.node?, if_neg ne.symm]
    exact found
  rcases docks₂.exists_free around₂ found₂ chosen mem with ⟨u, uMem, free⟩
  rw [Free, docks₁.faceOf?] at free
  have old : u.pair.edge ≠ m.edges.nextKey := edge_ne_nextKey (h := u) (around.live uMem)
  exact faced u ((around.mem_iff u).1 uMem) ((free_withEdge old).1 free)

omit docks₁ docks₂ key ne in
/-- The ring that a half-edge entered, read such that it comes last, is the old ring without it. -/
theorem Docked.exists_ring_concat {h : HalfedgeId} {n : NodeId} (docked : m.Docked h n m₃)
    (live : m.containsNode n = true) (room : ¬ m.Interior n) :
    ∃ l : List HalfedgeId, m.Ring n ↑l ∧ m₃.Ring n ↑(l ++ [h]) := by
  rcases Option.isSome_iff_exists.1 live with ⟨record, found⟩
  cases chosen : record.halfedge with
  | none =>
    rcases sound.exists_ring n with ⟨ring, around⟩
    induction ring with
    | nil => exact ⟨[], around, docked.ring_of_isolated record found chosen⟩
    | cons a l _ =>
      exact absurd ((around.mem_iff a).1 (by simp)) (sound.isolated n record found chosen a)
  | some r =>
    rcases sound.exists_firstFree_of_room found chosen room with ⟨l, A, u, B, around, start, first⟩
    refine ⟨B ++ (A ++ [u]), ?_, ?_⟩
    · rw [← Cycle.coe_append_comm, List.append_assoc, List.singleton_append, ← first.split]
      exact around
    · have entered := docked.ring record r l A u B found chosen around start first
      rw [List.append_assoc, ← Cycle.coe_append_comm]
      simpa using entered

omit docks₁ docks₂ key ne in
/-- A docked half-edge completes a ring. -/
theorem Docked.exists_ring {h : HalfedgeId} {n : NodeId} (docked : m.Docked h n m₃)
    (live : m.containsNode n = true) (room : ¬ m.Interior n) : ∃ ring, m₃.Ring n ring := by
  rcases docked.exists_ring_concat sound live room with ⟨l, -, around⟩
  exact ⟨_, around⟩

theorem sound_of_docks (live₁ : m.containsNode n₁ = true) (live₂ : m.containsNode n₂ = true) :
    m₃.Sound where
  origin_live h n start := by
    have live : m.containsNode n = true := by
      rcases (origin?_eq_iff_of_docks key docks₁ docks₂ h n).1 start with
        ⟨-, rfl⟩ | ⟨-, rfl⟩ | start
      · exact live₁
      · exact live₂
      · exact sound.origin_live h n start
    rw [containsNode, node?_of_docks docks₁ docks₂ ne]
    simpa [containsNode] using live
  ends_ne h n start finish := by
    rw [origin?_eq_iff_of_docks key docks₁ docks₂] at start finish
    have fresh : ∀ x : HalfedgeId, x.edge = e → m.origin? x ≠ some n := fun x new start =>
      edge_ne_nextKey (containsHalfedge_of_origin? start) (new.trans key)
    rcases start with ⟨rfl, rfl⟩ | ⟨rfl, rfl⟩ | start
    · rcases finish with ⟨same, -⟩ | ⟨-, same⟩ | finish
      · exact first_ne_second e same.symm
      · exact ne same
      · exact fresh _ rfl finish
    · rcases finish with ⟨-, same⟩ | ⟨same, -⟩ | finish
      · exact ne same.symm
      · exact first_ne_second e same
      · exact fresh _ rfl finish
    · have old : h.pair.edge ≠ e := fun new => fresh h new start
      rcases finish with ⟨same, -⟩ | ⟨same, -⟩ | finish
      · exact old (edge_eq_iff.2 (.inl same))
      · exact old (edge_eq_iff.2 (.inr same))
      · exact sound.ends_ne h n start finish
  exists_ring n := by
    by_cases first : n = n₁
    · subst first
      exact (docked_first_of_docks sound ne key docks₁ docks₂).exists_ring sound live₁
        (not_interior_first_of_docks sound docks₁)
    by_cases second : n = n₂
    · subst second
      exact (docked_second_of_docks sound ne key docks₁ docks₂).exists_ring sound live₂
        (not_interior_second_of_docks sound ne key docks₁ docks₂)
    · rcases sound.exists_ring n with ⟨ring, around⟩
      exact ⟨ring, ring_of_docks sound ne key docks₁ docks₂ first second around⟩
  isolated n record found isolated h start := by
    rw [node?_of_docks docks₁ docks₂ ne] at found
    rcases Option.map_eq_some_iff.1 found with ⟨record, found', rfl⟩
    rcases Option.or_eq_none_iff.1 isolated with ⟨alone, unadopted⟩
    rcases (origin?_eq_iff_of_docks key docks₁ docks₂ h n).1 start with
      ⟨-, rfl⟩ | ⟨-, rfl⟩ | start
    · simp at unadopted
    · simp [ne.symm] at unadopted
    · exact sound.isolated n record found' alone h start
  representative n record h found chosen := by
    rw [node?_of_docks docks₁ docks₂ ne] at found
    rcases Option.map_eq_some_iff.1 found with ⟨record, found', rfl⟩
    rw [origin?_eq_iff_of_docks key docks₁ docks₂]
    rcases Option.or_eq_some_iff.1 chosen with chosen | ⟨-, chosen⟩
    · exact .inr (.inr (sound.representative n record h found' chosen))
    by_cases first : n = n₁
    · rw [if_pos first] at chosen
      exact .inl ⟨(Option.some.inj chosen).symm, first⟩
    by_cases second : n = n₂
    · rw [if_neg first, if_pos second] at chosen
      exact .inr (.inl ⟨(Option.some.inj chosen).symm, second⟩)
    · simp [first, second] at chosen
  face_live h f reports := by
    rw [faceOf?_of_docks key docks₁ docks₂] at reports
    rw [containsFace, face?, docks₂.faces, docks₁.faces]
    by_cases new : h.edge = e
    · simp [new] at reports
    · rw [if_neg new] at reports
      exact sound.face_live h f reports
  triangle f record found := by
    rw [face?, docks₂.faces, docks₁.faces] at found
    rcases sound.triangle f record found with ⟨t, first, triangle⟩
    refine ⟨t, first, (keeps_faced_of_docks key docks₁ docks₂).triangle sound triangle fun h => ?_⟩
    rw [faceOf?_of_docks key docks₁ docks₂]
    by_cases new : h.edge = e
    · have dead : m.faceOf? h = none := by
        rw [faceOf?, halfedge?_of_fresh (new.trans key)]
        rfl
      simp [new, dead]
    · rw [if_neg new]

theorem addedEdge_of_docks (live₁ : m.containsNode n₁ = true) (live₂ : m.containsNode n₂ = true) :
    m.AddedEdge n₁ n₂ e m₃ where
  sound := sound_of_docks sound ne key docks₁ docks₂ live₁ live₂
  key := key
  faces := docks₂.faces.trans docks₁.faces
  edgeCount := edgeCount_of_docks docks₁ docks₂
  edgeGenerations := (docks₂.generationAt.trans docks₁.generationAt).trans
    (m.edges.generationAt_insert _)
  node? := node?_of_docks docks₁ docks₂ ne
  origin? := origin?_of_docks key docks₁ docks₂
  faceOf? := faceOf?_of_docks key docks₁ docks₂
  keeps_faced := keeps_faced_of_docks key docks₁ docks₂
  ring_of_ne _ _ other₁ other₂ around :=
    ring_of_docks sound ne key docks₁ docks₂ other₁ other₂ around
  docked₁ := docked_first_of_docks sound ne key docks₁ docks₂
  docked₂ := docked_second_of_docks sound ne key docks₁ docks₂

end Docked

end Mesh

end PlanarMesh
