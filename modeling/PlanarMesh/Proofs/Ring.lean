import PlanarMesh.Mesh.Incidence
import PlanarMesh.Proofs.CyclicOrder
import PlanarMesh.Proofs.Storage.Generations

/-!
# Rings

The half-edges that start at a node, in their order around it, form the `Ring` of the node.
Both pointers of a half-edge are read off rings: `Follows m g h` says that `h` comes right
after `g` around the node where both start, that is, `h` follows the twin of `g` on its loop
and the twin precedes `h` on it.  So a mesh whose nodes all have rings has inverse `next` and
`prev`, and what a splice does to these pointers is what it does to rings.

`Mesh.link` sets one such pair of pointers.  It leaves every ring alone in which neither of
the two places occurs (`Follows.link`).
-/

namespace PlanarMesh

namespace Mesh

/-! ## Fields of half-edges -/

/-- The half-edge before `h` on its loop. -/
def prev? (m : Mesh) (h : HalfedgeId) : Option HalfedgeId :=
  (m.halfedge? h).map Halfedge.prev

/-- The node at which `h` starts. -/
def origin? (m : Mesh) (h : HalfedgeId) : Option NodeId :=
  (m.halfedge? h).map Halfedge.origin

/-- The face that `h` reports, `some none` on the boundary. -/
def faceOf? (m : Mesh) (h : HalfedgeId) : Option (Option FaceId) :=
  (m.halfedge? h).map Halfedge.face

/-- `h` is a live half-edge without a face. -/
def Free (m : Mesh) (h : HalfedgeId) : Prop :=
  m.faceOf? h = some none

instance (m : Mesh) (h : HalfedgeId) : Decidable (m.Free h) :=
  inferInstanceAs (Decidable (m.faceOf? h = some none))

/-- What a change of `h` does to a field of `x`. -/
theorem field_modifyHalfedge {α : Type} (m : Mesh) (h x : HalfedgeId) (f : Halfedge → Halfedge)
    (field : Halfedge → α) :
    ((m.modifyHalfedge h f).halfedge? x).map field =
      if x = h then (m.halfedge? h).map (field ∘ f) else (m.halfedge? x).map field := by
  rw [halfedge?_modifyHalfedge]
  split
  · exact Option.map_map ..
  · rfl

/-- Reading a field of a half-edge is checked by the half-edge alone. -/
theorem field_eq_orInvalid {α : Type} (m : Mesh) (h : HalfedgeId) (field : Halfedge → α) :
    (return field (← m.halfedge h)) =
      orInvalid (.invalidHalfedge h) ((m.halfedge? h).map field) := by
  unfold halfedge
  cases m.halfedge? h <;> rfl

theorem position_eq_orInvalid (m : Mesh) (n : NodeId) :
    m.position n = orInvalid (.invalidNode n) ((m.node? n).map Node.position) := by
  unfold position node
  cases m.node? n <;> rfl

theorem next_eq_orInvalid (m : Mesh) (h : HalfedgeId) :
    m.next h = orInvalid (.invalidHalfedge h) (m.next? h) :=
  field_eq_orInvalid m h Halfedge.next

theorem prev_eq_orInvalid (m : Mesh) (h : HalfedgeId) :
    m.prev h = orInvalid (.invalidHalfedge h) (m.prev? h) :=
  field_eq_orInvalid m h Halfedge.prev

theorem origin_eq_orInvalid (m : Mesh) (h : HalfedgeId) :
    m.origin h = orInvalid (.invalidHalfedge h) (m.origin? h) :=
  field_eq_orInvalid m h Halfedge.origin

theorem faceOf_eq_orInvalid (m : Mesh) (h : HalfedgeId) :
    m.faceOf h = orInvalid (.invalidHalfedge h) (m.faceOf? h) :=
  field_eq_orInvalid m h Halfedge.face

theorem isBoundary_eq_orInvalid (m : Mesh) (h : HalfedgeId) :
    m.isBoundary h =
      orInvalid (.invalidHalfedge h) ((m.faceOf? h).map fun face => face.isNone) := by
  rw [faceOf?, Option.map_map]
  exact field_eq_orInvalid m h Halfedge.isBoundary

section Readings

variable {m : Mesh} {h g : HalfedgeId} {n : NodeId}

theorem next_eq_ok_iff : m.next h = .ok g ↔ m.next? h = some g := by
  rw [next_eq_orInvalid, orInvalid_eq_ok_iff]

theorem prev_eq_ok_iff : m.prev h = .ok g ↔ m.prev? h = some g := by
  rw [prev_eq_orInvalid, orInvalid_eq_ok_iff]

theorem origin_eq_ok_iff : m.origin h = .ok n ↔ m.origin? h = some n := by
  rw [origin_eq_orInvalid, orInvalid_eq_ok_iff]

theorem target_eq_ok_iff : m.target h = .ok n ↔ m.origin? h.pair = some n :=
  origin_eq_ok_iff

theorem faceOf_eq_ok_iff {face : Option FaceId} :
    m.faceOf h = .ok face ↔ m.faceOf? h = some face := by
  rw [faceOf_eq_orInvalid, orInvalid_eq_ok_iff]

theorem isBoundary_eq_true_iff : m.isBoundary h = .ok true ↔ m.Free h := by
  rw [isBoundary_eq_orInvalid, orInvalid_eq_ok_iff, Free]
  cases m.faceOf? h with
  | none => simp
  | some face => cases face <;> simp

end Readings

/-! ## Live records -/

theorem containsNode_of_position {m : Mesh} {n : NodeId} {p : Point}
    (placed : m.position n = .ok p) : m.containsNode n = true := by
  rw [position_eq_orInvalid, orInvalid_eq_ok_iff] at placed
  rcases Option.map_eq_some_iff.1 placed with ⟨record, found, -⟩
  exact Option.isSome_iff_exists.2 ⟨record, found⟩

theorem exists_position {m : Mesh} {n : NodeId} (live : m.containsNode n = true) :
    ∃ p, m.position n = .ok p := by
  rcases Option.isSome_iff_exists.1 live with ⟨record, found⟩
  exact ⟨record.position, by rw [position_eq_orInvalid, found]; rfl⟩

theorem containsHalfedge_iff_origin? {m : Mesh} {h : HalfedgeId} :
    m.containsHalfedge h = true ↔ ∃ n, m.origin? h = some n := by
  rw [containsHalfedge, Option.isSome_iff_exists]
  simp [origin?]

theorem containsHalfedge_of_origin? {m : Mesh} {h : HalfedgeId} {n : NodeId}
    (start : m.origin? h = some n) : m.containsHalfedge h = true :=
  containsHalfedge_iff_origin?.2 ⟨n, start⟩

theorem containsHalfedge_iff_faceOf? {m : Mesh} {h : HalfedgeId} :
    m.containsHalfedge h = true ↔ ∃ face, m.faceOf? h = some face := by
  rw [containsHalfedge, Option.isSome_iff_exists]
  simp [faceOf?]

theorem containsHalfedge_iff_next? {m : Mesh} {h : HalfedgeId} :
    m.containsHalfedge h = true ↔ ∃ g, m.next? h = some g := by
  rw [containsHalfedge, Option.isSome_iff_exists]
  simp [next?]

theorem containsHalfedge_iff_prev? {m : Mesh} {h : HalfedgeId} :
    m.containsHalfedge h = true ↔ ∃ g, m.prev? h = some g := by
  rw [containsHalfedge, Option.isSome_iff_exists]
  simp [prev?]

theorem containsHalfedge_eq_containsEdge (m : Mesh) (h : HalfedgeId) :
    m.containsHalfedge h = m.containsEdge h.edge := by
  simp [containsHalfedge, containsEdge, halfedge?]

/-! ## Dead records -/

section Dead

variable {m : Mesh}

theorem node_of_dead {n : NodeId} (dead : m.containsNode n = false) :
    m.node n = .error (.invalidNode n) := by
  have missing : m.node? n = none := by simpa [containsNode] using dead
  rw [node, missing]
  rfl

theorem edge_of_dead {e : EdgeId} (dead : m.containsEdge e = false) :
    m.edge e = .error (.invalidEdge e) := by
  have missing : m.edge? e = none := by simpa [containsEdge] using dead
  rw [edge, missing]
  rfl

theorem halfedge_of_dead {h : HalfedgeId} (dead : m.containsHalfedge h = false) :
    m.halfedge h = .error (.invalidHalfedge h) := by
  have missing : m.halfedge? h = none := by simpa [containsHalfedge] using dead
  rw [halfedge, missing]
  rfl

theorem face_of_dead {f : FaceId} (dead : m.containsFace f = false) :
    m.face f = .error (.invalidFace f) := by
  have missing : m.face? f = none := by simpa [containsFace] using dead
  rw [face, missing]
  rfl

end Dead

/-! ## The same live edges -/

/-- Meshes in which the same half-edges start at nodes have the same live edges. -/
theorem containsEdge_eq_of_origin? {m m' : Mesh} (same : ∀ h, m'.origin? h = m.origin? h)
    (e : EdgeId) : m'.containsEdge e = m.containsEdge e := by
  have live : m'.containsHalfedge e.first = m.containsHalfedge e.first := by
    rw [Bool.eq_iff_iff, containsHalfedge_iff_origin?, containsHalfedge_iff_origin?, same]
  rwa [containsHalfedge_eq_containsEdge, containsHalfedge_eq_containsEdge] at live

theorem edgeCount_eq_of_origin? {m m' : Mesh} (same : ∀ h, m'.origin? h = m.origin? h) :
    m'.edgeCount = m.edgeCount :=
  SlotStore.size_eq_of_contains (containsEdge_eq_of_origin? same)

/-- `h` leads from the node `n` to the node `n'`. -/
structure Leads (m : Mesh) (h : HalfedgeId) (n n' : NodeId) : Prop where
  start : m.origin? h = some n
  finish : m.origin? h.pair = some n'

namespace Leads

variable {m m' : Mesh} {g h : HalfedgeId} {n n' k k' : NodeId}

theorem reads (leads : m.Leads h n n') : m.origin h = .ok n ∧ m.target h = .ok n' :=
  ⟨origin_eq_ok_iff.2 leads.start, target_eq_ok_iff.2 leads.finish⟩

theorem pair (leads : m.Leads h n n') : m.Leads h.pair n' n :=
  ⟨leads.finish, by rw [HalfedgeId.pair_pair, leads.start]⟩

theorem live (leads : m.Leads h n n') : m.containsHalfedge h = true :=
  containsHalfedge_of_origin? leads.start

theorem eq_start (leads : m.Leads h n n') (start : m.origin? h = some k) : n = k :=
  Option.some.inj (leads.start.symm.trans start)

theorem eq_finish (leads : m.Leads h n n') (finish : m.origin? h.pair = some k) : n' = k :=
  Option.some.inj (leads.finish.symm.trans finish)

theorem ne_of_start (leads : m.Leads g n n') (leads' : m.Leads h k k') (other : n ≠ k) :
    g ≠ h := by
  rintro rfl
  exact other (leads.eq_start leads'.start)

theorem ne_of_finish (leads : m.Leads g n n') (leads' : m.Leads h k k') (other : n' ≠ k') :
    g ≠ h := by
  rintro rfl
  exact other (leads.eq_finish leads'.finish)

theorem of_origin? (leads : m.Leads h n n') (same : ∀ x, m'.origin? x = m.origin? x) :
    m'.Leads h n n' :=
  ⟨(same h).trans leads.start, (same h.pair).trans leads.finish⟩

end Leads

/-- Half-edges with the same fields are the same record. -/
theorem halfedge?_ext {m m' : Mesh} {h : HalfedgeId} (origin : m'.origin? h = m.origin? h)
    (next : m'.next? h = m.next? h) (prev : m'.prev? h = m.prev? h)
    (face : m'.faceOf? h = m.faceOf? h) : m'.halfedge? h = m.halfedge? h := by
  unfold origin? next? prev? faceOf? at *
  cases found : m.halfedge? h with
  | none => simpa [found] using origin
  | some record =>
    cases found' : m'.halfedge? h with
    | none => simp [found, found'] at origin
    | some record' =>
      cases record
      cases record'
      simp_all

/-! ## Neighbours around a node -/

/-- `h` comes right after `g` around the node where both start. -/
def Follows (m : Mesh) (g h : HalfedgeId) : Prop :=
  m.next? g.pair = some h ∧ m.prev? h = some g.pair

theorem Follows.right_unique {m : Mesh} {g h h' : HalfedgeId} (first : m.Follows g h)
    (second : m.Follows g h') : h = h' :=
  Option.some.inj (first.1.symm.trans second.1)

theorem Follows.left_unique {m : Mesh} {g g' h : HalfedgeId} (first : m.Follows g h)
    (second : m.Follows g' h) : g = g' :=
  HalfedgeId.pair_injective (Option.some.inj (first.2.symm.trans second.2))

theorem Follows.live_left {m : Mesh} {g h : HalfedgeId} (follows : m.Follows g h) :
    m.containsHalfedge g = true := by
  rw [← containsHalfedge_pair]
  exact containsHalfedge_iff_next?.2 ⟨h, follows.1⟩

theorem Follows.live_right {m : Mesh} {g h : HalfedgeId} (follows : m.Follows g h) :
    m.containsHalfedge h = true :=
  containsHalfedge_iff_prev?.2 ⟨g.pair, follows.2⟩

/-- Each member of the cycle is followed by the next one. -/
structure Orbit (m : Mesh) (ring : Cycle HalfedgeId) : Prop where
  nodup : ring.Nodup
  chain : ring.Chain m.Follows

namespace Orbit

variable {m m' : Mesh} {ring : Cycle HalfedgeId}

theorem follows (orbit : m.Orbit ring) {g h : HalfedgeId} (adjacent : ring.Adjacent g h) :
    m.Follows g h :=
  orbit.chain.rel adjacent

/-- On an orbit, what follows is what comes next. -/
theorem follows_iff (orbit : m.Orbit ring) {g h : HalfedgeId} (mem : g ∈ ring) :
    m.Follows g h ↔ ring.Adjacent g h := by
  constructor
  · intro follows
    rcases Cycle.exists_adjacent mem with ⟨next, adjacent⟩
    rwa [follows.right_unique (orbit.follows adjacent)]
  · exact orbit.follows

theorem live (orbit : m.Orbit ring) {h : HalfedgeId} (mem : h ∈ ring) :
    m.containsHalfedge h = true := by
  rcases Cycle.exists_adjacent mem with ⟨g, adjacent⟩
  exact (orbit.follows adjacent).live_left

theorem mem_of_follows_left (orbit : m.Orbit ring) {g h : HalfedgeId} (mem : g ∈ ring)
    (follows : m.Follows g h) : h ∈ ring :=
  ((orbit.follows_iff mem).1 follows).mem_right

theorem mem_of_follows_right (orbit : m.Orbit ring) {g h : HalfedgeId} (mem : h ∈ ring)
    (follows : m.Follows g h) : g ∈ ring := by
  rcases Cycle.exists_adjacent_to mem with ⟨before, adjacent⟩
  rw [follows.left_unique (orbit.follows adjacent)]
  exact adjacent.mem_left

/-- An orbit stays an orbit where no pointer at its members is moved. -/
theorem of_keeps (orbit : m.Orbit ring)
    (keeps : ∀ g h, g ∈ ring → m.Follows g h → m'.Follows g h) : m'.Orbit ring where
  nodup := orbit.nodup
  chain := Cycle.chain_of_adjacent fun g h adjacent =>
    keeps g h adjacent.mem_left (orbit.follows adjacent)

end Orbit

/-- Orbits with a common member are the same. -/
theorem Orbit.unique {m : Mesh} {ring ring' : Cycle HalfedgeId} {a : HalfedgeId}
    (orbit : m.Orbit ring) (orbit' : m.Orbit ring') (mem : a ∈ ring) (mem' : a ∈ ring') :
    ring = ring' := by
  have functional : ∀ g h h', m.Follows g h → m.Follows g h' → h = h' := fun _ _ _ first second =>
    first.right_unique second
  exact Cycle.eq_of_chain functional orbit.nodup orbit'.nodup orbit.chain orbit'.chain mem mem'

/-- An orbit is written in one way only from a given member on. -/
theorem Orbit.eq_of_head? {m : Mesh} {l l' : List HalfedgeId} {a : HalfedgeId}
    (orbit : m.Orbit ↑l) (orbit' : m.Orbit ↑l') (start : l.head? = some a)
    (start' : l'.head? = some a) : l = l' := by
  rcases List.head?_eq_some_iff.1 start with ⟨l, rfl⟩
  rcases List.head?_eq_some_iff.1 start' with ⟨l', rfl⟩
  have same := orbit.unique orbit' (a := a) (by simp) (by simp)
  rw [Cycle.coe_cons_injective orbit.nodup same]

/-- The half-edges at `n`, in their order around it. -/
structure Ring (m : Mesh) (n : NodeId) (ring : Cycle HalfedgeId) : Prop
    extends m.Orbit ring where
  mem_iff : ∀ h, h ∈ ring ↔ m.origin? h = some n

/-- A ring stays a ring where no pointer at its members is moved. -/
theorem Ring.of_keeps {m m' : Mesh} {n : NodeId} {ring : Cycle HalfedgeId}
    (around : m.Ring n ring) (starts : ∀ h, m'.origin? h = some n ↔ m.origin? h = some n)
    (keeps : ∀ g h, g ∈ ring → m.Follows g h → m'.Follows g h) : m'.Ring n ring where
  toOrbit := around.toOrbit.of_keeps keeps
  mem_iff h := (around.mem_iff h).trans (starts h).symm

/-- A node has one ring. -/
theorem Ring.unique {m : Mesh} {n : NodeId} {ring ring' : Cycle HalfedgeId}
    (around : m.Ring n ring) (around' : m.Ring n ring') : ring = ring' := by
  have same : ∀ h, h ∈ ring ↔ h ∈ ring' := fun h =>
    (around.mem_iff h).trans (around'.mem_iff h).symm
  induction ring with
  | nil =>
    induction ring' with
    | nil => rfl
    | cons a l _ => exact absurd ((same a).2 (by simp)) (by simp)
  | cons a l _ =>
    have mem : a ∈ ((a :: l : List HalfedgeId) : Cycle HalfedgeId) := by simp
    exact around.toOrbit.unique around'.toOrbit mem ((same a).1 mem)

/-! ## Setting one pair of pointers -/

/-- The mesh in which `g` follows `h` on its loop. -/
def link (m : Mesh) (h g : HalfedgeId) : Mesh :=
  (m.modifyHalfedge h fun record => { record with next := g }).modifyHalfedge g
    fun record => { record with prev := h }

variable (m : Mesh) (h g x : HalfedgeId)

theorem next?_link :
    (m.link h g).next? x = if x = h then (m.next? h).map fun _ => g else m.next? x := by
  simp only [next?, link, field_modifyHalfedge, Option.map_map, Function.comp_def]
  by_cases source : x = h <;> by_cases target : x = g <;> simp_all

theorem prev?_link :
    (m.link h g).prev? x = if x = g then (m.prev? g).map fun _ => h else m.prev? x := by
  simp only [prev?, link, field_modifyHalfedge, Option.map_map, Function.comp_def]
  by_cases source : x = h <;> by_cases target : x = g <;> simp_all

@[simp]
theorem origin?_link : (m.link h g).origin? x = m.origin? x := by
  simp only [origin?, link, field_modifyHalfedge]
  by_cases source : x = h <;> by_cases target : x = g <;> simp_all [Function.comp_def]

@[simp]
theorem faceOf?_link : (m.link h g).faceOf? x = m.faceOf? x := by
  simp only [faceOf?, link, field_modifyHalfedge]
  by_cases source : x = h <;> by_cases target : x = g <;> simp_all [Function.comp_def]

@[simp]
theorem nodes_link : (m.link h g).nodes = m.nodes :=
  rfl

@[simp]
theorem faces_link : (m.link h g).faces = m.faces :=
  rfl

@[simp]
theorem generationAt_edges_link : (m.link h g).edges.generationAt = m.edges.generationAt := by
  simp [link, modifyHalfedge]

@[simp]
theorem containsEdge_link (e : EdgeId) : (m.link h g).containsEdge e = m.containsEdge e := by
  have same := fun s : SlotStore .edge Edge => fun f => s.contains_modify h.edge e f
  have same' := fun s : SlotStore .edge Edge => fun f => s.contains_modify g.edge e f
  simp only [SlotStore.contains] at same same'
  simp [link, modifyHalfedge, containsEdge, edge?, same, same']

@[simp]
theorem containsHalfedge_link :
    (m.link h g).containsHalfedge x = m.containsHalfedge x := by
  simp [containsHalfedge_eq_containsEdge]

variable {m h g x}

theorem follows_link (hLive : m.containsHalfedge h = true) (gLive : m.containsHalfedge g = true) :
    (m.link h.pair g).Follows h g := by
  rw [← containsHalfedge_pair] at hLive
  rcases containsHalfedge_iff_next?.1 hLive with ⟨next, hasNext⟩
  rcases containsHalfedge_iff_prev?.1 gLive with ⟨prev, hasPrev⟩
  constructor
  · rw [next?_link, if_pos rfl, hasNext]
    rfl
  · rw [prev?_link, if_pos rfl, hasPrev]
    rfl

/-- A link leaves alone what follows at other places. -/
theorem Follows.link {a b : HalfedgeId} (follows : m.Follows a b) (left : a ≠ h) (right : b ≠ g) :
    (m.link h.pair g).Follows a b := by
  constructor
  · rw [next?_link, if_neg fun same => left (HalfedgeId.pair_injective same)]
    exact follows.1
  · rw [prev?_link, if_neg right]
    exact follows.2

end Mesh

end PlanarMesh
