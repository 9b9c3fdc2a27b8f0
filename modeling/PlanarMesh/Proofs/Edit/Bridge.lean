import PlanarMesh.Proofs.Edit.Clear
import PlanarMesh.Proofs.Edit.Flap

/-!
# Bridges

When an edge without faces is removed, each of its ends keeps the rest of its ring (`Severed`).
A new node is then connected with both ends.  The two spokes bridge the gap that the edge has
left: there is room for them because the edge bordered no face, and each stands in the ring of
its end after some free place (`Bridged`).
-/

namespace PlanarMesh

namespace Mesh

/-- `l` is what is left in `m'` of the ring of `n` without `h`. -/
structure Severed (m : Mesh) (h : HalfedgeId) (n : NodeId) (l : List HalfedgeId) (m' : Mesh) :
    Prop where
  before : m.Ring n ↑(l ++ [h])
  after : m'.Ring n ↑l
  room : l ≠ [] → ∃ a ∈ l, m'.Free a.pair
  first : ∀ g, m.Follows h g → g ≠ h → l.head? = some g
  last : ∀ g, m.Follows g h → g ≠ h → l.getLast? = some g

theorem Ring.not_interior {m : Mesh} {n : NodeId} {l : List HalfedgeId} (around : m.Ring n ↑l)
    (room : l ≠ [] → ∃ a ∈ l, m.Free a.pair) : ¬ m.Interior n := by
  rintro ⟨⟨h, start⟩, faced⟩
  have mem : h ∈ l := (around.mem_iff h).2 start
  rcases room (List.ne_nil_of_mem mem) with ⟨a, aMem, free⟩
  exact faced a ((around.mem_iff a).1 aMem) free

namespace DroppedEdge

variable {m m' : Mesh} {e : EdgeId} (dropped : m.DroppedEdge e m') (sound : m.Sound)

include dropped

theorem free_of_free {h : HalfedgeId} (other : h.edge ≠ e) (free : m.Free h) : m'.Free h := by
  rw [Free, dropped.faceOf?, if_neg other]
  exact free

include sound

/-- The edge bordered no face, so what came before it around its end has a free twin. -/
theorem exists_severed {h : HalfedgeId} {n : NodeId} (side : h.edge = e)
    (start : m.origin? h = some n) (free : m.Free h) : ∃ l, m.Severed h n l m' := by
  rcases sound.exists_ring n with ⟨ring, around⟩
  rcases Cycle.exists_coe_concat ((around.mem_iff h).2 start) with ⟨l, rfl⟩
  have alone : l = [] → m.Follows h h := by
    rintro rfl
    exact around.follows (Cycle.adjacent_of_ends rfl rfl)
  refine ⟨l, around, dropped.ring n l h side around, ?_, ?_, ?_⟩
  · intro nonempty
    rcases (List.eq_nil_or_concat' l).resolve_left nonempty with ⟨l, a, rfl⟩
    have mem : a ∈ l ++ [a] := by simp
    have follows : m.Follows a h :=
      around.follows (Cycle.adjacent_append List.getLast?_concat rfl)
    have starts : m.origin? a = some n := (sound.origin?_of_follows follows).symm.trans start
    refine ⟨a, mem, dropped.free_of_free ?_ ((sound.free_iff follows).1 free)⟩
    rintro same
    rcases HalfedgeId.eq_or_eq_pair (show a.edge = h.edge from same.trans side.symm) with
      rfl | rfl
    · exact (List.disjoint_of_nodup_append around.nodup mem) (by simp)
    · exact sound.ends_ne h n start starts
  · intro g follows other
    cases l with
    | nil => exact absurd (follows.right_unique (alone rfl)) other
    | cons a l =>
      have next : m.Follows h a :=
        around.follows (Cycle.adjacent_of_ends List.getLast?_concat rfl)
      rw [follows.right_unique next]
      rfl
  · intro g follows other
    rcases List.eq_nil_or_concat' l with rfl | ⟨l, a, rfl⟩
    · exact absurd (follows.left_unique (alone rfl)) other
    · have before : m.Follows a h :=
        around.follows (Cycle.adjacent_append List.getLast?_concat rfl)
      rw [follows.left_unique before, List.getLast?_concat]

omit sound in
theorem containsNode (n : NodeId) : m'.containsNode n = m.containsNode n := by
  rw [Mesh.containsNode, ← Option.isSome_map (f := Node.position), dropped.position,
    Option.isSome_map]
  rfl

end DroppedEdge

/-! ## Open loops -/

/-- A loop of three half-edges of which the second and the third border no face. -/
structure Loop (m : Mesh) (h h₁ h₂ : HalfedgeId) (u v w : NodeId) : Prop where
  chain : m.Chain h h₁ h₂ u v w
  follows₁ : m.Follows h.pair h₁
  follows₂ : m.Follows h₁.pair h₂
  follows₃ : m.Follows h₂.pair h
  free₁ : m.Free h₁
  free₂ : m.Free h₂

/-- The loop of a face that is cleared. -/
theorem Cleared.loop {m m' : Mesh} {fs : List FaceId} {f : FaceId} {h h₁ h₂ : HalfedgeId}
    {u v w : NodeId} (cleared : m.Cleared fs m') (sound : m.Sound) (mem : f ∈ fs)
    (triangle : m.Triangle f ⟨h, h₁, h₂⟩) (chain : m.Chain h h₁ h₂ u v w) :
    m'.Loop h h₁ h₂ u v w where
  chain := chain.of_origin? cleared.origin?
  follows₁ := cleared.follows.2 (sound.follows_of_next? triangle.next_a)
  follows₂ := cleared.follows.2 (sound.follows_of_next? triangle.next_b)
  follows₃ := cleared.follows.2 (sound.follows_of_next? triangle.next_c)
  free₁ := cleared.free h₁ f mem triangle.faceOf?_b
  free₂ := cleared.free h₂ f mem triangle.faceOf?_c

namespace Loop

variable {m m' : Mesh} {h h₁ h₂ : HalfedgeId} {u v w : NodeId} {l : List HalfedgeId}
  (loop : m.Loop h h₁ h₂ u v w)

include loop

theorem last_of_severed (severed : m.Severed h u l m') : l.getLast? = some h₂.pair :=
  severed.last _ loop.follows₃ loop.chain.rotate.rotate.pair_ne

theorem first_of_severed (severed : m.Severed h.pair v l m') : l.head? = some h₁ :=
  severed.first _ loop.follows₁ loop.chain.pair_ne.symm

/-- The other two sides do not belong to the edge of the first. -/
theorem edge_ne : h₁.edge ≠ h.edge ∧ h₂.edge ≠ h.edge := by
  have chain := loop.chain
  constructor
  · intro same
    rcases HalfedgeId.eq_or_eq_pair same with same | same
    · exact (chain.side₁.ne_of_start chain.side₂ chain.ab) same.symm
    · exact chain.pair_ne same.symm
  · intro same
    rcases HalfedgeId.eq_or_eq_pair same with same | same
    · exact (chain.side₁.ne_of_start chain.side₃ chain.ca.symm) same.symm
    · exact chain.rotate.rotate.pair_ne (by rw [same, HalfedgeId.pair_pair])

end Loop

/-! ## Two spokes -/

/-- The new node `x` is connected with the ends of the removed edge. -/
structure Bridged (m : Mesh) (x n₁ n₂ : NodeId) (eA eB : EdgeId) (l₁ l₂ : List HalfedgeId) :
    Prop where
  sound : m.Sound
  hub : m.Hub x eA [eB.first]
  spoke₁ : m.Leads eA.first x n₁
  spoke₂ : m.Leads eB.first x n₂
  loose₁ : l₁ ≠ [] → m.Loose n₁ l₁ eA.second
  loose₂ : l₂ ≠ [] → m.Loose n₂ l₂ eB.second
  alone₁ : l₁ = [] → m.Seated n₁ l₁ eA.second
  alone₂ : l₂ = [] → m.Seated n₂ l₂ eB.second
  free : ∀ h : HalfedgeId, h.edge = eA ∨ h.edge = eB → m.Free h

section Spokes

variable {m m₁ m₂ m₃ m₄ : Mesh} {e eA eB : EdgeId} {n₁ n₂ x : NodeId} {l₁ l₂ : List HalfedgeId}
  {position : Point} (sound : m.Sound) (leads : m.Leads e.first n₁ n₂)
  (dropped : m.DroppedEdge e m₁) (severed₁ : m.Severed e.first n₁ l₁ m₁)
  (severed₂ : m.Severed e.second n₂ l₂ m₁) (node : m₁.AddedNode position x m₂)

include sound dropped node

theorem contains_of_origin? {h : HalfedgeId} {n : NodeId} (start : m.origin? h = some n) :
    m₂.containsNode n = true ∧ x ≠ n := by
  have live : m₁.containsNode n = true := by
    rw [dropped.containsNode]
    exact sound.origin_live h n start
  exact ⟨(node.grown dropped.sound).containsNode live, (node.ne_of_live live).symm⟩

include leads severed₁

theorem connectable_first : m₂.Connectable x n₁ where
  live₁ := Option.isSome_iff_exists.2 ⟨⟨position, none⟩, by rw [node.node?, if_pos rfl]⟩
  live₂ := (contains_of_origin? sound dropped node leads.start).1
  ne := (contains_of_origin? sound dropped node leads.start).2
  room₁ := not_interior_of_isolated (node.isolated dropped.sound)
  room₂ := (node.ring severed₁.after).not_interior fun nonempty => by
    rcases severed₁.room nonempty with ⟨a, mem, free⟩
    exact ⟨a, mem, (node.faceOf? _).trans free⟩

variable (spoke₁ : m₂.AddedEdge x n₁ eA m₃)

include spoke₁ severed₂

omit severed₁ in
/-- The other end of the edge has not noticed the first spoke. -/
theorem severed_of_spoke : m₃.Ring n₂ ↑l₂ ∧ (l₂ ≠ [] → ∃ a ∈ l₂, m₃.Free a.pair) := by
  have other := (contains_of_origin? sound dropped node leads.finish).2
  refine ⟨spoke₁.ring_of_ne n₂ _ other.symm (sound.ends_ne_of_leads leads).symm
    (node.ring severed₂.after), fun nonempty => ?_⟩
  rcases severed₂.room nonempty with ⟨a, mem, free⟩
  exact ⟨a, mem, spoke₁.free_of_free ((node.faceOf? _).trans free)⟩

omit severed₁ in
theorem connectable_second : m₃.Connectable x n₂ := by
  rcases contains_of_origin? sound dropped node leads.finish with ⟨live, ne⟩
  rcases severed_of_spoke sound leads dropped severed₂ node spoke₁ with ⟨around, room⟩
  exact (node.hub spoke₁).connectable ne ((spoke₁.grown node.sound).containsNode live)
    (around.not_interior room)

variable (spoke₂ : m₃.AddedEdge x n₂ eB m₄)

include spoke₂

theorem bridged : m₄.Bridged x n₁ n₂ eA eB l₁ l₂ := by
  have hubA := (contains_of_origin? sound dropped node leads.start).2
  rcases severed_of_spoke sound leads dropped severed₂ node spoke₁ with ⟨ring₂, room₂⟩
  constructor
  case sound => exact spoke₂.sound
  case hub => exact (node.hub spoke₁).of_added spoke₂
  case spoke₁ => exact (spoke₂.grown spoke₁.sound).leads spoke₁.leads
  case spoke₂ => exact spoke₂.leads
  case loose₁ =>
    intro nonempty
    rcases severed₁.room nonempty with ⟨a, mem, free⟩
    have loose := spoke₁.loose_end node.sound (node.ring severed₁.after)
      ⟨a, mem, (node.faceOf? _).trans free⟩
    exact spoke₂.loose_of_ne hubA.symm (sound.ends_ne_of_leads leads) loose
  case loose₂ =>
    intro nonempty
    exact spoke₂.loose_end spoke₁.sound ring₂ (room₂ nonempty)
  case alone₁ =>
    rintro rfl
    exact spoke₂.ring_of_ne n₁ _ hubA.symm (sound.ends_ne_of_leads leads)
      (spoke₁.seated_of_nil node.sound (node.ring severed₁.after)
        (contains_of_origin? sound dropped node leads.start).1)
  case alone₂ =>
    rintro rfl
    exact spoke₂.seated_of_nil spoke₁.sound ring₂ ((spoke₁.grown node.sound).containsNode
      (contains_of_origin? sound dropped node leads.finish).1)
  case free =>
    rintro h (new | new)
    · exact spoke₂.free_of_free (spoke₁.free_new new)
    · exact spoke₂.free_new new

omit sound severed₁ severed₂ in
/-- Other rings are as before. -/
theorem ring_of_spokes {n : NodeId} {ring : Cycle HalfedgeId} (hub : n ≠ x) (other₁ : n ≠ n₁)
    (other₂ : n ≠ n₂) (around : m.Ring n ring) : m₄.Ring n ring := by
  refine spoke₂.ring_of_ne n _ hub other₂ (spoke₁.ring_of_ne n _ hub other₁ (node.ring
    (dropped.ring_of_ne n ring (fun h mem same => ?_) around)))
  have start := (around.mem_iff h).1 mem
  rcases edge_eq_iff.1 same with rfl | rfl
  · exact other₁ (leads.eq_start start).symm
  · exact other₂ (leads.eq_finish start).symm

omit sound leads severed₁ severed₂ in
theorem leads_of_spokes {h : HalfedgeId} {a b : NodeId} (other : h.edge ≠ e)
    (old : m.Leads h a b) : m₄.Leads h a b := by
  have grown := ((node.grown dropped.sound).trans (spoke₁.grown node.sound)).trans
    (spoke₂.grown spoke₁.sound)
  refine grown.leads ⟨?_, ?_⟩
  · rw [dropped.origin?, if_neg other, old.start]
  · rw [dropped.origin?, if_neg (show h.pair.edge ≠ e from other), old.finish]

omit sound leads severed₁ severed₂ in
theorem free_of_spokes {h : HalfedgeId} (other : h.edge ≠ e) (free : m.Free h) : m₄.Free h :=
  spoke₂.free_of_free (spoke₁.free_of_free
    ((node.faceOf? h).trans (dropped.free_of_free other free)))

omit severed₁ severed₂ in
/-- On either side of the edge, an open loop is ready for a flap. -/
theorem exists_flap {h h₁ h₂ s t : HalfedgeId} {u v w : NodeId} (side : h.edge = e)
    (loop : m.Loop h h₁ h₂ u v w) (spokeS : m₄.Leads s x u) (spokeT : m₄.Leads t x v)
    (free_back : m₄.Free s.pair) (free_end : m₄.Free t) :
    ∃ l, m₄.Flap x u v w s t h₁ h₂ l := by
  have chain := loop.chain
  rcases loop.edge_ne with ⟨other₁, other₂⟩
  rw [side] at other₁ other₂
  have hub := (contains_of_origin? sound dropped node chain.side₃.start).2
  have apart : w ≠ n₁ ∧ w ≠ n₂ := by
    rcases edge_eq_iff.1 side with rfl | rfl
    · rw [leads.eq_start chain.side₁.start, leads.eq_finish chain.side₁.finish]
      exact ⟨chain.ca, chain.bc.symm⟩
    · rw [leads.eq_start chain.side₁.finish, leads.eq_finish chain.side₁.start]
      exact ⟨chain.bc.symm, chain.ca⟩
  rcases sound.exists_ring w with ⟨ring, around⟩
  have around' := ring_of_spokes leads dropped node spoke₁ spoke₂ hub.symm apart.1 apart.2 around
  have mem := (around.mem_iff h₁.pair).2 chain.side₂.finish
  have follows := around'.follows ((around.follows_iff mem).1 loop.follows₂)
  have side₂ := leads_of_spokes dropped node spoke₁ spoke₂ other₂ chain.side₃
  rcases spoke₂.sound.exists_gap follows side₂.start with ⟨l, gap, first, last⟩
  exact ⟨l, spoke₂.sound, spokeS, spokeT,
    leads_of_spokes dropped node spoke₁ spoke₂ other₁ chain.side₂, side₂, chain.ab, hub, gap, first,
    last, free_of_spokes dropped node spoke₁ spoke₂ other₁ loop.free₁,
    free_of_spokes dropped node spoke₁ spoke₂ other₂ loop.free₂, free_back, free_end⟩

end Spokes

end Mesh

end PlanarMesh
