import PlanarMesh.Proofs.Edit.Fringe

/-!
# Folding in the flaps

The new node on a split edge is a bridge between its ends, and each side of the edge that had a
face contributes a flap that is folded in at the bridge (`Rejoined`).  The bridge and each flap say
where the spokes come to stand at the ends of the edge (`Fringed`).  With flaps on both sides they
end up in the places of the sides of the edge, and every half-edge off the removed faces keeps its
record (`Restored.halfedge?`).
-/

namespace PlanarMesh

namespace Mesh

section Flaps

variable {m m' m₁ : Mesh} {x n₁ n₂ w w' : NodeId} {eA eB e' : EdgeId} {l₁ l₂ : List HalfedgeId}
  (bridged : m.Bridged x n₁ n₂ eA eB l₁ l₂)

include bridged

theorem Bridged.spread_first (spoke : m.AddedEdge x w e' m₁) :
    m₁.Spread x eA.first e'.first eB.first [] :=
  .ordered (bridged.hub.of_added spoke).ring

/-- Without a flap on the first side, the spoke to the apex comes to lie there. -/
theorem Bridged.spread_second (spoke : m.AddedEdge x w e' m₁) :
    m₁.Spread x eB.first e'.first eA.first [] :=
  .crossed (bridged.hub.of_added spoke).ring (bridged.hub.of_added spoke).free

/-- With a flap on the first side, the first room at the hub is on the other side. -/
theorem Bridged.spread_other {h₁ h₂ : HalfedgeId} {eW : EdgeId} {f₁ f₂ : FaceId}
    (folded : m.Folded x n₁ n₂ w eA.first eB.first h₁ h₂ l₁ l₂ [] eW f₁ f₂ m')
    (free : m'.Free eB.second) (spoke : m'.AddedEdge x w' e' m₁) :
    m₁.Spread x eB.first e'.first eA.first [eW.first] := by
  rcases bridged.hub.represented with ⟨record, found, chosen⟩
  have found' := (folded.grown.node? _ _ bridged.hub.starts).trans found
  have docked := spoke.docked₁.ring record eA.first _ [eA.first, eW.first] eB.first [] found' chosen
    folded.hub rfl ⟨rfl, by simpa using ⟨folded.not_free_start, folded.faced⟩, free⟩
  rw [Cycle.coe_append_comm] at docked
  exact .ordered docked

end Flaps

/-- With a face on both sides of the edge `e`, the spokes have taken the places of the sides of
`e` and everything else has come back to its place. -/
structure Restored (m₀ m : Mesh) (x n₁ n₂ : NodeId) (e eA eB : EdgeId) (l₁ l₂ : List HalfedgeId)
    (flanks : List (FaceId × Corners NodeId)) (m' : Mesh) : Prop where
  side₁ : m₀.Beside flanks e.first
  side₂ : m₀.Beside flanks e.second
  last₁ : ∃ g, l₁.getLast? = some g ∧ m₀.Beside flanks g.pair
  last₂ : ∃ g, l₂.getLast? = some g ∧ m₀.Beside flanks g.pair
  seated₁ : m'.Seated n₁ l₁ eA.second
  seated₂ : m'.Seated n₂ l₂ eB.second
  faceOf? : ∀ h, m.containsHalfedge h = true → h.edge ≠ eA → h.edge ≠ eB →
    ¬ m₀.Beside flanks h → m'.faceOf? h = m.faceOf? h

/-- `m'` is `m`, where the edge is gone and the new node is connected with its ends, with a flap
folded in for each face that the edge had in `m₀`. -/
structure Rejoined (m₀ m : Mesh) (x n₁ n₂ : NodeId) (e eA eB : EdgeId) (l₁ l₂ : List HalfedgeId)
    (flanks : List (FaceId × Corners NodeId)) (m' : Mesh) : Prop where
  refaced : ∃ news, m.Refaced x flanks news m'
  hub : ∃ (l : List HalfedgeId) (ends : List NodeId), m'.Ring x ↑l ∧
    List.Forall₂ (fun h n => m'.Leads h x n) l ends ∧
    ends.Perm (n₁ :: n₂ :: flanks.map fun flank => flank.2.c)
  fringed : m₀.Fringed m x n₁ n₂ e.first eA.first eB.first l₁ l₂ flanks m'
  restored : flanks.length = 2 → m₀.Restored m x n₁ n₂ e eA eB l₁ l₂ flanks m'

section Rejoined

variable {m₀ m m' m'' : Mesh} {x n₁ n₂ w w' : NodeId} {eA eB eW eW' : EdgeId}
  {l l₁ l₂ : List HalfedgeId} {e : EdgeId} {h₁ h₂ k₁ k₂ : HalfedgeId}
  {f f₁ f₂ f' f₁' f₂' : FaceId} (bridged : m.Bridged x n₁ n₂ eA eB l₁ l₂)

include bridged

theorem Bridged.rejoined_none (bare₁ : m₀.Free e.first) (bare₂ : m₀.Free e.second) :
    m₀.Rejoined m x n₁ n₂ e eA eB l₁ l₂ [] m where
  refaced := ⟨[], .refl bridged.sound x⟩
  hub := ⟨_, _, bridged.hub.ring, .cons bridged.spoke₁ (.cons bridged.spoke₂ .nil), .refl _⟩
  fringed := bridged.fringed bare₁ bare₂
  restored two := by simp at two

theorem Bridged.rejoined_first (triangle : m₀.Triangle f ⟨e.first, h₁, h₂⟩)
    (bare : m₀.Free e.second) (flap : m.Flap x n₁ n₂ w eA.first eB.first h₁ h₂ l)
    (nonempty : l₂ ≠ [])
    (folded : m.Folded x n₁ n₂ w eA.first eB.first h₁ h₂ l₁ l₂ [] eW f₁ f₂ m') :
    m₀.Rejoined m x n₁ n₂ e eA eB l₁ l₂ [(f, ⟨n₁, n₂, w⟩)] m' where
  refaced := ⟨_, folded.refaced f⟩
  hub := by
    have leads : ∀ {h n}, m.Leads h x n → m'.Leads h x n := folded.grown.leads
    exact ⟨_, _, folded.hub, .cons (leads bridged.spoke₁) (.cons folded.spoke
      (.cons (leads bridged.spoke₂) .nil)), .cons n₁ (.swap n₂ w [])⟩
  fringed := folded.fringed flap (bridged.loose₂ nonempty) (bridged.free _ (.inl rfl))
    (bridged.free _ (.inr rfl)) triangle bare
  restored two := by simp at two

theorem Bridged.rejoined_second (triangle : m₀.Triangle f ⟨e.second, h₁, h₂⟩)
    (bare : m₀.Free e.first) (flap : m.Flap x n₂ n₁ w eB.first eA.first h₁ h₂ l)
    (nonempty : l₁ ≠ [])
    (folded : m.Folded x n₂ n₁ w eB.first eA.first h₁ h₂ l₂ l₁ [] eW f₁ f₂ m') :
    m₀.Rejoined m x n₁ n₂ e eA eB l₁ l₂ [(f, ⟨n₂, n₁, w⟩)] m' where
  refaced := ⟨_, folded.refaced f⟩
  hub := by
    have leads : ∀ {h n}, m.Leads h x n → m'.Leads h x n := folded.grown.leads
    refine ⟨_, _, folded.hub, .cons (leads bridged.spoke₂) (.cons folded.spoke
      (.cons (leads bridged.spoke₁) .nil)), ?_⟩
    exact (List.Perm.cons n₂ (.swap n₁ w [])).trans (.swap n₁ n₂ [w])
  fringed := (folded.fringed (h := e.second) flap (bridged.loose₁ nonempty)
    (bridged.free _ (.inr rfl)) (bridged.free _ (.inl rfl)) triangle bare).symm
  restored two := by simp at two

theorem Bridged.rejoined_both (triangle₁ : m₀.Triangle f ⟨e.first, h₁, h₂⟩)
    (triangle₂ : m₀.Triangle f' ⟨e.second, k₁, k₂⟩) (last₁ : l₁.getLast? = some h₂.pair)
    (last₂ : l₂.getLast? = some k₂.pair)
    (folded₁ : m.Folded x n₁ n₂ w eA.first eB.first h₁ h₂ l₁ l₂ [] eW f₁ f₂ m')
    (folded₂ : m'.Folded x n₂ n₁ w' eB.first eA.first k₁ k₂ l₂ l₁ [eW.first] eW' f₁' f₂' m'') :
    m₀.Rejoined m x n₁ n₂ e eA eB l₁ l₂ [(f, ⟨n₁, n₂, w⟩), (f', ⟨n₂, n₁, w'⟩)] m'' := by
  have leads₂ : ∀ {h n}, m'.Leads h x n → m''.Leads h x n := folded₂.grown.leads
  have leads : ∀ {h n}, m.Leads h x n → m''.Leads h x n := fun leads =>
    leads₂ (folded₁.grown.leads leads)
  obtain ⟨flanks, whole⟩ :
    ∃ flanks : List (FaceId × Corners NodeId), flanks = [(f, ⟨n₁, n₂, w⟩), (f', ⟨n₂, n₁, w'⟩)] :=
    ⟨_, rfl⟩
  have besideA : ∀ h ∈ Corners.toList ⟨e.first, h₁, h₂⟩, m₀.Beside flanks h := fun h mem =>
    ⟨(f, ⟨n₁, n₂, w⟩), by simp [whole], (triangle₁.reports_iff h).2 mem⟩
  have besideB : ∀ h ∈ Corners.toList ⟨e.second, k₁, k₂⟩, m₀.Beside flanks h := fun h mem =>
    ⟨(f', ⟨n₂, n₁, w'⟩), by simp [whole], (triangle₂.reports_iff h).2 mem⟩
  have refaced := (folded₁.refaced f).trans (folded₂.refaced f')
  have around : m''.Ring x ↑([eA.first, eW.first] ++ [eB.first, eW'.first]) := by
    rw [Cycle.coe_append_comm]
    exact folded₂.hub
  refine ⟨⟨_, refaced⟩, ⟨_, _, around, .cons (leads bridged.spoke₁) (.cons (leads₂ folded₁.spoke)
    (.cons (leads bridged.spoke₂) (.cons folded₂.spoke .nil))), .cons n₁ (.swap n₂ w [w'])⟩,
    folded₁.fringed_both folded₂ triangle₁ triangle₂, fun _ => ?_⟩
  rw [← whole]
  constructor
  case side₁ => exact besideA _ (by simp)
  case side₂ => exact besideB _ (by simp)
  case last₁ => exact ⟨_, last₁, by simpa using besideA h₂ (by simp)⟩
  case last₂ => exact ⟨_, last₂, by simpa using besideB k₂ (by simp)⟩
  case seated₁ => exact folded₂.seated_end folded₁.seated_start
  case seated₂ => exact folded₂.seated_start
  case faceOf? =>
    intro h live otherA otherB off
    have new : ∀ {k : HalfedgeId} {e : EdgeId}, h.edge ≠ e → k.edge = e → h ≠ k := by
      rintro k e differs same rfl
      exact differs same
    have ne : ∀ k, m₀.Beside flanks k → h ≠ k := by
      rintro k borders rfl
      exact off borders
    rcases containsHalfedge_iff_origin?.1 live with ⟨n, start⟩
    have live' := containsHalfedge_of_origin? (folded₁.grown.origin? h n start)
    rw [folded₂.faceOf? h live' (new otherA rfl) (ne _ (besideB _ (by simp)))
        (ne _ (besideB _ (by simp))) (new otherB rfl),
      folded₁.faceOf? h live (new otherB rfl) (ne _ (besideA _ (by simp)))
        (ne _ (besideA _ (by simp))) (new otherA rfl)]

end Rejoined

/-- At an end of the edge that is removed, what follows stays but at the edge and before it. -/
theorem Severed.follows_of_seated {m m₁ m' : Mesh} {h g k p : HalfedgeId} {n : NodeId}
    {l : List HalfedgeId} {blocked : HalfedgeId → Prop} (severed : m.Severed h n l m₁)
    (seated : m'.Seated n l p) (last : ∃ q, l.getLast? = some q ∧ blocked q) (side : blocked h)
    (start : m.origin? g = some n) (off : ¬ blocked g) (follows : m.Follows g k) :
    m'.Follows g k := by
  rcases last with ⟨q, last, before⟩
  have mem : g ∈ l ++ [h] := (severed.before.mem_iff g).2 start
  refine severed.before.follows_of_append seated last ?_ ?_ follows
  · apply (List.mem_append.1 mem).resolve_right
    intro same
    rw [List.mem_singleton.1 same] at off
    exact off side
  · rintro rfl
    exact off before

section Restored

variable {m₀ m m₁ m₂ m₃ m₄ m₅ : Mesh} {e eA eB : EdgeId} {n₁ n₂ x : NodeId} {position : Point}
  {flanks : List (FaceId × Corners NodeId)} {l₁ l₂ : List HalfedgeId} (sound : m₀.Sound)
  (cleared : m₀.Cleared (flanks.map Prod.fst) m) (leads : m.Leads e.first n₁ n₂)
  (dropped : m.DroppedEdge e m₁) (severed₁ : m.Severed e.first n₁ l₁ m₁)
  (severed₂ : m.Severed e.second n₂ l₂ m₁) (node : m₁.AddedNode position x m₂)
  (spoke₁ : m₂.AddedEdge x n₁ eA m₃) (spoke₂ : m₃.AddedEdge x n₂ eB m₄)
  (fringed : m₀.Fringed m₄ x n₁ n₂ e.first eA.first eB.first l₁ l₂ flanks m₅)
  (restored : m₀.Restored m₄ x n₁ n₂ e eA eB l₁ l₂ flanks m₅)

include restored

/-- Half-edges that border none of the faces do not belong to the edge. -/
theorem Restored.edge_ne {h : HalfedgeId} (off : ¬ m₀.Beside flanks h) : h.edge ≠ e := by
  intro same
  rcases edge_eq_iff.1 same with rfl | rfl
  · exact off restored.side₁
  · exact off restored.side₂

include cleared leads dropped severed₁ severed₂ node spoke₁ spoke₂ fringed

theorem Restored.keeps : m₀.Keeps m₅ fun g => m₀.Beside flanks g.pair := by
  intro g k off follows
  have follows' := cleared.follows.2 follows
  rcases containsHalfedge_iff_origin?.1 follows'.live_left with ⟨n, start⟩
  by_cases first : n = n₁
  · subst first
    exact severed₁.follows_of_seated restored.seated₁ restored.last₁ restored.side₂ start
      off follows'
  by_cases second : n = n₂
  · subst second
    exact severed₂.follows_of_seated restored.seated₂ restored.last₂ restored.side₁ start
      off follows'
  exact fringed.follows_of_ne leads dropped node spoke₁ spoke₂ cleared.sound start first second off
    follows'

include sound in
theorem Restored.halfedge? (refaced : ∃ news, m₄.Refaced x flanks news m₅) {h : HalfedgeId}
    (live : m₀.containsHalfedge h = true) (off : ¬ m₀.Beside flanks h) :
    m₅.halfedge? h = m₀.halfedge? h := by
  rcases refaced with ⟨news, refaced⟩
  have other := restored.edge_ne off
  have keeps := restored.keeps cleared leads dropped severed₁ severed₂ node spoke₁ spoke₂ fringed
  rcases containsHalfedge_iff_origin?.1 live with ⟨n, start⟩
  have start₁ : m₁.origin? h = some n := by
    rw [dropped.origin?, if_neg other, cleared.origin?, start]
  have live₂ := live_of_cleared cleared dropped node live other
  have live₃ := spoke₁.live_of_live live₂
  refine Keeps.halfedge? (m₀.Beside flanks) keeps sound ?_ live off ?_ ?_
  · rintro g k next ⟨flank, mem, reports⟩
    exact ⟨flank, mem, (sound.faceOf?_next? next).trans reports⟩
  · rw [(grown_of_refaced node spoke₁ spoke₂ refaced dropped.sound).origin? h n start₁, start]
  · rw [restored.faceOf? h (spoke₂.live_of_live live₃) (spoke₁.edge_ne live₂)
      (spoke₂.edge_ne live₃) off, spoke₂.faceOf?_of_live live₃, spoke₁.faceOf?_of_live live₂,
      node.faceOf?, dropped.faceOf?, if_neg other]
    refine cleared.faceOf? h fun f mem reports => off ?_
    rcases List.mem_map.1 mem with ⟨flank, here, rfl⟩
    exact ⟨flank, here, reports⟩

end Restored

end Mesh

end PlanarMesh
