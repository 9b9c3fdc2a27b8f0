import PlanarMesh.Proofs.Edit.Refaced

/-!
# The boundary at a split edge

When an edge is split, each of its sides becomes two half-edges (`halves`): one that stands in
its stead where it started, and one that leads on from the new node.  A side without a face
becomes two half-edges without a face.

At an end of the edge, the spoke takes the place of the side that started there if that side had
a face.  If it had none, the spoke was attached at the first free place, which need not be the
one that the edge has left (`Lodged`).
-/

namespace PlanarMesh

namespace Mesh

/-- What the sides of the edge `e` become when it is split: `a` and `b` are the edges between the
new node and the ends of `e`. -/
def halves (e a b : EdgeId) (h : HalfedgeId) : List HalfedgeId :=
  if h = e.first then [a.second, b.first]
  else if h = e.second then [b.second, a.first]
  else [h]

/-- The half-edge that stands in the stead of `h` where `h` started. -/
def stead (e a b : EdgeId) (h : HalfedgeId) : HalfedgeId :=
  if h = e.first then a.second else if h = e.second then b.second else h

section Halves

variable {e a b : EdgeId} {g h : HalfedgeId}

@[simp]
theorem halves_first : halves e a b e.first = [a.second, b.first] :=
  if_pos rfl

@[simp]
theorem halves_second : halves e a b e.second = [b.second, a.first] := by
  rw [halves, if_neg (first_ne_second e).symm, if_pos rfl]

theorem halves_of_ne (other : h.edge ≠ e) : halves e a b h = [h] := by
  have first : h ≠ e.first := fun same => other (same ▸ rfl)
  have second : h ≠ e.second := fun same => other (same ▸ rfl)
  rw [halves, if_neg first, if_neg second]

@[simp]
theorem stead_first : stead e a b e.first = a.second :=
  if_pos rfl

@[simp]
theorem stead_second : stead e a b e.second = b.second := by
  rw [stead, if_neg (first_ne_second e).symm, if_pos rfl]

theorem stead_of_ne (other : h.edge ≠ e) : stead e a b h = h := by
  have first : h ≠ e.first := fun same => other (same ▸ rfl)
  have second : h ≠ e.second := fun same => other (same ▸ rfl)
  rw [stead, if_neg first, if_neg second]

theorem head?_halves (h : HalfedgeId) : (halves e a b h).head? = some (stead e a b h) := by
  by_cases side : h.edge = e
  · rcases edge_eq_iff.1 side with rfl | rfl
    · rw [halves_first, stead_first, List.head?_cons]
    · rw [halves_second, stead_second, List.head?_cons]
  · rw [halves_of_ne side, stead_of_ne side, List.head?_cons]

theorem getLast?_halves (h : HalfedgeId) :
    (halves e a b h).getLast? = some (stead e a b h.pair).pair := by
  by_cases side : h.edge = e
  · rcases edge_eq_iff.1 side with rfl | rfl
    · have last : stead e a b e.first.pair = b.second := stead_second
      rw [halves_first, last]
      rfl
    · have last : stead e a b e.second.pair = a.second := stead_first
      rw [halves_second, last]
      rfl
  · rw [halves_of_ne side, stead_of_ne (show h.pair.edge ≠ e from side), HalfedgeId.pair_pair,
      List.getLast?_singleton]

theorem edge_of_mem_halves (side : g.edge = e) (mem : h ∈ halves e a b g) :
    h.edge = a ∨ h.edge = b := by
  rcases edge_eq_iff.1 side with rfl | rfl
  · rw [halves_first, List.mem_pair] at mem
    rcases mem with rfl | rfl
    · exact .inl rfl
    · exact .inr rfl
  · rw [halves_second, List.mem_pair] at mem
    rcases mem with rfl | rfl
    · exact .inr rfl
    · exact .inl rfl

theorem halves_ne_nil (h : HalfedgeId) : halves e a b h ≠ [] := by
  intro empty
  have first := head?_halves (e := e) (a := a) (b := b) h
  rw [empty] at first
  cases first

theorem nodup_halves (apart : a ≠ b) (h : HalfedgeId) : (halves e a b h).Nodup := by
  by_cases side : h.edge = e
  · rcases edge_eq_iff.1 side with rfl | rfl
    · rw [halves_first, List.nodup_cons, List.mem_singleton]
      exact ⟨fun same => apart (congrArg HalfedgeId.edge same), List.nodup_singleton b.first⟩
    · rw [halves_second, List.nodup_cons, List.mem_singleton]
      exact ⟨fun same => apart (congrArg HalfedgeId.edge same).symm, List.nodup_singleton a.first⟩
  · rw [halves_of_ne side]
    exact List.nodup_singleton h

theorem disjoint_halves (apart : a ≠ b) :
    List.Disjoint (halves e a b e.first) (halves e a b e.second) := by
  intro h mem mem'
  rw [halves_first, List.mem_pair] at mem
  rw [halves_second, List.mem_pair] at mem'
  rcases mem with rfl | rfl
  · rcases mem' with same | same
    · exact apart (congrArg HalfedgeId.edge same)
    · exact first_ne_second a same.symm
  · rcases mem' with same | same
    · exact first_ne_second b same
    · exact apart (congrArg HalfedgeId.edge same).symm

/-- A half-edge comes from one half-edge only. -/
theorem eq_of_mem_halves {g' : HalfedgeId} (apart : a ≠ b) (old : g.edge ≠ a ∧ g.edge ≠ b)
    (old' : g'.edge ≠ a ∧ g'.edge ≠ b) (mem : h ∈ halves e a b g)
    (mem' : h ∈ halves e a b g') : g = g' := by
  have new : ∀ {k : HalfedgeId}, k.edge ≠ a ∧ k.edge ≠ b → h = k → h.edge = a ∨ h.edge = b →
      False := by
    rintro k ⟨ne, ne'⟩ rfl (same | same)
    · exact ne same
    · exact ne' same
  by_cases side : g.edge = e
  · have fresh := edge_of_mem_halves side mem
    by_cases side' : g'.edge = e
    · rcases edge_eq_iff.1 side with rfl | rfl <;> rcases edge_eq_iff.1 side' with rfl | rfl
      · rfl
      · exact (disjoint_halves apart mem mem').elim
      · exact (disjoint_halves apart mem' mem).elim
      · rfl
    · rw [halves_of_ne side', List.mem_singleton] at mem'
      exact (new old' mem' fresh).elim
  · rw [halves_of_ne side, List.mem_singleton] at mem
    by_cases side' : g'.edge = e
    · exact (new old mem (edge_of_mem_halves side' mem')).elim
    · rw [halves_of_ne side', List.mem_singleton] at mem'
      exact mem.symm.trans mem'

theorem exists_side_of_edge (e : EdgeId) (new : h.edge = a ∨ h.edge = b) :
    ∃ g, g.edge = e ∧ h ∈ halves e a b g := by
  rcases new with rfl | rfl
  · rcases edge_eq_iff.1 (rfl : h.edge = h.edge) with same | same
    · exact ⟨e.second, rfl, by rw [halves_second, ← same]; simp⟩
    · exact ⟨e.first, rfl, by rw [halves_first, ← same]; simp⟩
  · rcases edge_eq_iff.1 (rfl : h.edge = h.edge) with same | same
    · exact ⟨e.first, rfl, by rw [halves_first, ← same]; simp⟩
    · exact ⟨e.second, rfl, by rw [halves_second, ← same]; simp⟩

end Halves

/-! ## The sides of a split edge -/

/-- How the spoke `p` stands at the end `n` of a split edge, where the side `h` started: in the
place of `h` if this had a face.  Otherwise a place was searched for, and if the other side had a
face, what lay behind that place was moved. -/
inductive Lodged (m₀ m : Mesh) (n : NodeId) (l : List HalfedgeId) (h p : HalfedgeId) : Prop
  | seated (seated : m.Seated n l p)
  | loose (loose : m.Loose n l p) (bare : m₀.Free h) (bare' : m₀.Free h.pair)
  | shifted (shifted : m.Shifted n l p) (bare : m₀.Free h)

/-- In `m` the half-edges `p` and `q` take the place of the side `h` of a split edge, which started
at `n`. -/
structure Halved (m₀ m : Mesh) (n : NodeId) (l : List HalfedgeId) (h p q : HalfedgeId) : Prop where
  lodged : m₀.Lodged m n l h p
  middle : m₀.Free h → m.Follows p.pair q
  free_start : m.Free p ↔ m₀.Free h
  free_end : m.Free q ↔ m₀.Free h

/-- What folding in the flaps leaves of the boundary.  The edge of `h`, which led from `u` to `v`,
is split by `x`, and the spokes `s` and `t` lead there from `x`; `m` is the mesh before the first
flap. -/
structure Fringed (m₀ m : Mesh) (x u v : NodeId) (h s t : HalfedgeId) (lu lv : List HalfedgeId)
    (flanks : List (FaceId × Corners NodeId)) (m' : Mesh) : Prop where
  start : m₀.Halved m' u lu h s.pair t
  finish : m₀.Halved m' v lv h.pair t.pair s
  free_iff : ∀ g : HalfedgeId, g.edge ≠ h.edge → g.edge ≠ s.edge → g.edge ≠ t.edge →
    (m'.Free g ↔ m.Free g ∧ ¬ m₀.Beside flanks g)
  follows : ∀ g k n, m.origin? g = some n → n ≠ x → n ≠ u → n ≠ v →
    ¬ m₀.Beside flanks g.pair → m.Follows g k → m'.Follows g k

theorem Triangle.beside_iff {m : Mesh} {f : FaceId} {h h₁ h₂ : HalfedgeId} {t : Corners NodeId}
    (triangle : m.Triangle f ⟨h, h₁, h₂⟩) (g : HalfedgeId) :
    m.Beside [(f, t)] g ↔ g = h ∨ g = h₁ ∨ g = h₂ := by
  simpa [Beside] using triangle.reports_iff g

theorem Triangle.not_free {m : Mesh} {f : FaceId} {h h₁ h₂ : HalfedgeId}
    (triangle : m.Triangle f ⟨h, h₁, h₂⟩) : ¬ m.Free h := by
  simp [Free, triangle.faceOf?_a]

section Fringed

variable {m₀ m m' m'' : Mesh} {x n₁ n₂ u v w w' : NodeId} {e eA eB eW eW' : EdgeId}
  {h s t h₁ h₂ k₁ k₂ : HalfedgeId} {l lu lv l₁ l₂ : List HalfedgeId}
  {f f₁ f₂ f' f₁' f₂' : FaceId} {flanks : List (FaceId × Corners NodeId)}

theorem Fringed.symm (fringed : m₀.Fringed m x u v h s t lu lv flanks m') :
    m₀.Fringed m x v u h.pair t s lv lu flanks m' where
  start := fringed.finish
  finish := by
    rw [HalfedgeId.pair_pair]
    exact fringed.start
  free_iff g other otherT otherS := fringed.free_iff g other otherS otherT
  follows g k n start hub otherV otherU := fringed.follows g k n start hub otherU otherV

/-- Without flaps, both sides of the edge are on the boundary. -/
theorem Bridged.fringed (bridged : m.Bridged x n₁ n₂ eA eB l₁ l₂) (bare₁ : m₀.Free e.first)
    (bare₂ : m₀.Free e.second) :
    m₀.Fringed m x n₁ n₂ e.first eA.first eB.first l₁ l₂ [] m := by
  have around := bridged.hub.ring
  have free : ∀ h : HalfedgeId, h.edge = eA ∨ h.edge = eB → m.Free h := bridged.free
  constructor
  case start =>
    refine ⟨?_, fun _ => ?_, iff_of_true (free _ (.inl rfl)) bare₁,
      iff_of_true (free _ (.inr rfl)) bare₁⟩
    · by_cases alone : l₁ = []
      · exact .seated (bridged.alone₁ alone)
      · exact .loose (bridged.loose₁ alone) bare₁ bare₂
    · exact around.follows (Cycle.adjacent_cons_cons [] [] eA.first eB.first)
  case finish =>
    refine ⟨?_, fun _ => ?_, iff_of_true (free _ (.inr rfl)) bare₂,
      iff_of_true (free _ (.inl rfl)) bare₂⟩
    · by_cases alone : l₂ = []
      · exact .seated (bridged.alone₂ alone)
      · exact .loose (bridged.loose₂ alone) bare₂ bare₁
    · exact around.follows (Cycle.adjacent_of_ends rfl rfl)
  case free_iff => simp [Beside]
  case follows => exact fun _ _ _ _ _ _ _ _ => id

/-- With a flap on one side of the edge, the other side is on the boundary. -/
theorem Folded.fringed (folded : m.Folded x u v w s t h₁ h₂ lu lv [] eW f₁ f₂ m')
    (flap : m.Flap x u v w s t h₁ h₂ l) (loose : m.Loose v lv t.pair) (free_start : m.Free s)
    (free_end : m.Free t.pair) (triangle : m₀.Triangle f ⟨h, h₁, h₂⟩) (bare : m₀.Free h.pair) :
    m₀.Fringed m x u v h s t lu lv [(f, ⟨u, v, w⟩)] m' := by
  have faced := triangle.not_free
  constructor
  case start =>
    exact ⟨.seated folded.seated_start, fun free => absurd free faced,
      iff_of_false folded.not_free_start faced, iff_of_false folded.not_free_end faced⟩
  case finish =>
    refine ⟨.shifted (folded.shifted_end loose) bare, fun _ => ?_, iff_of_true ?_ bare,
      iff_of_true ?_ bare⟩
    · rw [HalfedgeId.pair_pair]
      exact folded.hub.follows (Cycle.adjacent_of_ends rfl rfl)
    · exact (flap.faceOf?_spoke folded (.inr rfl)).trans free_end
    · exact (flap.faceOf?_spoke folded (.inl rfl)).trans free_start
  case free_iff =>
    intro g other otherS otherT
    have neS : g ≠ s.pair := fun same => otherS (same ▸ rfl)
    have neT : g ≠ t := fun same => otherT (same ▸ rfl)
    have ne : g ≠ h := fun same => other (same ▸ rfl)
    rw [folded.free_iff, triangle.beside_iff]
    simp [neS, neT, ne]
  case follows =>
    intro g k n start hub otherU otherV off
    refine folded.follows g k n start hub otherU otherV ?_
    rintro rfl
    exact off ((triangle.beside_iff _).2 (by simp))

/-- With flaps on both sides, none of the new half-edges is on the boundary. -/
theorem Folded.fringed_both (folded₁ : m.Folded x u v w s t h₁ h₂ lu lv [] eW f₁ f₂ m')
    (folded₂ : m'.Folded x v u w' t s k₁ k₂ lv lu [eW.first] eW' f₁' f₂' m'')
    (triangle₁ : m₀.Triangle f ⟨h, h₁, h₂⟩) (triangle₂ : m₀.Triangle f' ⟨h.pair, k₁, k₂⟩) :
    m₀.Fringed m x u v h s t lu lv [(f, ⟨u, v, w⟩), (f', ⟨v, u, w'⟩)] m'' := by
  have faced₁ := triangle₁.not_free
  have faced₂ := triangle₂.not_free
  have kept : ∀ g, ¬ m'.Free g → ¬ m''.Free g := fun g faced free =>
    faced ((folded₂.free_iff g).1 free).1
  have beside_iff : ∀ g, m₀.Beside [(f, ⟨u, v, w⟩), (f', ⟨v, u, w'⟩)] g ↔
      (g = h ∨ g = h₁ ∨ g = h₂) ∨ g = h.pair ∨ g = k₁ ∨ g = k₂ := by
    intro g
    rw [← triangle₁.beside_iff (t := ⟨u, v, w⟩), ← triangle₂.beside_iff (t := ⟨v, u, w'⟩)]
    simp [Beside]
  constructor
  case start =>
    exact ⟨.seated (folded₂.seated_end folded₁.seated_start), fun free => absurd free faced₁,
      iff_of_false (kept _ folded₁.not_free_start) faced₁,
      iff_of_false (kept _ folded₁.not_free_end) faced₁⟩
  case finish =>
    exact ⟨.seated folded₂.seated_start, fun free => absurd free faced₂,
      iff_of_false folded₂.not_free_start faced₂, iff_of_false folded₂.not_free_end faced₂⟩
  case free_iff =>
    intro g other otherS otherT
    have ne : ∀ {k : HalfedgeId} {e : EdgeId}, g.edge ≠ e → k.edge = e → g ≠ k := by
      rintro k e differs same rfl
      exact differs same
    rw [folded₂.free_iff, folded₁.free_iff, beside_iff]
    simp [ne other rfl, ne (k := h.pair) other rfl, ne otherS rfl, ne (k := s.pair) otherS rfl,
      ne otherT rfl, ne (k := t.pair) otherT rfl, and_assoc]
  case follows =>
    intro g k n start hub otherU otherV off follows
    have ne : ∀ k, m₀.Beside [(f, ⟨u, v, w⟩), (f', ⟨v, u, w'⟩)] k → g ≠ k.pair := by
      rintro k borders rfl
      exact off (by rwa [HalfedgeId.pair_pair])
    have after := folded₁.follows g k n start hub otherU otherV
      (ne h₁ ((beside_iff _).2 (by simp))) follows
    exact folded₂.follows g k n (folded₁.grown.origin? g n start) hub otherV otherU
      (ne k₁ ((beside_iff _).2 (by simp))) after

end Fringed

/-! ## Gaps -/

/-- How many half-edges without a face arrive at `n`. -/
def gapCount (m : Mesh) (n : NodeId) : Nat :=
  m.halfedgeIds.countP fun h => m.Free h ∧ m.origin? h.pair = some n

/-- There is no choice where to attach at `n` what replaces the edge `e`: no side of `e` without a
face starts there, or there are at most two gaps. -/
def Calm (m : Mesh) (e : EdgeId) (n : NodeId) : Prop :=
  ∀ h : HalfedgeId, h.edge = e → m.Free h → m.origin? h = some n → m.gapCount n ≤ 2

section Gaps

variable {m₀ m : Mesh} {n : NodeId} {l : List HalfedgeId} {h p : HalfedgeId}

theorem Ring.gapCount_eq (around : m.Ring n ↑l) :
    m.gapCount n = l.countP fun h => m.Free h.pair := by
  have nodup : l.Nodup := around.nodup
  have starts : ∀ h, h ∈ l ↔ m.origin? h = some n := around.mem_iff
  have arriving : m.gapCount n =
      ((l.filter fun h => m.Free h.pair).map HalfedgeId.pair).length := by
    refine countP_eq_length_of_mem_iff m.nodup_halfedgeIds
      ((nodup.filter _).map fun _ _ => HalfedgeId.pair_injective) fun h => ?_
    simp only [List.mem_filter, List.mem_map, decide_eq_true_eq, starts, mem_halfedgeIds]
    constructor
    · rintro ⟨g, ⟨start, free⟩, rfl⟩
      exact ⟨containsHalfedge_iff_faceOf?.2 ⟨none, free⟩, free, by rwa [HalfedgeId.pair_pair]⟩
    · rintro ⟨-, free, start⟩
      exact ⟨h.pair, ⟨start, by rwa [HalfedgeId.pair_pair]⟩, h.pair_pair⟩
  rw [arriving, List.length_map, List.countP_eq_length_filter]

/-- Where there was no choice, the spoke stands in the gap. -/
theorem Lodged.seated_of_calm (lodged : m₀.Lodged m n l h p) (sound : m₀.Sound)
    (around : m₀.Ring n ↑(l ++ [h])) (same : ∀ a ∈ l, m.Free a.pair ↔ m₀.Free a.pair)
    (calm : m₀.Free h → m₀.gapCount n ≤ 2) : m.Seated n l p := by
  have count : m₀.gapCount n =
      l.countP (fun a => m.Free a.pair) + if m₀.Free h.pair then 1 else 0 := by
    rw [around.gapCount_eq, List.countP_append, List.countP_singleton]
    congr 1
    · exact List.countP_congr fun a mem => by simp [same a mem]
    · simp
  have room : ∀ q, l.getLast? = some q → m₀.Free h → m.Free q.pair := by
    intro q last bare
    have follows : m₀.Follows q h := around.follows (Cycle.adjacent_append last rfl)
    exact (same q (List.mem_of_getLast? last)).2 ((sound.free_iff follows).1 bare)
  cases lodged with
  | seated seated => exact seated
  | loose loose bare bare' =>
    rcases loose.exists_last with ⟨q, last⟩
    have few := calm bare
    rw [count, if_pos bare'] at few
    exact loose.seated_of_countP last (room q last bare) (by omega)
  | shifted shifted bare =>
    rcases shifted.exists_last with ⟨q, last⟩
    have few := calm bare
    rw [count] at few
    exact shifted.seated_of_countP last (room q last bare) (by omega)

end Gaps

/-! ## The new node on the boundary -/

/-- In `m'` the new node `x` stands between the ends of the edge `e`, also along the boundary; the
new edges `a` and `b` lead from it to the ends. -/
structure Interposed (m : Mesh) (x n₁ n₂ : NodeId) (e a b : EdgeId) (m' : Mesh) : Prop where
  leads₁ : m'.Leads a.first x n₁
  leads₂ : m'.Leads b.first x n₂
  apart : a ≠ b
  fresh : ∀ h, m.containsHalfedge h = true → h.edge ≠ a ∧ h.edge ≠ b
  free_iff : ∀ h, m'.Free h ↔ ∃ g, m.Free g ∧ h ∈ halves e a b g
  middle : ∀ g, m.Free g → (halves e a b g).IsChain fun h k => m'.next? h = some k
  follows : ∀ g k n, m.Free g.pair → m.origin? g = some n → m.Calm e n → m.Follows g k →
    m'.Follows (stead e a b g) (stead e a b k)

theorem Cleared.ring {m m' : Mesh} {fs : List FaceId} (cleared : m.Cleared fs m') {n : NodeId}
    {ring : Cycle HalfedgeId} (around : m'.Ring n ring) : m.Ring n ring :=
  around.of_keeps (fun h => by rw [cleared.origin?]) fun _ _ _ => cleared.follows.1

theorem Severed.edge_ne {m m' : Mesh} {e : EdgeId} {h a : HalfedgeId} {n : NodeId}
    {l : List HalfedgeId} (severed : m.Severed h n l m') (dropped : m.DroppedEdge e m')
    (mem : a ∈ l) : a.edge ≠ e := by
  intro same
  have start := (severed.after.mem_iff a).1 mem
  rw [dropped.origin?, if_pos same] at start
  cases start

/-- Around an end of the edge, what takes the place of its side comes where the side came. -/
theorem Seated.follows_of_severed {m m' m'' : Mesh} {e a b : EdgeId} {h p g k : HalfedgeId}
    {n : NodeId} {l : List HalfedgeId} (seated : m''.Seated n l p) (severed : m.Severed h n l m')
    (dropped : m.DroppedEdge e m') (side : stead e a b h = p) (start : m.origin? g = some n)
    (follows : m.Follows g k) : m''.Follows (stead e a b g) (stead e a b k) := by
  have same : (l ++ [h]).map (stead e a b) = l ++ [p] := by
    rw [List.map_append, List.map_singleton, side]
    congr 1
    have kept : ∀ g ∈ l, stead e a b g = g := fun g mem => stead_of_ne (severed.edge_ne dropped mem)
    exact (List.map_congr_left kept).trans l.map_id'
  have adjacent := ((severed.before.follows_iff ((severed.before.mem_iff g).2 start)).1 follows).map
    (stead e a b)
  rw [Cycle.map_coe, same] at adjacent
  exact seated.follows adjacent

section Effect

variable {m₀ m m₁ m₂ m₃ m₄ m₅ : Mesh} {e eA eB : EdgeId} {n₁ n₂ x : NodeId} {position : Point}
  {flanks : List (FaceId × Corners NodeId)} {l₁ l₂ : List HalfedgeId} (sound : m₀.Sound)
  (cleared : m₀.Cleared (flanks.map Prod.fst) m) (leads : m.Leads e.first n₁ n₂)
  (dropped : m.DroppedEdge e m₁) (severed₁ : m.Severed e.first n₁ l₁ m₁)
  (severed₂ : m.Severed e.second n₂ l₂ m₁) (node : m₁.AddedNode position x m₂)
  (spoke₁ : m₂.AddedEdge x n₁ eA m₃) (spoke₂ : m₃.AddedEdge x n₂ eB m₄)
  (fringed : m₀.Fringed m₄ x n₁ n₂ e.first eA.first eB.first l₁ l₂ flanks m₅)

include fringed

theorem Fringed.free_half {g h : HalfedgeId} (side : g.edge = e) (mem : h ∈ halves e eA eB g) :
    m₅.Free h ↔ m₀.Free g := by
  rcases edge_eq_iff.1 side with rfl | rfl
  · rw [halves_first, List.mem_pair] at mem
    rcases mem with rfl | rfl
    · exact fringed.start.free_start
    · exact fringed.start.free_end
  · rw [halves_second, List.mem_pair] at mem
    rcases mem with rfl | rfl
    · exact fringed.finish.free_start
    · exact fringed.finish.free_end

include cleared leads dropped node spoke₁ spoke₂

omit cleared in
/-- At other nodes than the ends, what follows stays but in front of the faces that were
removed. -/
theorem Fringed.follows_of_ne {g k : HalfedgeId} {n : NodeId} (sound : m.Sound)
    (start : m.origin? g = some n) (other₁ : n ≠ n₁) (other₂ : n ≠ n₂)
    (off : ¬ m₀.Beside flanks g.pair) (follows : m.Follows g k) : m₅.Follows g k := by
  have hub : x ≠ n := (contains_of_origin? sound dropped node start).2
  rcases sound.exists_ring n with ⟨ring, around⟩
  have mem := (around.mem_iff g).2 start
  have around₄ := ring_of_spokes leads dropped node spoke₁ spoke₂ hub.symm other₁ other₂ around
  have follows₄ := around₄.follows ((around.follows_iff mem).1 follows)
  exact fringed.follows g k n ((around₄.mem_iff g).1 mem) hub.symm other₁ other₂ off follows₄

omit leads in
/-- Off the new edges the same half-edges are free as before the faces were removed. -/
theorem Fringed.free_old {h : HalfedgeId} (old : h.edge ≠ e) (oldA : h.edge ≠ eA)
    (oldB : h.edge ≠ eB) : m₅.Free h ↔ m₀.Free h := by
  have still : m₄.Free h ↔ m.Free h := by
    rw [spoke₂.free_iff oldB, spoke₁.free_iff oldA, Free, node.faceOf?, dropped.faceOf?,
      if_neg old, Free]
  rw [fringed.free_iff h old oldA oldB, still]
  constructor
  · rintro ⟨free, off⟩
    rw [Free, ← cleared.faceOf? h]
    · exact free
    · intro f mem reports
      rcases List.mem_map.1 mem with ⟨flank, here, rfl⟩
      exact off ⟨flank, here, reports⟩
  · intro free
    refine ⟨cleared.free_of_free free, ?_⟩
    rintro ⟨flank, -, reports⟩
    rw [show m₀.faceOf? h = some none from free] at reports
    cases reports

omit leads spoke₁ spoke₂ fringed in
theorem live_of_cleared {h : HalfedgeId} (live : m₀.containsHalfedge h = true)
    (other : h.edge ≠ e) : m₂.containsHalfedge h = true := by
  rcases containsHalfedge_iff_origin?.1 live with ⟨n, start⟩
  refine containsHalfedge_of_origin? (n := n) ?_
  rw [node.origin?, dropped.origin?, if_neg other, cleared.origin?, start]

omit leads in
/-- Where there was no choice, the spoke stands in the gap that the edge has left. -/
theorem Fringed.seated_of_calm {n : NodeId} {l : List HalfedgeId} {h p : HalfedgeId}
    (sound : m₀.Sound) (severed : m.Severed h n l m₁) (side : h.edge = e)
    (lodged : m₀.Lodged m₅ n l h p) (calm : m₀.Calm e n) : m₅.Seated n l p := by
  have around := cleared.ring severed.before
  refine lodged.seated_of_calm sound around (fun a mem => ?_)
    fun bare => calm h side bare ((around.mem_iff h).1 (by simp))
  have live := containsHalfedge_of_origin? ((around.mem_iff a).1 (by simp [mem]))
  rw [← containsHalfedge_pair] at live
  have other : a.edge ≠ e := severed.edge_ne dropped mem
  have live₂ := live_of_cleared cleared dropped node live other
  exact fringed.free_old cleared dropped node spoke₁ spoke₂ other (spoke₁.edge_ne live₂)
    (spoke₂.edge_ne (spoke₁.live_of_live live₂))

variable (grown : m₄.Grown m₅) (gone : m₅.containsEdge e = false)

include grown gone

omit leads fringed in
/-- The new edges are new even to the edge that was split. -/
theorem fresh_of_spokes {h : HalfedgeId} (live : m₀.containsHalfedge h = true) :
    h.edge ≠ eA ∧ h.edge ≠ eB := by
  by_cases side : h.edge = e
  · have there : ∀ e', m₄.containsHalfedge (Key.first e') = true → h.edge ≠ e' := by
      intro e' live' same
      rcases containsHalfedge_iff_origin?.1 live' with ⟨n, start⟩
      have live₅ := containsHalfedge_of_origin? (grown.origin? _ n start)
      rw [containsHalfedge_eq_containsEdge, show (Key.first e').edge = e from same.symm.trans side,
        gone] at live₅
      cases live₅
    exact ⟨there eA (spoke₂.live_of_live (containsHalfedge_of_origin? spoke₁.origin?_first)),
      there eB (containsHalfedge_of_origin? spoke₂.origin?_first)⟩
  · have live₂ := live_of_cleared cleared dropped node live side
    exact ⟨spoke₁.edge_ne live₂, spoke₂.edge_ne (spoke₁.live_of_live live₂)⟩

omit leads in
theorem Fringed.free_iff_exists (h : HalfedgeId) :
    m₅.Free h ↔ ∃ g, m₀.Free g ∧ h ∈ halves e eA eB g := by
  constructor
  · intro free
    by_cases new : h.edge = eA ∨ h.edge = eB
    · rcases exists_side_of_edge e new with ⟨g, side, mem⟩
      exact ⟨g, (fringed.free_half side mem).1 free, mem⟩
    · rcases not_or.1 new with ⟨oldA, oldB⟩
      have old : h.edge ≠ e := by
        intro same
        have live := containsHalfedge_iff_faceOf?.2 ⟨none, free⟩
        rw [containsHalfedge_eq_containsEdge, same, gone] at live
        cases live
      refine ⟨h, ?_, by rw [halves_of_ne old]; exact List.mem_singleton_self h⟩
      exact (fringed.free_old cleared dropped node spoke₁ spoke₂ old oldA oldB).1 free
  · rintro ⟨g, free, mem⟩
    by_cases side : g.edge = e
    · exact (fringed.free_half side mem).2 free
    · rw [halves_of_ne side, List.mem_singleton] at mem
      subst mem
      have fresh := fresh_of_spokes cleared dropped node spoke₁ spoke₂ grown gone
        (containsHalfedge_iff_faceOf?.2 ⟨none, free⟩)
      exact (fringed.free_old cleared dropped node spoke₁ spoke₂ side fresh.1 fresh.2).2 free

variable (bridged : m₄.Bridged x n₁ n₂ eA eB l₁ l₂)

include bridged severed₁ severed₂ sound

theorem Fringed.interposed : m₀.Interposed x n₁ n₂ e eA eB m₅ where
  leads₁ := grown.leads bridged.spoke₁
  leads₂ := grown.leads bridged.spoke₂
  apart := spoke₂.edge_ne (containsHalfedge_of_origin? spoke₁.origin?_first)
  fresh _ := fresh_of_spokes cleared dropped node spoke₁ spoke₂ grown gone
  free_iff := fringed.free_iff_exists cleared dropped node spoke₁ spoke₂ grown gone
  middle g free := by
    by_cases side : g.edge = e
    · rcases edge_eq_iff.1 side with rfl | rfl
      · rw [halves_first, List.isChain_pair]
        exact (fringed.start.middle free).1
      · rw [halves_second, List.isChain_pair]
        exact (fringed.finish.middle free).1
    · rw [halves_of_ne side]
      exact .singleton g
  follows g k n free start calm follows := by
    have follows' := cleared.follows.2 follows
    rw [← cleared.origin?] at start
    by_cases first : n = n₁
    · subst first
      exact (fringed.seated_of_calm cleared dropped node spoke₁ spoke₂ sound severed₁ rfl
        fringed.start.lodged calm).follows_of_severed severed₁ dropped stead_first start follows'
    by_cases second : n = n₂
    · subst second
      exact (fringed.seated_of_calm cleared dropped node spoke₁ spoke₂ sound severed₂ rfl
        fringed.finish.lodged calm).follows_of_severed severed₂ dropped stead_second start follows'
    have other : ∀ h, m.origin? h = some n → h.edge ≠ e := by
      rintro h start' same
      rcases edge_eq_iff.1 same with rfl | rfl
      · exact first (leads.eq_start start').symm
      · exact second (leads.eq_finish start').symm
    have off : ¬ m₀.Beside flanks g.pair := by
      rintro ⟨flank, -, reports⟩
      rw [show m₀.faceOf? g.pair = some none from free] at reports
      cases reports
    rw [stead_of_ne (other g start),
      stead_of_ne (other k ((cleared.sound.origin?_of_follows follows').trans start))]
    exact fringed.follows_of_ne leads dropped node spoke₁ spoke₂ cleared.sound start first second
      off follows'

end Effect

end Mesh

end PlanarMesh
