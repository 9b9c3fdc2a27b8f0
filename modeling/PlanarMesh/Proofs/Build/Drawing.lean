import Mathlib.Data.Finset.Card
import Mathlib.Data.Sym.Sym2
import PlanarMesh.Proofs.Build.Ground
import PlanarMesh.Proofs.Build.Sides
import PlanarMesh.Proofs.Edit.Triangle

/-!
# Drawings

While triangles are built, the mesh is a drawing of them between the new nodes (`Drawn`).  There
is one edge for each pair of places between which a line was drawn, a half-edge has a face
exactly when it is a side of a triangle, and at the corner of a triangle its two half-edges follow
each other.

A drawing goes on when a side is drawn (`Drawn.of_sided`) and when a triangle is filled
(`Drawn.of_addedFace`).
-/

namespace PlanarMesh

namespace Mesh

open TriangleList (Arc Exit sides)

/-- `h` leads from the `v`-th node to the `x`-th. -/
def Spans (m : Mesh) (ns : List NodeId) (h : HalfedgeId) (v x : Nat) : Prop :=
  ∃ n n', ns[v]? = some n ∧ ns[x]? = some n' ∧ m.Leads h n n'

/-- The unordered pairs of places that are joined by lines. -/
def pairs (lines : List (Nat × Nat)) : Finset (Sym2 Nat) :=
  (lines.map fun s => s(s.1, s.2)).toFinset

/-- `m` is `base` with edges along the lines and a face in each triangle. -/
structure Drawn (base : Mesh) (ns : List NodeId) (triangles : List (Corners Nat))
    (lines : List (Nat × Nat)) (m : Mesh) : Prop where
  ground : base.Ground ns
  sound : m.Sound
  grown : base.Grown m
  spared : base.Spared ns m
  sides_nodup : (sides triangles).Nodup
  sides_subset : sides triangles ⊆ lines
  within : ∀ h, m.containsHalfedge h = true → base.containsHalfedge h = true ∨
    ∃ v x, m.Spans ns h v x ∧ ((v, x) ∈ lines ∨ (x, v) ∈ lines)
  line : ∀ v x, (v, x) ∈ lines → ∃ h, m.Spans ns h v x
  unique : ∀ g h v x, m.Spans ns g v x → m.Spans ns h v x → g = h
  free_iff : ∀ h v x, m.Spans ns h v x → (m.Free h ↔ (v, x) ∉ sides triangles)
  corner : ∀ g h v x y, Arc triangles v x y → m.Spans ns g v y → m.Spans ns h v x →
    m.Follows g h
  nodeCount : m.nodeCount = base.nodeCount
  edgeCount : m.edgeCount = base.edgeCount + (pairs lines).card

variable {base m m' : Mesh} {ns : List NodeId} {triangles : List (Corners Nat)}
  {lines : List (Nat × Nat)} {g h : HalfedgeId} {u w v x y v' x' : Nat} {n n₁ n₂ : NodeId}

theorem pairs_concat : pairs (lines ++ [(u, w)]) = insert s(u, w) (pairs lines) := by
  ext p
  simp [pairs, eq_comm]

theorem mem_pairs : s(u, w) ∈ pairs lines ↔ (u, w) ∈ lines ∨ (w, u) ∈ lines := by
  simp [pairs, and_or_left, exists_or]

/-! ## Spans -/

/-- A node has one place. -/
theorem Ground.place_unique (ground : base.Ground ns) (here : ns[v]? = some n)
    (there : ns[x]? = some n) : v = x := by
  rcases List.getElem?_eq_some_iff.1 here with ⟨bound, -⟩
  exact (List.getElem?_inj bound ground.nodup).1 (here.trans there.symm)

namespace Spans

theorem pair (spans : m.Spans ns h v x) : m.Spans ns h.pair x v := by
  rcases spans with ⟨n, n', atV, atX, leads⟩
  exact ⟨n', n, atX, atV, leads.pair⟩

theorem live (spans : m.Spans ns h v x) : m.containsHalfedge h = true := by
  rcases spans with ⟨n, n', -, -, leads⟩
  exact leads.live

theorem exists_start (spans : m.Spans ns h v x) :
    ∃ n, ns[v]? = some n ∧ m.origin? h = some n := by
  rcases spans with ⟨n, n', atV, -, leads⟩
  exact ⟨n, atV, leads.start⟩

theorem starts (spans : m.Spans ns h v x) (atV : ns[v]? = some n) : m.origin? h = some n := by
  rcases spans.exists_start with ⟨n', atV', start⟩
  rw [start, ← atV', atV]

/-- A half-edge spans one pair of places. -/
theorem ends_unique (ground : base.Ground ns) (spans : m.Spans ns h v x)
    (spans' : m.Spans ns h v' x') : v = v' ∧ x = x' := by
  rcases spans with ⟨n, k, atV, atX, leads⟩
  rcases spans' with ⟨n', k', atV', atX', leads'⟩
  cases leads.eq_start leads'.start
  cases leads.eq_finish leads'.finish
  exact ⟨ground.place_unique atV atV', ground.place_unique atX atX'⟩

theorem ne (spans : m.Spans ns h v x) (sound : m.Sound) : v ≠ x := by
  rintro rfl
  rcases spans with ⟨n, n', atV, atX, leads⟩
  exact sound.ends_ne_of_leads leads (Option.some.inj (atV.symm.trans atX))

theorem of_origin? (spans : m.Spans ns h v x) (same : ∀ h, m'.origin? h = m.origin? h) :
    m'.Spans ns h v x := by
  rcases spans with ⟨n, n', atV, atX, leads⟩
  exact ⟨n, n', atV, atX, leads.of_origin? same⟩

theorem of_grown (spans : m.Spans ns h v x) (grown : m.Grown m') : m'.Spans ns h v x := by
  rcases spans with ⟨n, n', atV, atX, leads⟩
  exact ⟨n, n', atV, atX, grown.leads leads⟩

end Spans

theorem not_spans_of_missing (atU : ns[u]? = some n₁) (atW : ns[w]? = some n₂)
    (missing : ∀ g, ¬ m.Leads g n₁ n₂) : ¬ m.Spans ns h u w := by
  rintro ⟨k, k', atU', atW', leads⟩
  cases atU.symm.trans atU'
  cases atW.symm.trans atW'
  exact missing h leads

/-! ## What can be seen in a drawing -/

theorem Ground.drawn (ground : base.Ground ns) : base.Drawn ns [] [] base where
  ground := ground
  sound := ground.sound
  grown := .refl base
  spared := .refl base ns
  sides_nodup := .nil
  sides_subset := List.nil_subset _
  within _ := .inl
  line := by simp
  unique g h v x spans := by
    rcases spans.exists_start with ⟨n, atV, start⟩
    exact absurd start (ground.isolated n (List.mem_of_getElem? atV) g)
  free_iff h v x spans := by
    rcases spans.exists_start with ⟨n, atV, start⟩
    exact absurd start (ground.isolated n (List.mem_of_getElem? atV) h)
  corner g h v x y arc := by simp [Arc] at arc
  nodeCount := rfl
  edgeCount := rfl

namespace Drawn

variable (drawn : base.Drawn ns triangles lines m)

include drawn

/-- What starts at a new node was drawn along a line. -/
theorem exists_spans (atV : ns[v]? = some n) (start : m.origin? h = some n) :
    ∃ x, m.Spans ns h v x ∧ ((v, x) ∈ lines ∨ (x, v) ∈ lines) := by
  rcases drawn.within h (containsHalfedge_of_origin? start) with old | ⟨v', x, spans, line⟩
  · rw [drawn.spared.origin? old] at start
    exact absurd start (drawn.ground.isolated n (List.mem_of_getElem? atV) h)
  · rcases spans.exists_start with ⟨k, atV', start'⟩
    cases start.symm.trans start'
    cases drawn.ground.place_unique atV atV'
    exact ⟨x, spans, line⟩

/-- A half-edge that was drawn lies on a line, read one way or the other. -/
theorem line_of_spans (spans : m.Spans ns h v x) : (v, x) ∈ lines ∨ (x, v) ∈ lines := by
  rcases spans.exists_start with ⟨n, atV, start⟩
  rcases drawn.exists_spans atV start with ⟨x', spans', line⟩
  rcases spans.ends_unique drawn.ground spans' with ⟨-, rfl⟩
  exact line

/-- If only sides were drawn, the half-edges without a face lie along the border. -/
theorem exists_free_iff (whole : lines ⊆ sides triangles) :
    (∃ h, m.Free h ∧ m.Spans ns h v x) ↔ Exit triangles v x := by
  constructor
  · rintro ⟨h, free, spans⟩
    have off := (drawn.free_iff h v x spans).1 free
    exact ⟨((drawn.line_of_spans spans).imp (whole ·) (whole ·)).resolve_left off, off⟩
  · rintro ⟨side, off⟩
    rcases drawn.line x v (drawn.sides_subset side) with ⟨h, spans⟩
    exact ⟨h.pair, (drawn.free_iff h.pair v x spans.pair).2 off, spans.pair⟩

/-- The face of an arc lies behind its second half-edge. -/
theorem faced_of_arc (arc : Arc triangles v x y) (spans : m.Spans ns g v y) :
    ¬ m.Free g.pair := by
  rw [drawn.free_iff g.pair y v spans.pair, not_not]
  exact arc.side_back

/-- The two half-edges at the corner of a triangle. -/
theorem exists_corner (arc : Arc triangles v x y) :
    ∃ g h, m.Spans ns g v y ∧ m.Spans ns h v x ∧ m.Follows g h := by
  rcases drawn.line v x (drawn.sides_subset arc.side) with ⟨h, spans⟩
  rcases drawn.line y v (drawn.sides_subset arc.side_back) with ⟨g, spans'⟩
  exact ⟨g.pair, h, spans'.pair, spans, drawn.corner g.pair h v x y arc spans'.pair spans⟩

/-- Between half-edges that follow each other with a face between them lies an arc. -/
theorem arc_of_follows (follows : m.Follows g h) (faced : ¬ m.Free g.pair)
    (spans : m.Spans ns g v y) (spans' : m.Spans ns h v x) : Arc triangles v x y := by
  have side : (y, v) ∈ sides triangles := by
    by_contra off
    exact faced ((drawn.free_iff g.pair y v spans.pair).2 off)
  rcases TriangleList.exists_arc side with ⟨x', arc⟩
  rcases drawn.exists_corner arc.rotate with ⟨g', h', spansG, spansH, follows'⟩
  cases drawn.unique g g' v y spans spansG
  cases follows.right_unique follows'
  rcases spans'.ends_unique drawn.ground spansH with ⟨-, rfl⟩
  exact arc.rotate

end Drawn

/-! ## Drawing sides -/

section Edge

variable {e : EdgeId} (ground : base.Ground ns) (atU : ns[u]? = some n₁) (atW : ns[w]? = some n₂)
  (added : m.AddedEdge n₁ n₂ e m')

include atU atW added

theorem AddedEdge.spans_first : m'.Spans ns e.first u w :=
  ⟨n₁, n₂, atU, atW, added.leads⟩

include ground

/-- A half-edge spans two places along the new edge, or it did so before. -/
theorem AddedEdge.spans_cases (spans : m'.Spans ns h v x) :
    h = e.first ∧ v = u ∧ x = w ∨ h = e.second ∧ v = w ∧ x = u ∨ m.Spans ns h v x := by
  have new := added.spans_first atU atW
  by_cases same : h.edge = e
  · rcases HalfedgeId.eq_or_eq_pair (h := e.first) same with rfl | rfl
    · exact .inl ⟨rfl, spans.ends_unique ground new⟩
    · exact .inr (.inl ⟨rfl, spans.ends_unique ground new.pair⟩)
  · rcases spans with ⟨n, n', atV, atX, leads⟩
    refine .inr (.inr ⟨n, n', atV, atX, ?_, ?_⟩)
    · rw [← added.origin?_of_ne same, leads.start]
    · rw [← added.origin?_of_ne (h := h.pair) same, leads.finish]

end Edge

namespace Drawn

section Edge

variable {e : EdgeId} (drawn : base.Drawn ns triangles lines m) (atU : ns[u]? = some n₁)
  (atW : ns[w]? = some n₂) (missing : ∀ g, ¬ m.Leads g n₁ n₂) (added : m.AddedEdge n₁ n₂ e m')

include drawn atU atW missing

theorem not_line : (u, w) ∉ lines ∧ (w, u) ∉ lines := by
  have absent := fun h => not_spans_of_missing (h := h) atU atW missing
  constructor
  · intro mem
    rcases drawn.line u w mem with ⟨h, spans⟩
    exact absent h spans
  · intro mem
    rcases drawn.line w u mem with ⟨h, spans⟩
    exact absent h.pair spans.pair

include added

theorem unique_of_addedEdge (spans : m'.Spans ns g v x) (spans' : m'.Spans ns h v x) : g = h := by
  have absent := fun h => not_spans_of_missing (h := h) atU atW missing
  have apart := (added.spans_first atU atW).ne added.sound
  rcases added.spans_cases drawn.ground atU atW spans with
    ⟨rfl, rfl, rfl⟩ | ⟨rfl, rfl, rfl⟩ | old
  · rcases added.spans_cases drawn.ground atU atW spans' with
      ⟨rfl, -, -⟩ | ⟨-, same, -⟩ | old'
    · rfl
    · exact absurd same apart
    · exact absurd old' (absent h)
  · rcases added.spans_cases drawn.ground atU atW spans' with
      ⟨-, same, -⟩ | ⟨rfl, -, -⟩ | old'
    · exact absurd same.symm apart
    · rfl
    · exact absurd old'.pair (absent h.pair)
  · rcases added.spans_cases drawn.ground atU atW spans' with
      ⟨-, rfl, rfl⟩ | ⟨-, rfl, rfl⟩ | old'
    · exact absurd old (absent g)
    · exact absurd old.pair (absent g.pair)
    · exact drawn.unique g h v x old old'

theorem of_addedEdge : base.Drawn ns triangles (lines ++ [(u, w)]) m' := by
  have grown := added.grown drawn.sound
  have first := added.spans_first atU atW
  rcases drawn.not_line atU atW missing with ⟨off, off'⟩
  constructor
  case ground => exact drawn.ground
  case sound => exact added.sound
  case grown => exact drawn.grown.trans grown
  case spared =>
    exact drawn.spared.of_addedEdge drawn.ground drawn.sound added (List.mem_of_getElem? atU)
      (List.mem_of_getElem? atW)
  case sides_nodup => exact drawn.sides_nodup
  case sides_subset => exact List.subset_append_of_subset_left _ drawn.sides_subset
  case within =>
    intro h live
    by_cases same : h.edge = e
    · rcases HalfedgeId.eq_or_eq_pair (h := e.first) same with rfl | rfl
      · exact .inr ⟨u, w, first, .inl (by simp)⟩
      · exact .inr ⟨w, u, first.pair, .inr (by simp)⟩
    · rcases containsHalfedge_iff_origin?.1 live with ⟨n, start⟩
      rw [added.origin?_of_ne same] at start
      apply (drawn.within h (containsHalfedge_of_origin? start)).imp_right
      rintro ⟨v, x, spans, line⟩
      exact ⟨v, x, spans.of_grown grown, line.imp (List.mem_append_left _) (List.mem_append_left _)⟩
  case line =>
    intro v x mem
    rcases List.mem_append.1 mem with old | new
    · rcases drawn.line v x old with ⟨h, spans⟩
      exact ⟨h, spans.of_grown grown⟩
    · cases List.mem_singleton.1 new
      exact ⟨e.first, first⟩
  case unique =>
    intro g h v x
    exact drawn.unique_of_addedEdge atU atW missing added
  case free_iff =>
    intro h v x spans
    rcases added.spans_cases drawn.ground atU atW spans with
      ⟨rfl, rfl, rfl⟩ | ⟨rfl, rfl, rfl⟩ | old
    · exact iff_of_true (added.free_new rfl) fun side => off (drawn.sides_subset side)
    · exact iff_of_true (added.free_new rfl) fun side => off' (drawn.sides_subset side)
    · rw [added.free_iff (added.edge_ne old.live), drawn.free_iff h v x old]
  case corner =>
    intro g h v x y arc spans spans'
    rcases drawn.exists_corner arc with ⟨g', h', spansG, spansH, follows⟩
    rw [drawn.unique_of_addedEdge atU atW missing added spans (spansG.of_grown grown),
      drawn.unique_of_addedEdge atU atW missing added spans' (spansH.of_grown grown)]
    exact added.keeps_faced g' h' (drawn.faced_of_arc arc spansG) follows
  case nodeCount => rw [added.nodeCount, drawn.nodeCount]
  case edgeCount =>
    have new : s(u, w) ∉ pairs lines := by
      rw [mem_pairs, not_or]
      exact ⟨off, off'⟩
    rw [added.edgeCount, drawn.edgeCount, pairs_concat, Finset.card_insert_of_notMem new,
      Nat.add_assoc]

end Edge

section Side

variable (drawn : base.Drawn ns triangles lines m)

include drawn

/-- A line along which a half-edge was drawn already changes nothing. -/
theorem of_spans (spans : m.Spans ns h u w) : base.Drawn ns triangles (lines ++ [(u, w)]) m where
  ground := drawn.ground
  sound := drawn.sound
  grown := drawn.grown
  spared := drawn.spared
  sides_nodup := drawn.sides_nodup
  sides_subset := List.subset_append_of_subset_left _ drawn.sides_subset
  within h live := by
    apply (drawn.within h live).imp_right
    rintro ⟨v, x, spans, line⟩
    exact ⟨v, x, spans, line.imp (List.mem_append_left _) (List.mem_append_left _)⟩
  line v x mem := by
    rcases List.mem_append.1 mem with old | new
    · exact drawn.line v x old
    · cases List.mem_singleton.1 new
      exact ⟨h, spans⟩
  unique := drawn.unique
  free_iff := drawn.free_iff
  corner := drawn.corner
  nodeCount := drawn.nodeCount
  edgeCount := by
    have known := mem_pairs.2 (drawn.line_of_spans spans)
    rw [drawn.edgeCount, pairs_concat, Finset.insert_eq_of_mem known]

/-- With every side of a triangle the drawing goes on. -/
theorem of_sided (atU : ns[u]? = some n₁) (atW : ns[w]? = some n₂) (sided : m.Sided n₁ n₂ h m') :
    base.Drawn ns triangles (lines ++ [(u, w)]) m' ∧ m'.Spans ns h u w := by
  cases sided with
  | present _ leads =>
    have spans : m.Spans ns h u w := ⟨n₁, n₂, atU, atW, leads⟩
    exact ⟨drawn.of_spans spans, spans⟩
  | new missing able first added =>
    subst first
    exact ⟨drawn.of_addedEdge atU atW missing added, added.spans_first atU atW⟩

/-- With the missing edges of a triangle the drawing has all its sides. -/
theorem of_outlined {t : Corners Nat} {a b c : NodeId} {h₁ h₂ h₃ : HalfedgeId} {m₁ m₂ m₃ : Mesh}
    (atA : ns[t.a]? = some a) (atB : ns[t.b]? = some b) (atC : ns[t.c]? = some c)
    (outlined : m.Outlined a b c h₁ h₂ h₃ m₁ m₂ m₃) :
    base.Drawn ns triangles (lines ++ t.sides) m₃ ∧ m₃.Spans ns h₁ t.a t.b ∧
      m₃.Spans ns h₂ t.b t.c ∧ m₃.Spans ns h₃ t.c t.a := by
  rcases drawn.of_sided atA atB outlined.side₁ with ⟨drawn₁, spans₁⟩
  rcases drawn₁.of_sided atB atC outlined.side₂ with ⟨drawn₂, spans₂⟩
  rcases drawn₂.of_sided atC atA outlined.side₃ with ⟨drawn₃, spans₃⟩
  have grown₂ := outlined.side₂.grown drawn₁.sound
  have grown₃ := outlined.side₃.grown drawn₂.sound
  refine ⟨?_, spans₁.of_grown (grown₂.trans grown₃), spans₂.of_grown grown₃, spans₃⟩
  simpa [Corners.sides] using drawn₃

end Side

/-! ## Filling triangles -/

section Face

variable {t : Corners Nat} {h₁ h₂ h₃ : HalfedgeId} {f : FaceId}
  (drawn : base.Drawn ns triangles lines m) (side₁ : m.Spans ns h₁ t.a t.b)
  (side₂ : m.Spans ns h₂ t.b t.c) (side₃ : m.Spans ns h₃ t.c t.a)

include drawn side₁ side₂ side₃

/-- The sides of a triangle are the half-edges that span its directed sides. -/
theorem side_iff (spans : m.Spans ns h v x) :
    (h = h₁ ∨ h = h₂ ∨ h = h₃) ↔ (v, x) ∈ t.sides := by
  have along : ∀ {k a b}, m.Spans ns k a b → (h = k ↔ v = a ∧ x = b) := by
    intro k a b spans'
    constructor
    · rintro rfl
      exact spans.ends_unique drawn.ground spans'
    · rintro ⟨rfl, rfl⟩
      exact drawn.unique h k v x spans spans'
  rw [Corners.mem_sides, along side₁, along side₂, along side₃]

theorem free_sides (fits : m.Fits h₁ h₂ h₃) (side : (v, x) ∈ t.sides) :
    (v, x) ∉ sides triangles := by
  rcases Corners.mem_sides.1 side with ⟨rfl, rfl⟩ | ⟨rfl, rfl⟩ | ⟨rfl, rfl⟩
  · exact (drawn.free_iff h₁ _ _ side₁).1 fits.free₁
  · exact (drawn.free_iff h₂ _ _ side₂).1 fits.free₂
  · exact (drawn.free_iff h₃ _ _ side₃).1 fits.free₃

theorem chain : ∃ a b c, ns[t.a]? = some a ∧ ns[t.b]? = some b ∧ ns[t.c]? = some c ∧
    m.Chain h₁ h₂ h₃ a b c := by
  rcases side₁ with ⟨a, b, atA, atB, leads₁⟩
  rcases side₂ with ⟨b', c, atB', atC, leads₂⟩
  rcases side₃ with ⟨c', a', atC', atA', leads₃⟩
  cases atB.symm.trans atB'
  cases atC.symm.trans atC'
  cases atA.symm.trans atA'
  exact ⟨a, b, c, atA, atB, atC, leads₁, leads₂, leads₃, drawn.sound.ends_ne_of_leads leads₁,
    drawn.sound.ends_ne_of_leads leads₂, drawn.sound.ends_ne_of_leads leads₃⟩

variable (added : m.AddedFace h₁ h₂ h₃ f m')

include added

/-- At the corners of the new triangle, what follows is given by its loop. -/
theorem follows_of_turns (turns : t.Turns v x y) (spans : m.Spans ns g v y)
    (spans' : m.Spans ns h v x) : m'.Follows g h := by
  have at_corner : ∀ {k k' a b c}, m.Spans ns k a b → m.Spans ns k' b c → m'.next? k = some k' →
      v = b → x = c → y = a → m'.Follows g h := by
    rintro k k' a b c into out next rfl rfl rfl
    rw [drawn.unique g k.pair _ _ spans into.pair, drawn.unique h k' _ _ spans' out]
    exact added.sound.follows_of_next? next
  rcases Corners.turns_iff.1 turns with ⟨v_eq, x_eq, y_eq⟩ | ⟨v_eq, x_eq, y_eq⟩ | ⟨v_eq, x_eq, y_eq⟩
  · exact at_corner side₃ side₁ added.triangle.next_c v_eq x_eq y_eq
  · exact at_corner side₁ side₂ added.triangle.next_a v_eq x_eq y_eq
  · exact at_corner side₂ side₃ added.triangle.next_b v_eq x_eq y_eq

theorem of_addedFace (fits : m.Fits h₁ h₂ h₃) (subset : t.sides ⊆ lines)
    (corners : t.toList.Nodup) : base.Drawn ns (triangles ++ [t]) lines m' := by
  rcases drawn.chain side₁ side₂ side₃ with ⟨a, b, c, atA, atB, atC, chain⟩
  have old : ∀ {h v x}, m'.Spans ns h v x → m.Spans ns h v x := fun spans =>
    spans.of_origin? fun h => (added.origin? h).symm
  constructor
  case ground => exact drawn.ground
  case sound => exact added.sound
  case grown => exact drawn.grown.trans (added.grown drawn.sound fits)
  case spared =>
    exact drawn.spared.of_addedFace drawn.ground drawn.sound added chain
      (List.mem_of_getElem? atA) (List.mem_of_getElem? atB) (List.mem_of_getElem? atC)
  case sides_nodup =>
    rw [TriangleList.sides_concat]
    apply List.Nodup.append drawn.sides_nodup (Corners.nodup_sides corners)
    intro s known new
    exact drawn.free_sides side₁ side₂ side₃ fits new known
  case sides_subset =>
    rw [TriangleList.sides_concat]
    exact List.append_subset.2 ⟨drawn.sides_subset, subset⟩
  case within =>
    intro h live
    rcases containsHalfedge_iff_origin?.1 live with ⟨n, start⟩
    rw [added.origin?] at start
    apply (drawn.within h (containsHalfedge_of_origin? start)).imp_right
    rintro ⟨v, x, spans, line⟩
    exact ⟨v, x, spans.of_origin? added.origin?, line⟩
  case line =>
    intro v x mem
    rcases drawn.line v x mem with ⟨h, spans⟩
    exact ⟨h, spans.of_origin? added.origin?⟩
  case unique =>
    intro g h v x spans spans'
    exact drawn.unique g h v x (old spans) (old spans')
  case free_iff =>
    intro h v x spans
    rw [TriangleList.sides_concat, List.mem_append, ← drawn.side_iff side₁ side₂ side₃ (old spans),
      not_or, ← drawn.free_iff h v x (old spans), Free, added.faceOf?]
    split
    · next side => simp [side]
    · next off => simp [off, Free]
  case corner =>
    intro g h v x y arc spans spans'
    rcases TriangleList.arc_concat_iff.1 arc with known | turns
    · exact added.keeps_faced g h (drawn.faced_of_arc known (old spans))
        (drawn.corner g h v x y known (old spans) (old spans'))
    · exact drawn.follows_of_turns side₁ side₂ side₃ added turns (old spans) (old spans')
  case nodeCount => rw [added.nodeCount, drawn.nodeCount]
  case edgeCount => rw [added.edgeCount, drawn.edgeCount]

end Face

end Drawn

end Mesh

end PlanarMesh
