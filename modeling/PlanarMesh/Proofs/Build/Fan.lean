import PlanarMesh.Proofs.Build.Drawing

/-!
# Fans

Around a node of a drawing, arcs are half-edges that follow each other, so a closed cycle of arcs
takes up the whole ring of the node and every arc lies on it (`Drawn.fanned`).

Conversely a stretch of the ring between whose members there are faces is a path of arcs.  Where a
triangle is refused, such a stretch closes to a cycle: an interior node has faces all around, and
two sides that cannot be joined have faces all the way from the one to the other.  Then some arc
lies off the cycle (`Drawn.not_unfit`).
-/

namespace PlanarMesh

namespace Mesh

open TriangleList (Arc sides Fanned)

variable {base m : Mesh} {ns : List NodeId} {triangles more : List (Corners Nat)}
  {lines : List (Nat × Nat)} {u w v x y : Nat} {n n₁ n₂ : NodeId}

namespace Drawn

variable (drawn : base.Drawn ns triangles lines m)

include drawn

/-! ## From a cycle of arcs to the ring -/

/-- Arcs of a closed cycle lead all around the ring. -/
theorem mem_of_ring {ring : Cycle HalfedgeId} {c : Cycle Nat} (around : m.Ring n ring)
    (atV : ns[v]? = some n) (nonempty : c ≠ Cycle.nil) (chain : c.Chain (Arc triangles v))
    {h : HalfedgeId} (mem : h ∈ ring) : ∃ z ∈ c, m.Spans ns h v z := by
  have closed : ∀ k k', ring.Adjacent k k' → (∃ z ∈ c, m.Spans ns k' v z) →
      ∃ z ∈ c, m.Spans ns k v z := by
    rintro k k' adjacent ⟨z, zMem, spans⟩
    rcases Cycle.exists_adjacent zMem with ⟨z', zAdjacent⟩
    rcases drawn.exists_corner (chain.rel zAdjacent) with ⟨g, h, spansG, spansH, follows⟩
    cases drawn.unique h k' v z spansH spans
    cases (around.follows adjacent).left_unique follows
    exact ⟨z', zAdjacent.mem_right, spansG⟩
  obtain ⟨z, zMem⟩ : ∃ z, z ∈ c := by
    induction c with
    | nil => exact absurd rfl nonempty
    | cons z l _ => exact ⟨z, by simp⟩
  rcases Cycle.exists_adjacent zMem with ⟨z', zAdjacent⟩
  rcases drawn.exists_corner (chain.rel zAdjacent) with ⟨-, k, -, spans, -⟩
  have start := (around.mem_iff k).2 (spans.starts atV)
  exact Cycle.forall_of_closed closed start ⟨z, zMem, spans⟩ h mem

/-- What has been drawn fits around each node. -/
theorem fanned : Fanned triangles := by
  intro v c nonempty _ chain x y arc
  rcases drawn.line v x (drawn.sides_subset arc.side) with ⟨h, spans⟩
  rcases spans.exists_start with ⟨n, atV, start⟩
  rcases drawn.sound.exists_ring n with ⟨ring, around⟩
  obtain ⟨z, mem, spans'⟩ :=
    drawn.mem_of_ring around atV nonempty chain ((around.mem_iff h).2 start)
  rcases spans.ends_unique drawn.ground spans' with ⟨-, rfl⟩
  rcases Cycle.exists_adjacent mem with ⟨y', adjacent⟩
  rwa [arc.unique (chain.rel adjacent) drawn.sides_nodup]

/-! ## From the ring to a cycle of arcs -/

/-- A closed cycle of arcs that is read off the ring meets every arc. -/
theorem ends_mem_of_cycle {darts : Cycle HalfedgeId} (fanned : Fanned more)
    (nonempty : darts ≠ Cycle.nil) (nodup : darts.Nodup)
    (spanned : ∀ h ∈ darts, ∃ x, m.Spans ns h v x)
    (chain : darts.Chain fun g h => ∀ x y, m.Spans ns g v y → m.Spans ns h v x → Arc more v x y)
    (arc : Arc more v x y) :
    (∃ h ∈ darts, m.Spans ns h v x) ∧ ∃ h ∈ darts, m.Spans ns h v y := by
  have ends : ∀ h, ∃ x, h ∈ darts → m.Spans ns h v x := fun h => by
    by_cases mem : h ∈ darts
    · exact (spanned h mem).imp fun _ spans _ => spans
    · exact ⟨0, fun absent => absurd absent mem⟩
  choose place spans using ends
  have back : ∀ z ∈ (darts.map place).reverse, ∃ h ∈ darts, m.Spans ns h v z := by
    intro z mem
    rcases Cycle.mem_map.1 (Cycle.mem_reverse_iff.1 mem) with ⟨h, hMem, rfl⟩
    exact ⟨h, hMem, spans h hMem⟩
  have adjacent : (darts.map place).reverse.Adjacent x y := by
    refine fanned v _ ?_ ?_ ?_ x y arc
    · cases darts using Cycle.induction_on with
      | nil => exact absurd rfl nonempty
      | cons h l _ => exact fun same => absurd (congrArg Cycle.length same) (by simp)
    · rw [Cycle.nodup_reverse_iff]
      induction darts using Quotient.inductionOn' with
      | h l =>
        refine List.Nodup.map_on (fun g gMem h hMem same => ?_) nodup
        exact drawn.unique g h v _ (spans g gMem) (same ▸ spans h hMem)
    · rw [Cycle.chain_reverse_iff, Cycle.chain_map]
      apply Cycle.chain_of_adjacent
      intro g h adjacent
      exact chain.rel adjacent _ _ (spans g adjacent.mem_left) (spans h adjacent.mem_right)
  exact ⟨back x adjacent.mem_left, back y adjacent.mem_right⟩

section More

variable (includes : ∀ v x y, Arc triangles v x y → Arc more v x y)

include includes

/-- Where more triangles would fit around each node, an interior node is not the corner of one that
has a side without an edge. -/
theorem not_interior (fanned : Fanned more) (atV : ns[v]? = some n) (arc : Arc more v x y)
    (missing : (∀ h, ¬ m.Spans ns h v x) ∨ ∀ h, ¬ m.Spans ns h v y) : ¬ m.Interior n := by
  rintro ⟨⟨h, start⟩, faced⟩
  rcases drawn.sound.exists_ring n with ⟨ring, around⟩
  have nonempty : ring ≠ Cycle.nil := by
    rintro rfl
    exact Cycle.notMem_nil h ((around.mem_iff h).2 start)
  have spanned : ∀ h ∈ ring, ∃ x, m.Spans ns h v x := fun h mem => by
    rcases drawn.exists_spans atV ((around.mem_iff h).1 mem) with ⟨x, spans, -⟩
    exact ⟨x, spans⟩
  have chain : ring.Chain fun g h =>
      ∀ x y, m.Spans ns g v y → m.Spans ns h v x → Arc more v x y :=
    Cycle.chain_of_adjacent fun g h adjacent x y spans spans' =>
      includes v x y <| drawn.arc_of_follows (around.follows adjacent)
        (faced g ((around.mem_iff g).1 adjacent.mem_left)) spans spans'
  obtain ⟨⟨g, -, spansX⟩, h, -, spansY⟩ :=
    drawn.ends_mem_of_cycle fanned nonempty around.nodup spanned chain arc
  exact missing.elim (fun absent => absent g spansX) fun absent => absent h spansY

/-- If there are faces all the way from the one side of a triangle at its corner to the other,
there is nothing beyond where more triangles would fit around each node. -/
theorem mem_of_stretch (fanned : Fanned more) (arc : Arc more v x y) {i o : HalfedgeId}
    (into : m.Spans ns i v y) (out : m.Spans ns o v x) {W C : List HalfedgeId}
    (around : m.Ring n ↑(W ++ i :: C)) (first : W.head? = some o)
    (faced : ∀ a ∈ W, ¬ m.Free a.pair) {h : HalfedgeId} {z : Nat} (spans : m.Spans ns h v z)
    (side : (v, z) ∈ sides more ∨ (z, v) ∈ sides more) : h ∈ W ++ [i] := by
  rcases out.exists_start with ⟨n', atV, start⟩
  cases start.symm.trans ((around.mem_iff o).1 (by simp [List.mem_of_head? first]))
  have nodup : (W ++ i :: C).Nodup := around.nodup
  have ordered := (Cycle.chain_coe_iff.1 around.chain).1
  have split : W ++ i :: C = (W ++ [i]) ++ C := by simp
  rw [split] at around nodup ordered
  have spanned : ∀ a ∈ W ++ [i], ∃ x, m.Spans ns a v x := fun a mem => by
    obtain ⟨x, spans, -⟩ := drawn.exists_spans atV
      ((around.mem_iff a).1 (List.mem_append_left C mem))
    exact ⟨x, spans⟩
  have agree : ∀ a b, ¬ m.Free a.pair → m.Follows a b →
      ∀ x y, m.Spans ns a v y → m.Spans ns b v x → Arc more v x y :=
    fun a b aFaced follows x y spans spans' =>
      includes v x y (drawn.arc_of_follows follows aFaced spans spans')
  have chain : Cycle.Chain (fun a b =>
      ∀ x y, m.Spans ns a v y → m.Spans ns b v x → Arc more v x y) ↑(W ++ [i]) := by
    refine Cycle.chain_coe_iff.2
      ⟨Cycle.isChain_of_agree agree (by simpa using faced) ordered.left_of_append, ?_⟩
    -- The triangle itself closes the cycle.
    intro a last b here x' y' spans spans'
    cases Option.some.inj (List.getLast?_concat.symm.trans last)
    cases Option.some.inj ((List.head?_append.trans (by rw [first]; rfl)).symm.trans here)
    rcases into.ends_unique drawn.ground spans with ⟨-, rfl⟩
    rcases out.ends_unique drawn.ground spans' with ⟨-, rfl⟩
    exact arc
  have nonempty : ((W ++ [i] : List HalfedgeId) : Cycle HalfedgeId) ≠ Cycle.nil := fun empty =>
    absurd (congrArg Cycle.length empty) (by simp)
  have nodup' : ((W ++ [i] : List HalfedgeId) : Cycle HalfedgeId).Nodup := nodup.of_append_left
  obtain ⟨a, mem, spans'⟩ : ∃ a ∈ W ++ [i], m.Spans ns a v z := by
    rcases side with side | side
    · rcases TriangleList.exists_arc side with ⟨y', arc'⟩
      exact (drawn.ends_mem_of_cycle fanned nonempty nodup' spanned chain arc').1
    · rcases TriangleList.exists_arc side with ⟨x', arc'⟩
      exact (drawn.ends_mem_of_cycle fanned nonempty nodup' spanned chain arc'.rotate).2
  rwa [drawn.unique h a v z spans spans']

/-- Where more triangles would fit around each node, the sides of each can be joined, as long as
all lines are sides of these triangles. -/
theorem joinable (fanned : Fanned more) (subset : lines ⊆ sides more) (arc : Arc more v x y)
    (apart : x ≠ y) {i o : HalfedgeId} (into : m.Spans ns i v y) (out : m.Spans ns o v x) :
    m.Joinable i o := by
  rcases out.exists_start with ⟨n, atV, start⟩
  rcases drawn.sound.exists_ring n with ⟨ring, around⟩
  rcases Cycle.exists_coe_cons ((around.mem_iff o).2 start) with ⟨l, rfl⟩
  have mem : i ∈ o :: l := (around.mem_iff i).2 (into.starts atV)
  rcases List.append_of_mem mem with ⟨W, C, split⟩
  have first : W.head? = some o := by
    cases W with
    | nil =>
      cases (List.cons.inj split).1
      exact absurd (out.ends_unique drawn.ground into).2 apart
    | cons a W => rw [(List.cons.inj split).1]; rfl
  rw [split] at around
  by_cases room : ∃ a ∈ W, m.Free a.pair
  · exact .inr ⟨n, W, C, around, first, room⟩
  refine .inl (around.follows ?_)
  cases C with
  | nil => exact Cycle.adjacent_of_ends (by simp) (by simp [first])
  | cons q C =>
    have faced : ∀ a ∈ W, ¬ m.Free a.pair := fun a aMem free => room ⟨a, aMem, free⟩
    rcases drawn.exists_spans atV ((around.mem_iff q).1 (by simp)) with ⟨z, spans, line⟩
    have inside := drawn.mem_of_stretch includes fanned arc into out around first faced spans
      (line.imp (fun mem => subset mem) fun mem => subset mem)
    have nodup : (W ++ i :: q :: C).Nodup := around.nodup
    rw [show W ++ i :: q :: C = (W ++ [i]) ++ q :: C by simp] at nodup
    exact absurd rfl (List.nodup_append.1 nodup |>.2.2 q inside q (by simp))

/-- Where more triangles would fit around each node, their sides can be added. -/
theorem not_unsided (fanned : Fanned more) (atU : ns[u]? = some n₁) (atW : ns[w]? = some n₂)
    (arc : Arc more u w x) (apart : u ≠ w) {error : MeshError} :
    ¬ m.Unsided n₁ n₂ error := by
  rintro ⟨missing, unable⟩
  have absent := fun h => not_spans_of_missing (h := h) atU atW missing
  have live : ∀ {k v}, ns[v]? = some k → m.containsNode k = true := fun place =>
    drawn.grown.containsNode (drawn.ground.live _ (List.mem_of_getElem? place))
  refine unable.not_connectable ⟨live atU, live atW, ?_, ?_, ?_⟩
  · rintro rfl
    exact apart (drawn.ground.place_unique atU atW)
  · exact drawn.not_interior includes fanned atU arc (.inl absent)
  · exact drawn.not_interior includes fanned atW arc.rotate
      (.inr fun h spans => absent h.pair spans.pair)

end More

section Triangle

variable {t : Corners Nat} (corners : t.toList.Nodup) (fanned : Fanned (triangles ++ [t]))
  (nodup : (sides (triangles ++ [t])).Nodup)

include corners fanned nodup

/-- A triangle fits between its sides if the list with it can be built. -/
theorem fits {h₁ h₂ h₃ : HalfedgeId} (side₁ : m.Spans ns h₁ t.a t.b)
    (side₂ : m.Spans ns h₂ t.b t.c) (side₃ : m.Spans ns h₃ t.c t.a)
    (subset : lines ⊆ sides (triangles ++ [t])) : m.Fits h₁ h₂ h₃ := by
  rcases drawn.chain side₁ side₂ side₃ with ⟨a, b, c, -, -, -, chain⟩
  have includes : ∀ v x y, Arc triangles v x y → Arc (triangles ++ [t]) v x y :=
    fun _ _ _ => Arc.append_left
  have free : ∀ {h v x}, m.Spans ns h v x → (v, x) ∈ t.sides → m.Free h := fun spans side => by
    rw [TriangleList.sides_concat] at nodup
    apply (drawn.free_iff _ _ _ spans).2
    intro known
    exact (List.nodup_append.1 nodup).2.2 _ known _ side rfl
  have arc := TriangleList.arc_concat_self triangles t
  rcases Corners.nodup_iff.1 corners with ⟨ab, bc, ca⟩
  constructor
  case free₁ => exact free side₁ (by simp [Corners.sides])
  case free₂ => exact free side₂ (by simp [Corners.sides])
  case free₃ => exact free side₃ (by simp [Corners.sides])
  case chained₁ => rw [chain.side₁.finish, chain.side₂.start]
  case chained₂ => rw [chain.side₂.finish, chain.side₃.start]
  case chained₃ => rw [chain.side₃.finish, chain.side₁.start]
  case joinable₁ =>
    exact drawn.joinable includes fanned subset arc.rotate ca side₁.pair side₂
  case joinable₂ =>
    exact drawn.joinable includes fanned subset arc.rotate.rotate ab side₂.pair side₃
  case joinable₃ => exact drawn.joinable includes fanned subset arc bc side₃.pair side₁

/-- A triangle can be added to the drawing if the list with it can be built. -/
theorem not_unfit (subset : lines ⊆ sides triangles) {a b c : NodeId}
    (atA : ns[t.a]? = some a) (atB : ns[t.b]? = some b) (atC : ns[t.c]? = some c)
    {error : MeshError} : ¬ m.Unfit a b c error := by
  have includes : ∀ v x y, Arc triangles v x y → Arc (triangles ++ [t]) v x y :=
    fun _ _ _ => Arc.append_left
  have arc := TriangleList.arc_concat_self triangles t
  rcases Corners.nodup_iff.1 corners with ⟨ab, bc, ca⟩
  intro unfit
  cases unfit with
  | side₁ unsided => exact drawn.not_unsided includes fanned atA atB arc ab unsided
  | side₂ side₁ unsided =>
    rcases drawn.of_sided atA atB side₁ with ⟨drawn₁, -⟩
    exact drawn₁.not_unsided includes fanned atB atC arc.rotate bc unsided
  | side₃ side₁ side₂ unsided =>
    rcases drawn.of_sided atA atB side₁ with ⟨drawn₁, -⟩
    rcases drawn₁.of_sided atB atC side₂ with ⟨drawn₂, -⟩
    exact drawn₂.not_unsided includes fanned atC atA arc.rotate.rotate ca unsided
  | face outlined misfit =>
    rcases drawn.of_outlined atA atB atC outlined with ⟨drawn₃, spans₁, spans₂, spans₃⟩
    refine misfit.not_fits (drawn₃.fits corners fanned nodup spans₁ spans₂ spans₃ ?_)
    rw [TriangleList.sides_concat]
    exact List.append_subset.2
      ⟨List.subset_append_of_subset_left _ subset, List.subset_append_right _ _⟩

end Triangle

end Drawn

end Mesh

end PlanarMesh
