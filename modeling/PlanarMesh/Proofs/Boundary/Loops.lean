import PlanarMesh.Boundary
import PlanarMesh.Proofs.Incidence
import PlanarMesh.Proofs.Reachability

/-!
# Boundary loops

On a sound mesh no two half-edges have the same next one, so walking along `next` leads back to
where it started (`Sound.exists_loop`), and the fuel of the walk is never what ends it.  The
boundary is closed along loops; hence the loop of a half-edge without a face meets no face at all.

The scan for boundary loops goes through the half-edges in order.  Whatever it has seen is closed
under `next` both ways, so each further loop is new as a whole, and the half-edge at which the scan
found it is the smallest on it (`Sound.exists_boundaryLoopsFrom`).
-/

namespace PlanarMesh

/-! ## The order of half-edges -/

theorem HalfedgeId.le_of_lt {g h : HalfedgeId} (before : g < h) : g ≤ h := by
  rcases before with edge | ⟨edge, side⟩
  · exact .inl edge
  · exact .inr ⟨edge, Nat.le_of_lt side⟩

theorem HalfedgeId.le_refl (h : HalfedgeId) : h ≤ h :=
  .inr ⟨rfl, Nat.le_refl _⟩

namespace Mesh

variable {m : Mesh}

/-- Half-edges are listed in their order. -/
theorem pairwise_halfedgeIds (m : Mesh) : m.halfedgeIds.Pairwise (· < ·) := by
  rw [halfedgeIds, List.pairwise_flatMap]
  constructor
  · intro e _
    have before : e.first < e.second := .inr ⟨rfl, Nat.zero_lt_one⟩
    simp [Key.halfedges, before]
  · refine m.edges.pairwise_keys.imp fun {e e'} before h side h' side' => ?_
    have same : h.edge = e := by rcases List.mem_pair.1 side with rfl | rfl <;> rfl
    have same' : h'.edge = e' := by rcases List.mem_pair.1 side' with rfl | rfl <;> rfl
    exact .inl (same ▸ same' ▸ before)

/-! ## Loops -/

/-- The list goes along `next` from `start` on, and once around. -/
structure Circles (m : Mesh) (start : HalfedgeId) (l : List HalfedgeId) : Prop where
  head? : l.head? = some start
  nodup : l.Nodup
  chain : l.IsChain fun g h => m.next g = .ok h
  closes : ∀ g ∈ l.getLast?, m.next g = .ok start

namespace Circles

variable {start : HalfedgeId} {l : List HalfedgeId}

theorem start_mem (circles : m.Circles start l) : start ∈ l :=
  List.mem_of_head? circles.head?

/-- Read as a cycle, the list leads from each member to the next one. -/
theorem cycle (circles : m.Circles start l) :
    Cycle.Chain (fun g h => m.next? g = some h) (l : Cycle HalfedgeId) := by
  apply Cycle.chain_coe_iff.2
  constructor
  · exact circles.chain.imp fun _ _ => next_eq_ok_iff.1
  · intro g last h first
    rw [circles.head?, Option.mem_some_iff] at first
    exact next_eq_ok_iff.1 (first ▸ circles.closes g last)

/-- The walk along a loop follows it once around, whatever the other records say. -/
theorem loop (circles : m.Circles start l) : m.loop start = .ok l := by
  rcases List.head?_eq_some_iff.1 circles.head? with ⟨rest, rfl⟩
  have lives : ∀ g ∈ start :: rest, m.containsHalfedge g = true := by
    intro g mem
    rcases Cycle.exists_adjacent (c := ((start :: rest : List HalfedgeId) : Cycle HalfedgeId)) mem
      with ⟨g', adjacent⟩
    exact containsHalfedge_iff_next?.2 ⟨g', circles.cycle.rel adjacent⟩
  have walked : walkFrom m.next? start m.halfedgeCount start = start :: rest :=
    walkFrom_of_isChain (circles.chain.imp fun _ _ => next_eq_ok_iff.1)
      (fun g last => next_eq_ok_iff.1 (circles.closes g last)) (List.nodup_cons.1 circles.nodup).1
      (length_le_halfedgeCount circles.nodup lives)
  rcases Option.isSome_iff_exists.1 (lives start List.mem_cons_self) with ⟨record, found⟩
  rw [Mesh.loop, halfedge_eq_ok_iff.2 found, walked]
  rfl

/-- What passes from each half-edge to the one before it holds all around. -/
theorem forall_of_closed (circles : m.Circles start l) {p : HalfedgeId → Prop}
    (closed : ∀ g h, m.next? g = some h → p h → p g) {h : HalfedgeId} (mem : h ∈ l)
    (holds : p h) : ∀ g ∈ l, p g :=
  Cycle.forall_of_closed (c := (l : Cycle HalfedgeId))
    (fun g h adjacent => closed g h (circles.cycle.rel adjacent)) mem holds

/-- A loop has a half-edge and the one after it, or neither. -/
theorem mem_iff (circles : m.Circles start l) (sound : m.Sound) {g h : HalfedgeId}
    (next : m.next? g = some h) : g ∈ l ↔ h ∈ l := by
  constructor
  · intro mem
    rcases Cycle.exists_adjacent (c := (l : Cycle HalfedgeId)) mem with ⟨h', adjacent⟩
    cases (circles.cycle.rel adjacent).symm.trans next
    exact adjacent.mem_right
  · intro mem
    rcases Cycle.exists_adjacent_to (c := (l : Cycle HalfedgeId)) mem with ⟨g', adjacent⟩
    rw [sound.next?_injective next (circles.cycle.rel adjacent)]
    exact adjacent.mem_left

end Circles

namespace Sound

variable (sound : m.Sound)

include sound

/-- The walk along a loop returns to the half-edge it starts from. -/
theorem exists_loop {h : HalfedgeId} (live : m.containsHalfedge h = true) :
    ∃ l, m.loop h = .ok l ∧ m.Circles h l := by
  have finite : {h | m.containsHalfedge h = true}.Finite :=
    m.halfedgeIds.finite_toSet.subset fun h live => mem_halfedgeIds.2 live
  have stays : ∀ h ∈ {h | m.containsHalfedge h = true},
      ∃ g ∈ {h | m.containsHalfedge h = true}, m.next? h = some g := by
    intro h live
    rcases containsHalfedge_iff_next?.1 live with ⟨g, next⟩
    exact ⟨g, (sound.follows_of_next? next).live_right, next⟩
  rcases Cycle.exists_of_injective finite stays (fun _ _ _ => sound.next?_injective) live with
    ⟨cycle, nodup, chain, mem_iff⟩
  rcases Cycle.exists_coe_cons ((mem_iff h).2 .refl) with ⟨l, rfl⟩
  rcases Cycle.chain_coe_iff.1 chain with ⟨steps, closes⟩
  have circles : m.Circles h (h :: l) := by
    constructor
    case head? => rfl
    case nodup => exact nodup
    case chain => exact steps.imp fun _ _ => next_eq_ok_iff.2
    case closes => exact fun g last => next_eq_ok_iff.2 (closes g last h rfl)
  exact ⟨h :: l, circles.loop, circles⟩

/-- The loop of a half-edge on the boundary stays on the boundary. -/
theorem exists_boundaryLoop {h : HalfedgeId} (free : m.Free h) :
    ∃ l, m.boundaryLoop h = .ok l ∧ m.Circles h l ∧ ∀ g ∈ l, m.Free g := by
  have live := containsHalfedge_iff_faceOf?.2 ⟨none, free⟩
  rcases sound.exists_loop live with ⟨l, looped, circles⟩
  have frees : ∀ g ∈ l, m.Free g := by
    apply circles.forall_of_closed _ circles.start_mem free
    intro g h next free
    exact (sound.faceOf?_next? next).symm.trans free
  refine ⟨l, ?_, circles, frees⟩
  have passes : (l.forM fun g => do
      unless ← m.isBoundary g do throw (.invariantViolation (.boundaryLoopFaced h g))) =
      Except.ok () := by
    apply forM_eq_ok_iff.2
    intro g mem
    rw [isBoundary_eq_true_iff.2 (frees g mem)]
    rfl
  simp only [boundaryLoop, isBoundary_eq_true_iff.2 free, looped, bind, Except.bind] at passes ⊢
  simp only [↓reduceIte, pure, Except.pure] at passes ⊢
  rw [passes]

end Sound

/-! ## All loops -/

/-- The list is one boundary loop, from its smallest half-edge on. -/
def BoundaryLoop (m : Mesh) (l : List HalfedgeId) : Prop :=
  ∃ start, m.Circles start l ∧ (∀ g ∈ l, start ≤ g) ∧ ∀ g ∈ l, m.isBoundary g = .ok true

/-- The first loop starts before the second. -/
def StartsBefore (l l' : List HalfedgeId) : Prop :=
  ∀ h ∈ l.head?, ∀ h' ∈ l'.head?, h < h'

/-- The lists are the loops through boundary half-edges of which none is in `seen`. -/
structure LoopsBeyond (m : Mesh) (seen : List HalfedgeId) (loops : List (List HalfedgeId)) :
    Prop where
  mem_iff : ∀ h, h ∈ loops.flatten ↔ m.isBoundary h = .ok true ∧ h ∉ seen
  nodup : loops.flatten.Nodup
  loop : ∀ l ∈ loops, m.BoundaryLoop l
  ordered : loops.Pairwise StartsBefore

namespace LoopsBeyond

variable {seen : List HalfedgeId} {loops : List (List HalfedgeId)}

theorem nil (covers : ∀ h, m.Free h → h ∈ seen) : m.LoopsBeyond seen [] where
  mem_iff h := by
    simp only [List.flatten_nil, List.not_mem_nil, false_iff, not_and, not_not,
      isBoundary_eq_true_iff]
    exact covers h
  nodup := List.nodup_nil
  loop := by simp
  ordered := .nil

/-- One more loop in front, which the scan had not seen. -/
theorem cons {start : HalfedgeId} {l : List HalfedgeId} (circles : m.Circles start l)
    (least : ∀ g ∈ l, start ≤ g) (frees : ∀ g ∈ l, m.Free g) (fresh : ∀ g ∈ l, g ∉ seen)
    (rest : m.LoopsBeyond (l ++ seen) loops) (first : ∀ l' ∈ loops, StartsBefore l l') :
    m.LoopsBeyond seen (l :: loops) where
  mem_iff h := by
    rw [List.flatten_cons, List.mem_append, rest.mem_iff, List.mem_append]
    by_cases mem : h ∈ l
    · simp [mem, isBoundary_eq_true_iff.2 (frees h mem), fresh h mem]
    · simp [mem]
  nodup := by
    rw [List.flatten_cons, List.nodup_append']
    refine ⟨circles.nodup, rest.nodup, fun g mem later => ?_⟩
    exact ((rest.mem_iff g).1 later).2 (List.mem_append_left seen mem)
  loop := by
    rw [List.forall_mem_cons]
    exact ⟨⟨start, circles, least, fun g mem => isBoundary_eq_true_iff.2 (frees g mem)⟩, rest.loop⟩
  ordered := List.pairwise_cons.2 ⟨first, rest.ordered⟩

end LoopsBeyond

/-- The scan lists the loops beyond those that it has seen, provided that it has seen whole loops
and everything before the half-edges that are left. -/
theorem Sound.exists_boundaryLoopsFrom (sound : m.Sound) {seen rest : List HalfedgeId}
    (sorted : rest.Pairwise (· < ·)) (live : ∀ h ∈ rest, m.containsHalfedge h = true)
    (closed : ∀ g h, m.next? g = some h → (g ∈ seen ↔ h ∈ seen))
    (covers : ∀ h, m.Free h → h ∈ seen ∨ h ∈ rest) :
    ∃ loops, m.boundaryLoopsFrom seen rest = .ok loops ∧ m.LoopsBeyond seen loops ∧
      ∀ l ∈ loops, ∀ h ∈ l.head?, h ∈ rest := by
  induction rest generalizing seen with
  | nil =>
    have none : m.LoopsBeyond seen [] := .nil fun h free => by simpa using covers h free
    exact ⟨[], rfl, none, by simp⟩
  | cons h rest inductionHypothesis =>
    rcases List.pairwise_cons.1 sorted with ⟨first, sorted⟩
    rcases List.forall_mem_cons.1 live with ⟨here, live⟩
    by_cases passed : h ∈ seen ∨ ¬ m.Free h
    · have covers' : ∀ g, m.Free g → g ∈ seen ∨ g ∈ rest := by
        intro g free
        rcases covers g free with mem | mem
        · exact .inl mem
        · rcases List.mem_cons.1 mem with rfl | mem
          · exact .inl (passed.resolve_right (not_not.2 free))
          · exact .inr mem
      rcases inductionHypothesis sorted live closed covers' with ⟨loops, found, beyond, starts⟩
      refine ⟨loops, ?_, beyond, fun l mem g start => List.mem_cons_of_mem h (starts l mem g start)⟩
      rw [boundaryLoopsFrom]
      by_cases old : h ∈ seen
      · rw [if_pos old, found]
      · have faced := isBoundary_of_not_free here (passed.resolve_left old)
        rw [if_neg old, faced]
        exact found
    · rcases not_or.1 passed with ⟨fresh, free⟩
      rw [not_not] at free
      rcases sound.exists_boundaryLoop free with ⟨l, looped, circles, frees⟩
      have news : ∀ g ∈ l, g ∉ seen :=
        circles.forall_of_closed (fun g h next => mt (closed g h next).1) circles.start_mem fresh
      have least : ∀ g ∈ l, h ≤ g := by
        intro g mem
        rcases List.mem_cons.1 ((covers g (frees g mem)).resolve_left (news g mem)) with rfl | later
        · exact g.le_refl
        · exact HalfedgeId.le_of_lt (first g later)
      have closed' : ∀ g g', m.next? g = some g' → (g ∈ l ++ seen ↔ g' ∈ l ++ seen) := by
        intro g g' next
        rw [List.mem_append, List.mem_append, circles.mem_iff sound next, closed g g' next]
      have covers' : ∀ g, m.Free g → g ∈ l ++ seen ∨ g ∈ rest := by
        intro g free
        rw [List.mem_append]
        rcases covers g free with mem | mem
        · exact .inl (.inr mem)
        · rcases List.mem_cons.1 mem with rfl | mem
          · exact .inl (.inl circles.start_mem)
          · exact .inr mem
      rcases inductionHypothesis sorted live closed' covers' with ⟨loops, found, beyond, starts⟩
      have before : ∀ l' ∈ loops, StartsBefore l l' := by
        intro l' mem g start g' start'
        cases circles.head?.symm.trans start
        exact first g' (starts l' mem g' start')
      refine ⟨l :: loops, ?_, .cons circles least frees news beyond before, ?_⟩
      · rw [boundaryLoopsFrom, if_neg fresh, isBoundary_eq_true_iff.2 free]
        simp only [bind, Except.bind, ↓reduceIte, looped, found, pure, Except.pure]
      · rw [List.forall_mem_cons]
        constructor
        · intro g start
          cases circles.head?.symm.trans start
          exact List.mem_cons_self
        · exact fun l' mem g start => List.mem_cons_of_mem h (starts l' mem g start)

/-- The scan of a sound mesh lists all boundary loops. -/
theorem Sound.exists_boundaryLoops (sound : m.Sound) :
    ∃ loops, m.boundaryLoops = .ok loops ∧ m.LoopsBeyond [] loops := by
  have live : ∀ h ∈ m.halfedgeIds, m.containsHalfedge h = true := fun _ => mem_halfedgeIds.1
  have covers : ∀ h, m.Free h → h ∈ [] ∨ h ∈ m.halfedgeIds := fun h free =>
    .inr (mem_halfedgeIds.2 (containsHalfedge_iff_faceOf?.2 ⟨none, free⟩))
  rcases sound.exists_boundaryLoopsFrom m.pairwise_halfedgeIds live (by simp) covers with
    ⟨loops, found, beyond, -⟩
  exact ⟨loops, found, beyond⟩

end Mesh

end PlanarMesh
