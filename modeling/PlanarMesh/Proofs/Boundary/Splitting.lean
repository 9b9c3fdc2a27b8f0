import PlanarMesh.Proofs.Boundary.Loops
import PlanarMesh.Proofs.Refinement

/-!
# Boundary loops around a split edge

When an edge is split, each of its sides on the boundary makes way for its two halves, which
follow each other (`SplitsBoundary`).  At an end of the edge the first half is attached at the
first free place.  If there is no choice, it comes to where the side was; so the boundary loops
are the old ones with the halves in the places of the sides, as long as at most two half-edges
without a face arrive where a side without a face starts.

With three of them the first half can come to another place: in the tripod, the edge that is split
changes places with another one (`boundaryLoops_tripod`).
-/

namespace PlanarMesh

namespace Mesh

variable {m m' : Mesh}

/-! ## Loops as cycles -/

/-- The lists go along `next` and around, and through every half-edge without a face once. -/
structure Covers (m : Mesh) (loops : List (List HalfedgeId)) : Prop where
  mem_iff : ∀ h, h ∈ loops.flatten ↔ m.Free h
  nodup : loops.flatten.Nodup
  nonempty : ∀ l ∈ loops, l ≠ []
  cycle : ∀ l ∈ loops, Cycle.Chain (fun g h => m.next? g = some h) (l : Cycle HalfedgeId)

theorem LoopsBeyond.covers {loops : List (List HalfedgeId)} (beyond : m.LoopsBeyond [] loops) :
    m.Covers loops where
  mem_iff h := by simp [beyond.mem_iff h, isBoundary_eq_true_iff]
  nodup := beyond.nodup
  nonempty l mem := by
    rcases beyond.loop l mem with ⟨start, circles, -⟩
    exact List.ne_nil_of_mem circles.start_mem
  cycle l mem := by
    rcases beyond.loop l mem with ⟨start, circles, -⟩
    exact circles.cycle

namespace Covers

variable {loops loops' : List (List HalfedgeId)}

theorem nodup_cycles (covers : m.Covers loops) : (loops.map Cycle.ofList).Nodup := by
  rw [List.Nodup, List.pairwise_map]
  refine (List.nodup_flatten.1 covers.nodup).2.imp_of_mem fun {l l'} mem _ disjoint same => ?_
  rcases List.exists_mem_of_ne_nil l (covers.nonempty l mem) with ⟨h, here⟩
  have there : h ∈ (l' : Cycle HalfedgeId) := same ▸ (show h ∈ (l : Cycle HalfedgeId) from here)
  exact disjoint here there

/-- Each loop is among the loops of any other list of them. -/
theorem mem_cycles (covers : m.Covers loops) (covers' : m.Covers loops')
    {c : Cycle HalfedgeId} (listed : c ∈ loops.map Cycle.ofList) :
    c ∈ loops'.map Cycle.ofList := by
  rcases List.mem_map.1 listed with ⟨l, mem, rfl⟩
  rcases List.exists_mem_of_ne_nil l (covers.nonempty l mem) with ⟨h, here⟩
  have free := (covers.mem_iff h).1 (List.mem_flatten.2 ⟨l, mem, here⟩)
  rcases List.mem_flatten.1 ((covers'.mem_iff h).2 free) with ⟨l', mem', there⟩
  have functional : ∀ g k k', m.next? g = some k → m.next? g = some k' → k = k' :=
    fun _ _ _ first second => Option.some.inj (first.symm.trans second)
  have same : (l : Cycle HalfedgeId) = l' := Cycle.eq_of_chain functional
    ((List.nodup_flatten.1 covers.nodup).1 l mem) ((List.nodup_flatten.1 covers'.nodup).1 l' mem')
    (covers.cycle l mem) (covers'.cycle l' mem') here there
  exact List.mem_map.2 ⟨l', mem', same.symm⟩

/-- Up to where they start and in which order they are listed, there is one list of loops. -/
theorem perm (covers : m.Covers loops) (covers' : m.Covers loops') :
    (loops.map Cycle.ofList).Perm (loops'.map Cycle.ofList) :=
  (List.perm_ext_iff_of_nodup covers.nodup_cycles covers'.nodup_cycles).2 fun _ =>
    ⟨covers.mem_cycles covers', covers'.mem_cycles covers⟩

end Covers

/-! ## Halves in place of sides -/

namespace Interposed

variable {x n₁ n₂ : NodeId} {e a b : EdgeId} {loops loops' : List (List HalfedgeId)}
  (interposed : m.Interposed x n₁ n₂ e a b m')

include interposed

/-- Where there was no choice, the boundary goes on as before. -/
theorem next {g k : HalfedgeId} {n : NodeId} (sound : m.Sound) (free : m.Free g)
    (next : m.next? g = some k) (start : m.origin? k = some n) (calm : m.Calm e n) :
    ∀ h ∈ (halves e a b g).getLast?, ∀ h' ∈ (halves e a b k).head?, m'.next? h = some h' := by
  intro h last h' first
  rw [getLast?_halves, Option.mem_some_iff] at last
  rw [head?_halves, Option.mem_some_iff] at first
  have follows := sound.follows_of_next? next
  have start' := (sound.origin?_of_follows follows).symm.trans start
  have free' : m.Free g.pair.pair := by rwa [HalfedgeId.pair_pair]
  rw [← last, ← first]
  exact (interposed.follows g.pair k n free' start' calm follows).1

theorem mem_flatMap_iff (mem_iff : ∀ g, g ∈ loops.flatten ↔ m.Free g) (h : HalfedgeId) :
    h ∈ loops.flatten.flatMap (halves e a b) ↔ m'.Free h := by
  rw [List.mem_flatMap, interposed.free_iff]
  exact exists_congr fun g => and_congr_left fun _ => mem_iff g

theorem nodup_flatMap {l : List HalfedgeId} (nodup : l.Nodup) (free : ∀ g ∈ l, m.Free g) :
    (l.flatMap (halves e a b)).Nodup := by
  have fresh : ∀ g ∈ l, g.edge ≠ a ∧ g.edge ≠ b := fun g mem =>
    interposed.fresh g (containsHalfedge_iff_faceOf?.2 ⟨none, free g mem⟩)
  refine List.nodup_flatMap.2 ⟨fun g _ => nodup_halves interposed.apart g, ?_⟩
  refine nodup.imp_of_mem fun {g g'} mem mem' ne h here there => ne ?_
  exact eq_of_mem_halves interposed.apart (fresh g mem) (fresh g' mem') here there

/-- With the halves in the places of the sides, the old loops are the new ones. -/
theorem covers (sound : m.Sound) (calm : ∀ n, m.Calm e n) (covers : m.Covers loops) :
    m'.Covers (loops.map fun l => l.flatMap (halves e a b)) := by
  have whole : (loops.map fun l => l.flatMap (halves e a b)).flatten =
      loops.flatten.flatMap (halves e a b) := by
    simp [List.flatMap_def, List.map_flatten, List.flatten_flatten, Function.comp_def]
  have free : ∀ g ∈ loops.flatten, m.Free g := fun g => (covers.mem_iff g).1
  have steps : ∀ l ∈ loops, Cycle.Chain (fun g k => m.Free g ∧ m.next? g = some k)
      (l : Cycle HalfedgeId) := by
    intro l mem
    refine Cycle.chain_of_adjacent fun g k adjacent => ⟨?_, (covers.cycle l mem).rel adjacent⟩
    exact free g (List.mem_flatten.2 ⟨l, mem, adjacent.mem_left⟩)
  constructor
  case mem_iff =>
    rw [whole]
    exact interposed.mem_flatMap_iff covers.mem_iff
  case nodup =>
    rw [whole]
    exact interposed.nodup_flatMap covers.nodup free
  case nonempty =>
    rw [List.forall_mem_map]
    intro l mem
    rcases List.exists_mem_of_ne_nil l (covers.nonempty l mem) with ⟨g, here⟩
    rcases List.exists_mem_of_ne_nil _ (halves_ne_nil (e := e) (a := a) (b := b) g) with ⟨h, half⟩
    exact List.ne_nil_of_mem (List.mem_flatMap.2 ⟨g, here, half⟩)
  case cycle =>
    rw [List.forall_mem_map]
    intro l mem
    refine Cycle.chain_flatMap halves_ne_nil (fun g here => ?_) ?_ (steps l mem)
    · exact interposed.middle g (free g (List.mem_flatten.2 ⟨l, mem, here⟩))
    · rintro g k ⟨bare, next⟩
      rcases containsHalfedge_iff_origin?.1 (sound.follows_of_next? next).live_right with ⟨n, start⟩
      exact interposed.next sound bare next start (calm n)

end Interposed

/-! ## Splitting and the boundary -/

/-- What splitting the edge `e` does to the boundary: `loops` are the boundary loops before, in `m`,
and `loops'` the ones afterwards, in `m'`, where the edges `a` and `b` lead from the new node to
the ends of `e`. -/
structure SplitsBoundary (m : Mesh) (e a b : EdgeId) (loops loops' : List (List HalfedgeId))
    (m' : Mesh) : Prop where
  before : m.boundaryLoops = .ok loops
  after : m'.boundaryLoops = .ok loops'
  members : loops'.flatten.Perm (loops.flatten.flatMap (halves e a b))
  through : ∀ g, m.isBoundary g = .ok true →
    (halves e a b g).IsChain fun h h' => m'.next h = .ok h'
  next : ∀ g k n, m.isBoundary g = .ok true → m.next g = .ok k → m.origin k = .ok n →
    m.Calm e n → ∀ h ∈ (halves e a b g).getLast?, ∀ h' ∈ (halves e a b k).head?,
      m'.next h = .ok h'
  in_place : (∀ n, m.Calm e n) → (loops'.map Cycle.ofList).Perm
    (loops.map fun l => Cycle.ofList (l.flatMap (halves e a b)))

theorem Interposed.exists_splitsBoundary {x n₁ n₂ : NodeId} {e a b : EdgeId}
    (interposed : m.Interposed x n₁ n₂ e a b m') (sound : m.Sound) (sound' : m'.Sound) :
    ∃ loops loops', m.SplitsBoundary e a b loops loops' m' := by
  rcases sound.exists_boundaryLoops with ⟨loops, before, beyond⟩
  rcases sound'.exists_boundaryLoops with ⟨loops', after, beyond'⟩
  have covers := beyond.covers
  have covers' := beyond'.covers
  refine ⟨loops, loops', before, after, ?_, ?_, ?_, ?_⟩
  · refine (List.perm_ext_iff_of_nodup covers'.nodup
      (interposed.nodup_flatMap covers.nodup fun g => (covers.mem_iff g).1)).2 fun h => ?_
    rw [covers'.mem_iff, interposed.mem_flatMap_iff covers.mem_iff]
  · intro g boundary
    exact (interposed.middle g (isBoundary_eq_true_iff.1 boundary)).imp fun _ _ => next_eq_ok_iff.2
  · intro g k n boundary next start calm h last h' first
    exact next_eq_ok_iff.2 (interposed.next sound (isBoundary_eq_true_iff.1 boundary)
      (next_eq_ok_iff.1 next) (origin_eq_ok_iff.1 start) calm h last h' first)
  · intro calm
    have same := covers'.perm (interposed.covers sound calm covers)
    rwa [List.map_map] at same

end Mesh

/-- What comes of splitting a live edge of a sound mesh, seen along the boundary. -/
theorem Operation.outcome_splitEdge_of_live {m : Mesh} (sound : m.Sound) {e : EdgeId}
    (live : m.containsEdge e = true) (position : Point) :
    ∃ n₁ n₂ x a b m', m.Leads e.first n₁ n₂ ∧
      (splitEdge e position).outcome m = (.ok (.node x), m') ∧ m'.Sound ∧
      m.containsNode x = false ∧ m.Interposed x n₁ n₂ e a b m' := by
  have ends : (splitEdge e position).edit.Ends (Session.on m)
      (fun reply m' => ∃ n₁ n₂ x a b, reply = .node x ∧ m.Leads e.first n₁ n₂ ∧ m'.Sound ∧
        m.containsNode x = false ∧ m.Interposed x n₁ n₂ e a b m')
      (fun _ _ => False) := by
    refine (Edit.splitEdge_ends (s := Session.on m) sound).bind ?_ ?_
    · rintro x t ⟨sound', n₁, n₂, k₁, k₂, leads, -, -, splits, a, b, interposed⟩
      exact ⟨n₁, n₂, x, a, b, rfl, leads, sound', splits.new_node, interposed⟩
    · rintro error m' ⟨dead, -⟩
      exact Bool.false_ne_true (dead.symm.trans live)
  rcases outcome_of_ends ends with
    ⟨-, m', ended, n₁, n₂, x, a, b, rfl, leads, sound', fresh, interposed⟩ | ⟨_, _, -, impossible⟩
  · exact ⟨n₁, n₂, x, a, b, m', leads, ended, sound', fresh, interposed⟩
  · exact impossible.elim

namespace Mesh

/-- Whatever operations were run: where a live edge is split by a new node, the halves of its sides
take their places on the boundary, in the same boundary loops if there is no choice of the place
at either end. -/
theorem splitEdge_boundary_of_operations (operations : List Operation) (e : EdgeId)
    (position : Point) (live : (empty.run operations).containsEdge e = true) :
    let m := empty.run operations
    ∃ n₁ n₂ x a b m' loops loops', m.Leads e.first n₁ n₂ ∧ m.containsNode x = false ∧
      (Operation.splitEdge e position).outcome m = (.ok (.node x), m') ∧
      m'.Leads a.first x n₁ ∧ m'.Leads b.first x n₂ ∧
      m.SplitsBoundary e a b loops loops' m' := by
  have sound := sound_empty.run operations
  rcases Operation.outcome_splitEdge_of_live sound live position with
    ⟨n₁, n₂, x, a, b, m', leads, ended, sound', fresh, interposed⟩
  rcases interposed.exists_splitsBoundary sound sound' with ⟨loops, loops', splits⟩
  exact ⟨n₁, n₂, x, a, b, m', loops, loops', leads, fresh, ended, interposed.leads₁,
    interposed.leads₂, splits⟩

/-- Two triangles that meet at a node. -/
def hourglass : List Operation :=
  [.build ⟨[⟨0, 0⟩, ⟨2, 1⟩, ⟨2, -1⟩, ⟨-2, 1⟩, ⟨-2, -1⟩], [⟨0, 2, 1⟩, ⟨0, 3, 4⟩]⟩]

/-- Two half-edges without a face arrive at the waist of the hourglass, and an edge that starts
there is split in its place. -/
theorem splitEdge_boundary_hourglass :
    let m := empty.run hourglass
    let e : EdgeId := ⟨3, 0⟩
    m.containsEdge e = true ∧ m.isBoundary e.second = .ok true ∧
      m.origin e.second = .ok ⟨1, 0⟩ ∧ m.gapCount ⟨1, 0⟩ = 2 ∧
      ∃ n₁ n₂ x a b m' loops loops', m.Leads e.first n₁ n₂ ∧
        (Operation.splitEdge e ⟨1, 0⟩).outcome m = (.ok (.node x), m') ∧
        m'.Leads a.first x n₁ ∧ m'.Leads b.first x n₂ ∧
        m.boundaryLoops = .ok loops ∧ m'.boundaryLoops = .ok loops' ∧
        (loops'.map Cycle.ofList).Perm
          (loops.map fun l => Cycle.ofList (l.flatMap (halves e a b))) := by
  intro m e
  have live : m.containsEdge e = true := by decide +kernel
  have bare : m.isBoundary e.second = .ok true := by decide +kernel
  have waist : m.origin? e.second = some ⟨1, 0⟩ := by decide +kernel
  have gaps : m.gapCount ⟨1, 0⟩ = 2 := by decide +kernel
  have calm : ∀ n, m.Calm e n := by
    intro n h side free start
    rcases edge_eq_iff.1 side with rfl | rfl
    · exact absurd free (by decide +kernel)
    · cases waist.symm.trans start
      exact gaps.le
  rcases splitEdge_boundary_of_operations hourglass e ⟨1, 0⟩ live with
    ⟨n₁, n₂, x, a, b, m', loops, loops', leads, -, ended, leads₁, leads₂, splits⟩
  exact ⟨live, bare, origin_eq_ok_iff.2 waist, gaps, n₁, n₂, x, a, b, m', loops, loops', leads,
    ended, leads₁, leads₂, splits.before, splits.after, splits.in_place calm⟩

/-- Three edges that meet at a node. -/
def tripod : List Operation :=
  [.addNode ⟨0, 0⟩, .addNode ⟨2, 0⟩, .addNode ⟨0, 2⟩, .addNode ⟨-2, 0⟩, .addEdge ⟨1, 0⟩ ⟨2, 0⟩,
    .addEdge ⟨1, 0⟩ ⟨3, 0⟩, .addEdge ⟨1, 0⟩ ⟨4, 0⟩]

/-- Three half-edges without a face arrive at the top of the tripod.  When its second edge is
split, the half at the top is attached in another place than the edge was, so that the halves come
between other half-edges of the boundary loop. -/
theorem boundaryLoops_tripod :
    let m := empty.run tripod
    let e : EdgeId := ⟨2, 0⟩
    let a : EdgeId := ⟨2, 1⟩
    let b : EdgeId := ⟨4, 0⟩
    let split := (Operation.splitEdge e ⟨0, 1⟩).outcome m
    ∃ loops loops', m.containsEdge e = true ∧ m.isBoundary e.first = .ok true ∧
      m.Leads e.first ⟨1, 0⟩ ⟨3, 0⟩ ∧ split.1 = .ok (.node ⟨5, 0⟩) ∧
      split.2.Leads a.first ⟨5, 0⟩ ⟨1, 0⟩ ∧ split.2.Leads b.first ⟨5, 0⟩ ⟨3, 0⟩ ∧
      m.boundaryLoops = .ok loops ∧ split.2.boundaryLoops = .ok loops' ∧
      ¬ (loops'.map Cycle.ofList).Perm
        (loops.map fun l => Cycle.ofList (l.flatMap (halves e a b))) := by
  refine ⟨[[Key.first ⟨1, 0⟩, Key.second ⟨1, 0⟩, Key.first ⟨3, 0⟩, Key.second ⟨3, 0⟩,
      Key.first ⟨2, 0⟩, Key.second ⟨2, 0⟩]],
    [[Key.first ⟨1, 0⟩, Key.second ⟨1, 0⟩, Key.second ⟨2, 1⟩, Key.first ⟨4, 0⟩, Key.second ⟨4, 0⟩,
      Key.first ⟨2, 1⟩, Key.first ⟨3, 0⟩, Key.second ⟨3, 0⟩]],
    ?_, ?_, ⟨?_, ?_⟩, ?_, ⟨?_, ?_⟩, ⟨?_, ?_⟩, ?_, ?_, ?_⟩ <;> decide +kernel

end Mesh

end PlanarMesh
