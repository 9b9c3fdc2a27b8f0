import PlanarMesh.Proofs.Adjacency

/-!
# Rounds of a flood

In every round a flood takes a face off its worklist and discovers those of the neighbours that are
new, unless the face is at the depth limit (`FloodRound`).  A flood does not compute the depth of a
face again once it was discovered, and does not keep it beyond the worklist either; a `Flooding`
remembers it.

Every round shortens the worklist by a face or discovers faces, and no face is discovered twice.
So on a sound mesh a flood that is never stopped has nothing left to do before it is out of rounds
(`Sound.exists_flood`).
-/

namespace PlanarMesh

namespace FloodState

variable {order : FloodOrder} {work rest : List (FaceId × Nat)} {entry : FaceId × Nat}

theorem take?_breadthFirst_eq_some_iff :
    take? .breadthFirst work = some (entry, rest) ↔ work = entry :: rest := by
  cases work <;> simp [take?]

theorem take?_depthFirst_eq_some_iff :
    take? .depthFirst work = some (entry, rest) ↔ work = rest ++ [entry] := by
  rcases List.eq_nil_or_concat work with rfl | ⟨before, last, rfl⟩
  · simp [take?]
  · simp [take?, and_comm, eq_comm]

theorem take?_eq_none_iff : take? order work = none ↔ work = [] := by
  cases order with
  | breadthFirst => cases work <;> simp [take?]
  | depthFirst => rcases List.eq_nil_or_concat work with rfl | ⟨before, last, rfl⟩ <;> simp [take?]

/-- In either order one entry is taken and all others are left. -/
theorem perm_of_take? (taken : take? order work = some (entry, rest)) :
    work.Perm (entry :: rest) := by
  cases order with
  | breadthFirst => rw [take?_breadthFirst_eq_some_iff.1 taken]
  | depthFirst =>
    rw [take?_depthFirst_eq_some_iff.1 taken]
    exact List.perm_append_singleton entry rest

/-- Of a list of faces those are discovered that were not seen before, each once. -/
theorem exists_foldl_discover (depth : Nat) (l : List FaceId) (s : FloodState) :
    ∃ fresh : List FaceId, fresh.Nodup ∧ (∀ g, g ∈ fresh ↔ g ∈ l ∧ g ∉ s.seen) ∧
      l.foldl (discover depth) s =
        ⟨fresh.reverse ++ s.seen, s.work ++ fresh.map fun g => (g, depth), s.visited⟩ := by
  induction l generalizing s with
  | nil => exact ⟨[], by simp⟩
  | cons f rest inductionHypothesis =>
    rw [List.foldl_cons]
    by_cases seen : f ∈ s.seen
    · rw [discover, if_pos seen]
      rcases inductionHypothesis s with ⟨fresh, nodup, mem_fresh, result⟩
      refine ⟨fresh, nodup, fun g => ?_, result⟩
      rw [mem_fresh, List.mem_cons, or_and_right]
      exact ⟨.inr, fun known => known.resolve_left fun ⟨same, new⟩ => new (same ▸ seen)⟩
    · rw [discover, if_neg seen]
      rcases inductionHypothesis
          { s with seen := f :: s.seen, work := s.work ++ [(f, depth)] } with
        ⟨fresh, nodup, mem_fresh, result⟩
      simp only [List.mem_cons, not_or] at mem_fresh
      refine ⟨f :: fresh, ?_, fun g => ?_, ?_⟩
      · exact List.nodup_cons.2 ⟨fun mem => ((mem_fresh f).1 mem).2.1 rfl, nodup⟩
      · rw [List.mem_cons, List.mem_cons, mem_fresh]
        by_cases same : g = f
        · simp [same, seen]
        · simp [same]
      · rw [result]
        simp

end FloodState

namespace FloodOptions

/-- Faces at this depth are expanded. -/
def Expands (options : FloodOptions) (depth : Nat) : Prop :=
  ∀ k ∈ options.maxDepth, depth < k

theorem any_maxDepth {options : FloodOptions} {depth : Nat} :
    options.maxDepth.any (· ≤ depth) = true ↔ ¬ options.Expands depth := by
  simp [Expands, Option.any_eq_true]

end FloodOptions

/-! ## Faces that enter a worklist -/

section Entering

variable {queue : List (FaceId × Nat)} {fresh : List FaceId} {d : Nat}

theorem mem_entering {entry : FaceId × Nat} :
    entry ∈ queue ++ fresh.map (fun g => (g, d)) ↔
      entry ∈ queue ∨ entry.1 ∈ fresh ∧ entry.2 = d := by
  rcases entry with ⟨g, k⟩
  simp [eq_comm]

/-- A worklist stays sorted if faces enter that are as deep as the deepest one there. -/
theorem pairwise_entering (sorted : queue.Pairwise fun entry entry' => entry.2 ≤ entry'.2)
    (most : ∀ entry ∈ queue, entry.2 ≤ d) :
    (queue ++ fresh.map fun g => (g, d)).Pairwise fun entry entry' => entry.2 ≤ entry'.2 := by
  refine List.pairwise_append.2 ⟨sorted, ?_, fun entry waits entry' enters => ?_⟩
  · exact List.pairwise_map.2 (List.pairwise_of_forall fun _ _ => le_rfl)
  · rcases List.mem_map.1 enters with ⟨g, -, rfl⟩
    exact most entry waits

end Entering

/-! ## Rounds -/

/-- A flood under way, and the depths at which the faces were discovered. -/
structure Flooding where
  state : FloodState
  depth : FaceId → Nat

/-- A flood that is about to start from the seeds. -/
def Flooding.start (seeds : List FaceId) : Flooding :=
  ⟨⟨seeds, seeds.map fun f => (f, 0), []⟩, fun _ => 0⟩

namespace Mesh

/-- A face is taken off the worklist, and the new ones among its neighbours are discovered, or none
if the face is at the depth limit. -/
inductive FloodRound (m : Mesh) (options : FloodOptions) (s s' : Flooding) : Prop
  | intro {f : FaceId} {d : Nat} {rest : List (FaceId × Nat)} {fresh : List FaceId}
      (taken : FloodState.take? options.order s.state.work = some ((f, d), rest))
      (nodup : fresh.Nodup)
      (mem_fresh : ∀ g, g ∈ fresh ↔ options.Expands d ∧
        (m.faceGraph options.adjacency).Adj f g ∧ g ∉ s.state.seen)
      (seen : s'.state.seen = fresh.reverse ++ s.state.seen)
      (work : s'.state.work = rest ++ fresh.map fun g => (g, d + 1))
      (old : ∀ g ∈ s.state.seen, s'.depth g = s.depth g) (new : ∀ g ∈ fresh, s'.depth g = d + 1)

/-- The number of faces that a flood has not seen. -/
def unseen (m : Mesh) (seen : List FaceId) : Nat :=
  (m.faceIds.filter fun f => !seen.contains f).length

variable {m : Mesh} {options : FloodOptions} {s s' : Flooding}

/-- A face that has left the worklist was seen before, and if it has just left, all its neighbours
are seen now. -/
theorem FloodRound.left (round : m.FloodRound options s s') {f : FaceId}
    (seen' : f ∈ s'.state.seen) (idle : (f, s'.depth f) ∉ s'.state.work) :
    f ∈ s.state.seen ∧ s'.depth f = s.depth f ∧ ((f, s.depth f) ∈ s.state.work →
      (∃ rest, FloodState.take? options.order s.state.work = some ((f, s.depth f), rest)) ∧
        (options.Expands (s.depth f) →
          ∀ g, (m.faceGraph options.adjacency).Adj f g → g ∈ s'.state.seen)) := by
  rcases round with @⟨e, d, rest, fresh, taken, nodup, mem_fresh, seen, work, old, new⟩
  rw [seen, List.mem_append, List.mem_reverse] at seen'
  rw [work, mem_entering, not_or] at idle
  have known : f ∈ s.state.seen := seen'.resolve_left fun isNew => idle.2 ⟨isNew, new f isNew⟩
  rw [old f known] at idle
  refine ⟨known, old f known, fun busy => ?_⟩
  rcases List.mem_cons.1 ((FloodState.perm_of_take? taken).mem_iff.1 busy) with same | left
  · obtain ⟨rfl, rfl⟩ := Prod.mk.inj same
    refine ⟨⟨rest, taken⟩, fun expands g adj => ?_⟩
    rw [seen, List.mem_append, List.mem_reverse, mem_fresh]
    exact or_iff_not_imp_right.2 fun isNew => ⟨expands, adj, isNew⟩
  · exact absurd left idle.1

/-- Faces that are discovered are no longer unseen. -/
theorem unseen_of_fresh {fresh seen : List FaceId} (nodup : fresh.Nodup)
    (live : ∀ g ∈ fresh, m.containsFace g = true) (new : ∀ g ∈ fresh, g ∉ seen) :
    fresh.length + m.unseen (fresh.reverse ++ seen) ≤ m.unseen seen := by
  let rest := m.faceIds.filter fun f => !(fresh.reverse ++ seen).contains f
  have mem_rest (g : FaceId) : g ∈ rest ↔ g ∈ m.faceIds ∧ g ∉ fresh ∧ g ∉ seen := by simp [rest]
  have once : (fresh ++ rest).Nodup :=
    nodup.append (m.faces.nodup_keys.filter _) fun g mem left => ((mem_rest g).1 left).2.1 mem
  rw [unseen, unseen, ← List.length_append]
  refine (once.subperm fun g mem => ?_).length_le
  rw [List.mem_filter, List.contains_eq_mem, Bool.not_eq_true', decide_eq_false_iff_not]
  rcases List.mem_append.1 mem with mem | left
  · exact ⟨mem_faceIds.2 (live g mem), new g mem⟩
  · exact ⟨((mem_rest g).1 left).1, ((mem_rest g).1 left).2.2⟩

namespace Sound

variable (sound : m.Sound)

include sound

/-- There are at least as many half-edges as faces. -/
theorem unseen_le_halfedgeCount (seen : List FaceId) : m.unseen seen ≤ m.halfedgeCount := by
  have faced : m.facedCount ≤ m.halfedgeIds.length := List.countP_le_length
  have listed : m.unseen seen ≤ m.faceIds.length := List.length_filter_le _ _
  have counted : m.faceIds.length = m.faceCount := SlotStore.length_keys m.faces
  rw [sound.facedCount_eq, m.length_halfedgeIds] at faced
  omega

/-- If all faces in the worklist are live, the next round takes place. -/
theorem exists_floodRound (unstopped : ∀ f, options.stop f = false)
    (live : ∀ entry ∈ s.state.work, m.containsFace entry.1 = true) (busy : s.state.work ≠ []) :
    ∃ s', m.FloodRound options s s' ∧ ∀ rounds,
      m.floodFrom options (rounds + 1) s.state = m.floodFrom options rounds s'.state := by
  rcases Option.ne_none_iff_exists'.1 (mt FloodState.take?_eq_none_iff.1 busy) with
    ⟨⟨⟨f, d⟩, rest⟩, taken⟩
  have next (fresh : List FaceId) (nodup : fresh.Nodup) (mem_fresh : ∀ g, g ∈ fresh ↔
      options.Expands d ∧ (m.faceGraph options.adjacency).Adj f g ∧ g ∉ s.state.seen) :
      m.FloodRound options s ⟨⟨fresh.reverse ++ s.state.seen, rest ++ fresh.map fun g => (g, d + 1),
        s.state.visited ++ [f]⟩, fun g => if g ∈ fresh then d + 1 else s.depth g⟩ :=
    .intro taken nodup mem_fresh rfl rfl
      (fun g seen => if_neg fun new => ((mem_fresh g).1 new).2.2 seen) fun g new => if_pos new
  by_cases expands : options.Expands d
  · have mem := (FloodState.perm_of_take? taken).mem_iff.2 List.mem_cons_self
    rcases sound.exists_adjacentFaces options.adjacency (live (f, d) mem) with
      ⟨neighbors, lists, mem_neighbors⟩
    rcases FloodState.exists_foldl_discover (d + 1) neighbors
        { s.state with work := rest, visited := s.state.visited ++ [f] } with
      ⟨fresh, nodup, mem_fresh, result⟩
    refine ⟨_, next fresh nodup fun g => ?_, fun rounds => ?_⟩
    · rw [mem_fresh, mem_neighbors, and_iff_right expands]
    · rw [floodFrom]
      simp [taken, unstopped, FloodOptions.any_maxDepth, expands, lists, result, bind, Except.bind]
  · refine ⟨_, next [] List.nodup_nil (by simp [expands]), fun rounds => ?_⟩
    rw [floodFrom]
    simp [taken, unstopped, FloodOptions.any_maxDepth, expands]

/-- In every round the faces of the worklist and those not seen get fewer by one. -/
theorem floodRound_descends (round : m.FloodRound options s s')
    (live : ∀ entry ∈ s.state.work, m.containsFace entry.1 = true) :
    (∀ entry ∈ s'.state.work, m.containsFace entry.1 = true) ∧
      s'.state.work.length + m.unseen s'.state.seen <
        s.state.work.length + m.unseen s.state.seen := by
  rcases round with @⟨f, d, rest, fresh, taken, nodup, mem_fresh, seen, work, -, -⟩
  have perm := FloodState.perm_of_take? taken
  have live' (g : FaceId) (mem : g ∈ fresh) : m.containsFace g = true :=
    sound.face_live_of_adj ((mem_fresh g).1 mem).2.1
  rw [work, seen]
  constructor
  · intro entry mem
    rcases mem_entering.1 mem with left | ⟨new, -⟩
    · exact live entry (perm.mem_iff.2 (List.mem_cons_of_mem _ left))
    · exact live' entry.1 new
  · have fewer := unseen_of_fresh nodup live' fun g mem => ((mem_fresh g).1 mem).2.2
    have shorter := perm.length_eq
    simp only [List.length_cons, List.length_append, List.length_map] at *
    omega

/-- A flood from live faces that has rounds enough ends with an empty worklist. -/
theorem exists_floodFrom (unstopped : ∀ f, options.stop f = false) (rounds : Nat)
    (live : ∀ entry ∈ s.state.work, m.containsFace entry.1 = true)
    (enough : s.state.work.length + m.unseen s.state.seen ≤ rounds) :
    ∃ s', m.floodFrom options rounds s.state = .ok s'.state ∧ s'.state.work = [] ∧
      Relation.ReflTransGen (m.FloodRound options) s s' := by
  induction rounds generalizing s with
  | zero =>
    exact ⟨s, rfl, List.length_eq_zero_iff.1 (by omega), .refl⟩
  | succ rounds inductionHypothesis =>
    by_cases idle : s.state.work = []
    · refine ⟨s, ?_, idle, .refl⟩
      rw [floodFrom, FloodState.take?_eq_none_iff.2 idle]
      rfl
    · rcases sound.exists_floodRound unstopped live idle with ⟨s', round, same⟩
      rcases sound.floodRound_descends round live with ⟨live', descends⟩
      rcases inductionHypothesis live' (by omega) with ⟨s'', result, done, run⟩
      exact ⟨s'', (same rounds).trans result, done, .head round run⟩

/-- A flood from live seeds that is never stopped goes on until there is nothing left to do. -/
theorem exists_flood (unstopped : ∀ f, options.stop f = false) {seeds : List FaceId}
    (live : ∀ f ∈ seeds, m.containsFace f = true) :
    ∃ s, m.flood seeds options = .ok s.state ∧ s.state.work = [] ∧
      Relation.ReflTransGen (m.FloodRound options) (.start seeds) s := by
  have checked : (seeds.forM fun f => do let _ ← m.face f) = Except.ok () := by
    apply forM_eq_ok_iff.2
    intro f mem
    rcases Option.isSome_iff_exists.1 (live f mem) with ⟨record, found⟩
    rw [face_eq_ok_iff.2 found]
    rfl
  have enough : (Flooding.start seeds).state.work.length + m.unseen seeds ≤
      seeds.length + m.halfedgeCount + 1 := by
    have bounded := sound.unseen_le_halfedgeCount seeds
    have work : (Flooding.start seeds).state.work.length = seeds.length := List.length_map _
    omega
  have live' : ∀ entry ∈ (Flooding.start seeds).state.work, m.containsFace entry.1 = true := by
    simpa [Flooding.start] using live
  rcases sound.exists_floodFrom unstopped _ live' enough with ⟨s, result, done, run⟩
  refine ⟨s, ?_, done, run⟩
  rw [flood, checked]
  exact result

end Sound

end Mesh

end PlanarMesh
