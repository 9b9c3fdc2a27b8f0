import PlanarMesh.Proofs.Flood.Reach

/-!
# Depth limits for floods in depth

A flood in depth does not go along shortest paths.  A face keeps the depth at which it was
discovered first, and if that is the limit, then the face is never expanded, no matter that a
shorter path leads to it as well.  So there may be faces within the limit that a flood in depth
does not reach (`rosette_missed`).

The faces it misses lie behind faces at the ends of paths that are as long as the limit.  Where
there are no such paths, where the limit is too small for a detour or the mesh has too few faces for
one, a flood in depth returns what a flood in breadth returns
(`reachedFaces_depthFirst_of_operations`).
-/

namespace PlanarMesh

namespace Mesh

/-- Limits that leave no room for a detour: after at most one step, or two from a single seed, no
face can have been discovered too late, and on a path that is longer than this there are all
faces. -/
def NoDetour (m : Mesh) (seeds : List FaceId) (limit : Nat) : Prop :=
  limit ≤ 1 ∨ (limit ≤ 2 ∧ ∃ seed, ∀ f ∈ seeds, f = seed) ∨ m.faceCount ≤ limit + 1

variable {m : Mesh} {options : FloodOptions} {seeds : List FaceId} {f g : FaceId}
  {s s' : Flooding}

namespace Traced

variable (traced : m.Traced options seeds s) (done : s.state.work = [])

include traced done

/-- A face next to one that was seen is missed only behind a path that is as long as the limit. -/
theorem exists_path_of_missed (seen : f ∈ s.state.seen)
    (adj : (m.faceGraph options.adjacency).Adj f g) (missed : g ∉ s.state.seen) :
    ∃ k ∈ options.maxDepth, ∃ seed ∈ seeds, ∃ p : (m.faceGraph options.adjacency).Walk seed f,
      p.IsPath ∧ p.length = k ∧ ∀ e ∈ p.support, e ∈ s.state.seen := by
  have unexpanded : ¬ options.Expands (s.depth f) := fun expands =>
    missed (traced.closed f seen expands (by simp [done]) g adj)
  simp only [FloodOptions.Expands, not_forall, not_lt] at unexpanded
  rcases unexpanded with ⟨k, isLimit, reached⟩
  rcases traced.path f seen with ⟨seed, isSeed, p, isPath, length, support⟩
  exact ⟨k, isLimit, seed, isSeed, p, isPath,
    length.trans (le_antisymm (traced.limit f seen k isLimit) reached), support⟩

/-- Nothing is missed if no face that is closer to a seed than the limit was discovered at the
limit. -/
theorem seen_of_within (straight : ∀ k ∈ options.maxDepth, ∀ seed ∈ seeds, ∀ e ∈ s.state.seen,
      ∀ p : (m.faceGraph options.adjacency).Walk seed e, p.length < k → s.depth e < k)
    (within : m.Within options.adjacency options.maxDepth seeds f) : f ∈ s.state.seen := by
  rcases within_iff_walk.1 within with ⟨seed, isSeed, p, short⟩
  induction p using SimpleGraph.Walk.concatRec with
  | Hnil => exact (traced.start _ isSeed).1
  | @Hconcat seed e f p adj inductionHypothesis =>
    have shorter : ∀ k ∈ options.maxDepth, p.length < k := by
      simpa [Nat.succ_le_iff] using short
    have seen := inductionHypothesis
      (within_iff_walk.2 ⟨seed, isSeed, p, fun k isLimit => (shorter k isLimit).le⟩) isSeed
      fun k isLimit => (shorter k isLimit).le
    exact traced.closed e seen
      (fun k isLimit => straight k isLimit seed isSeed e seen p (shorter k isLimit))
      (by simp [done]) f adj

omit done in
/-- A face at a depth lies at the end of a path that passes one more face. -/
theorem depth_lt_faceCount (sound : m.Sound) (live : ∀ f ∈ seeds, m.containsFace f = true)
    (seen : f ∈ s.state.seen) (gLive : m.containsFace g = true) (missed : g ∉ s.state.seen) :
    s.depth f + 1 < m.faceCount := by
  rcases traced.path f seen with ⟨seed, isSeed, p, isPath, length, support⟩
  have once : (g :: p.support).Nodup :=
    List.nodup_cons.2 ⟨fun onPath => missed (support g onPath), isPath.support_nodup⟩
  have listed : g :: p.support ⊆ m.faceIds := by
    refine List.cons_subset.2 ⟨mem_faceIds.2 gLive, fun e onPath => mem_faceIds.2 ?_⟩
    exact sound.face_live_of_reachable (p.takeUntil e onPath).reachable (live seed isSeed)
  have shorter := (once.subperm listed).length_le
  rw [List.length_cons, SimpleGraph.Walk.length_support, length] at shorter
  exact shorter.trans_eq (SlotStore.length_keys m.faces)

end Traced

/-- When the only seed is expanded, all its neighbours are discovered at depth one at most. -/
theorem depth_le_one_of_run {seed : FaceId} (single : ∀ f ∈ seeds, f = seed)
    (expands : options.Expands 0)
    (run : Relation.ReflTransGen (m.FloodRound options) (.start seeds) s) :
    (∀ f ∈ s.state.seen, f = seed) ∨ ∀ g, (m.faceGraph options.adjacency).Adj seed g →
      g ∈ s.state.seen ∧ s.depth g ≤ 1 := by
  induction run with
  | refl => exact .inl single
  | @tail s s' run round inductionHypothesis =>
    have traced : m.Traced options seeds s := .run run
    rcases round with @⟨e, d, rest, fresh, taken, nodup, mem_fresh, seen, work, old, new⟩
    right
    intro g adj
    rw [seen, List.mem_append, List.mem_reverse]
    rcases inductionHypothesis with alone | complete
    · -- Only the seed was seen so far, so it is what was taken.
      obtain ⟨eSeen, eDepth⟩ : e ∈ s.state.seen ∧ s.depth e = d :=
        traced.work (e, d) ((FloodState.perm_of_take? taken).mem_iff.2 List.mem_cons_self)
      rcases traced.path e eSeen with ⟨seed', isSeed, -⟩
      have isTaken : e = seed := alone e eSeen
      have zero : d = 0 := by
        rw [← eDepth, isTaken, ← single seed' isSeed]
        exact (traced.start seed' isSeed).2
      have isNew : g ∈ fresh := by
        rw [mem_fresh, zero, isTaken]
        exact ⟨expands, adj, fun known => adj.ne (alone g known).symm⟩
      exact ⟨.inl isNew, by rw [new g isNew, zero]⟩
    · rcases complete g adj with ⟨known, depth⟩
      exact ⟨.inr known, (old g known).trans_le depth⟩

/-- Where there is no room for a detour, a flood in either order reaches whatever is within the
limit. -/
theorem Sound.seen_of_within (sound : m.Sound) (live : ∀ f ∈ seeds, m.containsFace f = true)
    (run : Relation.ReflTransGen (m.FloodRound options) (.start seeds) s)
    (done : s.state.work = []) (noDetour : ∀ k ∈ options.maxDepth, m.NoDetour seeds k)
    (within : m.Within options.adjacency options.maxDepth seeds f) : f ∈ s.state.seen := by
  have traced : m.Traced options seeds s := .run run
  by_contra missed
  refine missed (traced.seen_of_within done ?_ within)
  intro k isLimit seed isSeed e seen p short
  have atSeed (zero : p.length = 0) : s.depth e < k := by
    rw [← SimpleGraph.Walk.eq_of_length_eq_zero zero, (traced.start seed isSeed).2]
    exact Nat.zero_lt_of_lt short
  rcases noDetour k isLimit with one | ⟨two, ⟨seed', single⟩⟩ | few
  · exact atSeed (by omega)
  · rcases Nat.eq_zero_or_pos p.length with zero | far
    · exact atSeed zero
    · have adj := SimpleGraph.Walk.adj_of_length_eq_one (show p.length = 1 by omega)
      have expands : options.Expands 0 := by
        intro k' isLimit'
        cases isLimit.symm.trans isLimit'
        omega
      cases single seed isSeed
      rcases depth_le_one_of_run single expands run with alone | complete
      · exact absurd (alone e seen) adj.ne.symm
      · exact (complete e adj).2.trans_lt (by omega)
  · rcases within with ⟨seed', isSeed', reachable, -⟩
    have fLive := sound.face_live_of_reachable reachable (live seed' isSeed')
    have fewer := traced.depth_lt_faceCount sound live seen fLive missed
    omega

/-- Whatever operations were run: a flood in depth from live faces returns the seeds and other
faces within the limit.  It misses a face next to one of these only if a path there is as long as
the limit, and nothing if the limit leaves no room for a detour. -/
theorem reachedFaces_depthFirst_of_operations (operations : List Operation)
    (adjacency : Adjacency) (limit : Option Nat) (seeds : List FaceId)
    (live : ∀ f ∈ seeds, (empty.run operations).containsFace f = true) :
    let m := empty.run operations
    ∃ deep broad,
      m.reachedFaces seeds
        { adjacency := adjacency, order := .depthFirst, maxDepth := limit } = .ok deep ∧
      m.reachedFaces seeds
        { adjacency := adjacency, order := .breadthFirst, maxDepth := limit } = .ok broad ∧
      deep.Pairwise (· < ·) ∧ (∀ f ∈ seeds, f ∈ deep) ∧ deep ⊆ broad ∧
      (∀ f, f ∈ broad ↔ m.Within adjacency limit seeds f) ∧
      (∀ f ∈ deep, ∀ g, (m.faceGraph adjacency).Adj f g → g ∉ deep → ∃ k ∈ limit,
        ∃ seed ∈ seeds, ∃ p : (m.faceGraph adjacency).Walk seed f,
          p.IsPath ∧ p.length = k ∧ ∀ e ∈ p.support, e ∈ deep) ∧
      ((∀ k ∈ limit, m.NoDetour seeds k) → deep = broad) := by
  intro m
  have sound : m.Sound := sound_empty.run operations
  let options : FloodOptions :=
    { adjacency := adjacency, order := .depthFirst, maxDepth := limit }
  rcases sound.exists_reachedFaces options (fun _ => rfl) live with
    ⟨s, reached, done, run⟩
  have traced : m.Traced options seeds s := .run run
  rcases sound.exists_reachedFaces_breadthFirst { options with order := .breadthFirst }
    (fun _ => rfl) live rfl with ⟨broad, reached', increasing, mem_broad⟩
  refine ⟨_, broad, reached, reached', pairwise_sortKeys _, ?_, ?_, mem_broad, ?_, ?_⟩
  · intro f isSeed
    exact mem_sortKeys.2 (traced.start f isSeed).1
  · intro f mem
    exact (mem_broad f).2 (traced.within (mem_sortKeys.1 mem))
  · simp only [mem_sortKeys]
    exact fun f seen g adj missed => traced.exists_path_of_missed done seen adj missed
  · intro noDetour
    refine (pairwise_sortKeys _).eq_of_mem_iff increasing fun f => ?_
    rw [mem_sortKeys, mem_broad]
    refine ⟨traced.within, fun within => ?_⟩
    exact sound.seen_of_within live run done noDetour within

theorem reachedFaces_rosette :
    let m := empty.run rosette
    let seeds : List FaceId := [⟨1, 0⟩]
    (∀ f ∈ seeds, m.containsFace f = true) ∧
      m.reachedFaces seeds { order := .depthFirst, maxDepth := some 3 } =
        .ok [⟨1, 0⟩, ⟨2, 0⟩, ⟨3, 0⟩, ⟨4, 0⟩, ⟨5, 0⟩] := by
  decide +kernel

/-- A flood in depth misses the triangle on the rim, so it came round the node the long way. -/
theorem exists_detour_rosette :
    let m := empty.run rosette
    let seeds : List FaceId := [⟨1, 0⟩]
    (∀ f ∈ seeds, m.containsFace f = true) ∧ ∃ p : (m.faceGraph .edge).Walk ⟨1, 0⟩ ⟨4, 0⟩,
      p.IsPath ∧ p.length = 3 := by
  intro m seeds
  rcases reachedFaces_rosette with ⟨live, reached⟩
  have adjacent : m.Adjacent ⟨4, 0⟩ ⟨6, 0⟩ := by decide +kernel
  rcases reachedFaces_depthFirst_of_operations rosette .edge (some 3) seeds live with
    ⟨deep, broad, result, -, -, -, -, -, missed, -⟩
  cases reached.symm.trans result
  rcases missed ⟨4, 0⟩ (by simp) ⟨6, 0⟩ ⟨by decide, adjacent⟩ (by decide) with
    ⟨k, isLimit, seed, isSeed, p, isPath, length, -⟩
  cases isLimit
  cases List.mem_singleton.1 isSeed
  exact ⟨live, p, isPath, length⟩

/-- The triangle on the rim is three steps away from the first one, where a flood in breadth finds
it and a flood in depth does not. -/
theorem rosette_missed :
    let m := empty.run rosette
    let seeds : List FaceId := [⟨1, 0⟩]
    (∀ f ∈ seeds, m.containsFace f = true) ∧
      m.reachedFaces seeds { order := .depthFirst, maxDepth := some 3 } =
        .ok [⟨1, 0⟩, ⟨2, 0⟩, ⟨3, 0⟩, ⟨4, 0⟩, ⟨5, 0⟩] ∧
      m.reachedFaces seeds { order := .breadthFirst, maxDepth := some 3 } =
        .ok [⟨1, 0⟩, ⟨2, 0⟩, ⟨3, 0⟩, ⟨4, 0⟩, ⟨5, 0⟩, ⟨6, 0⟩] := by
  rcases reachedFaces_rosette with ⟨live, deep⟩
  exact ⟨live, deep, by decide +kernel⟩

end Mesh

end PlanarMesh
