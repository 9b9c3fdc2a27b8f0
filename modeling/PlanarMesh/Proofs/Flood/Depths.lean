import PlanarMesh.Proofs.Flood.Rounds

/-!
# Depths of faces

When the depths of all faces are looked for, a face gets its depth not when it enters the queue but
when it comes out.  So there may be entries of the same face with different depths in the queue, and
what counts is the first of them that comes out.

That entry has the right depth because the queue is always sorted and lies across all ways ahead
(`Charted`): a walk from the seed that is shorter than all depths in the queue only leads to a face
that has come out already (`Charted.done_of_walk`).
-/

namespace PlanarMesh

namespace Mesh

/-- The face came out of the queue, or waits there at this depth at most. -/
def InSight (queue depths : List (FaceId × Nat)) (f : FaceId) (d : Nat) : Prop :=
  f ∈ depths.map Prod.fst ∨ ∃ d' ≤ d, (f, d') ∈ queue

/-- What is known of the entries that wait in the queue and of those that have come out of it. -/
structure Charted (m : Mesh) (seed : FaceId) (queue depths : List (FaceId × Nat)) : Prop where
  reached : ∀ entry ∈ queue, ∃ p : (m.faceGraph .edge).Walk seed entry.1, p.length = entry.2
  exact : ∀ entry ∈ depths,
    (m.faceGraph .edge).Reachable seed entry.1 ∧ (m.faceGraph .edge).dist seed entry.1 = entry.2
  sorted : queue.Pairwise fun entry entry' => entry.2 ≤ entry'.2
  level : ∀ entry ∈ queue, ∀ entry' ∈ queue, entry'.2 ≤ entry.2 + 1
  start : InSight queue depths seed 0
  closed : ∀ entry ∈ depths, ∀ g, (m.faceGraph .edge).Adj entry.1 g →
    InSight queue depths g (entry.2 + 1)

variable {m : Mesh} {seed f g : FaceId} {d k : Nat} {queue depths : List (FaceId × Nat)}

namespace InSight

theorem done (inSight : InSight queue depths g k) (far : ∀ entry ∈ queue, k < entry.2) :
    g ∈ depths.map Prod.fst := by
  refine inSight.resolve_right ?_
  rintro ⟨d, near, waits⟩
  exact absurd (far (g, d) waits) near.not_gt

theorem skip (inSight : InSight ((f, d) :: queue) depths g k)
    (known : f ∈ depths.map Prod.fst) : InSight queue depths g k := by
  rcases inSight with out | ⟨d', near, waits⟩
  · exact .inl out
  · rcases List.mem_cons.1 waits with same | waits
    · exact .inl ((Prod.mk.inj same).1 ▸ known)
    · exact .inr ⟨d', near, waits⟩

theorem expand (inSight : InSight ((f, d) :: queue) depths g k)
    (entering : List (FaceId × Nat)) :
    InSight (queue ++ entering) ((f, d) :: depths) g k := by
  rcases inSight with out | ⟨d', near, waits⟩
  · exact .inl (List.mem_cons_of_mem _ out)
  · rcases List.mem_cons.1 waits with same | waits
    · exact .inl ((Prod.mk.inj same).1 ▸ List.mem_cons_self)
    · exact .inr ⟨d', near, List.mem_append_left _ waits⟩

end InSight

namespace Charted

theorem of_seed (m : Mesh) (seed : FaceId) : m.Charted seed [(seed, 0)] [] where
  reached := by
    simp only [List.mem_singleton, forall_eq]
    exact ⟨.nil, rfl⟩
  exact := by simp
  sorted := List.pairwise_singleton _ _
  level := by simp
  start := .inr ⟨0, le_rfl, List.mem_cons_self⟩
  closed := by simp

/-- A walk that is shorter than all depths in the queue ends at a face that has come out of it. -/
theorem done_of_walk (charted : m.Charted seed queue depths)
    (p : (m.faceGraph .edge).Walk seed f) (short : ∀ entry ∈ queue, p.length < entry.2) :
    f ∈ depths.map Prod.fst := by
  induction p using SimpleGraph.Walk.concatRec with
  | Hnil => exact charted.start.done short
  | @Hconcat seed e f p adj inductionHypothesis =>
    rw [SimpleGraph.Walk.length_concat] at short
    have done := inductionHypothesis charted fun entry waits =>
      (Nat.lt_succ_self _).trans (short entry waits)
    rcases List.mem_map.1 done with ⟨entry, out, rfl⟩
    have closer : entry.2 ≤ p.length := (charted.exact entry out).2 ▸ SimpleGraph.dist_le p
    exact (charted.closed entry out f adj).done fun entry' waits =>
      (Nat.succ_le_succ closer).trans_lt (short entry' waits)

/-- An entry of a face that came out before can be dropped. -/
theorem skip (charted : m.Charted seed ((f, d) :: queue) depths)
    (known : f ∈ depths.map Prod.fst) : m.Charted seed queue depths where
  reached entry waits := charted.reached entry (List.mem_cons_of_mem _ waits)
  exact := charted.exact
  sorted := (List.pairwise_cons.1 charted.sorted).2
  level entry waits entry' waits' :=
    charted.level entry (List.mem_cons_of_mem _ waits) entry' (List.mem_cons_of_mem _ waits')
  start := charted.start.skip known
  closed entry out g adj := (charted.closed entry out g adj).skip known

/-- A face that comes out for the first time comes out with its distance. -/
theorem dist_eq (charted : m.Charted seed ((f, d) :: queue) depths)
    (new : f ∉ depths.map Prod.fst) :
    (m.faceGraph .edge).Reachable seed f ∧ (m.faceGraph .edge).dist seed f = d := by
  rcases charted.reached (f, d) List.mem_cons_self with ⟨p, length⟩
  refine ⟨p.reachable, le_antisymm ((SimpleGraph.dist_le p).trans_eq length) ?_⟩
  by_contra closer
  rw [not_le] at closer
  rcases p.reachable.exists_walk_length_eq_dist with ⟨q, shortest⟩
  refine new (charted.done_of_walk q fun entry waits => ?_)
  rw [shortest]
  rcases List.mem_cons.1 waits with rfl | waits
  · exact closer
  · exact closer.trans_le ((List.pairwise_cons.1 charted.sorted).1 entry waits)

/-- A face that comes out for the first time makes room for those of its neighbours that did not
come out yet. -/
theorem expand (charted : m.Charted seed ((f, d) :: queue) depths)
    (new : f ∉ depths.map Prod.fst) {fresh : List FaceId} (mem_fresh : ∀ g, g ∈ fresh ↔
      (m.faceGraph .edge).Adj f g ∧ g ∉ ((f, d) :: depths).map Prod.fst) :
    m.Charted seed (queue ++ fresh.map fun g => (g, d + 1)) ((f, d) :: depths) := by
  rcases List.pairwise_cons.1 charted.sorted with ⟨least, sorted⟩
  have distance := charted.dist_eq new
  have most : ∀ entry ∈ queue, entry.2 ≤ d + 1 := fun entry waits =>
    charted.level (f, d) List.mem_cons_self entry (List.mem_cons_of_mem _ waits)
  -- All depths in the new queue are `d` or one more.
  have between : ∀ entry ∈ queue ++ fresh.map fun g => (g, d + 1), d ≤ entry.2 ∧
      entry.2 ≤ d + 1 := by
    intro entry waits
    rcases mem_entering.1 waits with waits | ⟨-, depth⟩
    · exact ⟨least entry waits, most entry waits⟩
    · exact ⟨depth ▸ d.le_succ, depth.le⟩
  constructor
  case reached =>
    intro entry waits
    rcases mem_entering.1 waits with waits | ⟨isFresh, depth⟩
    · exact charted.reached entry (List.mem_cons_of_mem _ waits)
    · rcases charted.reached (f, d) List.mem_cons_self with ⟨p, length⟩
      refine ⟨p.concat ((mem_fresh entry.1).1 isFresh).1, ?_⟩
      rw [SimpleGraph.Walk.length_concat, length, depth]
  case exact => exact List.forall_mem_cons.2 ⟨distance, charted.exact⟩
  case sorted => exact pairwise_entering sorted most
  case level =>
    intro entry waits entry' waits'
    exact (between entry' waits').2.trans (Nat.succ_le_succ (between entry waits).1)
  case start => exact charted.start.expand _
  case closed =>
    refine List.forall_mem_cons.2 ⟨fun g adj => ?_, fun entry out g adj => ?_⟩
    · by_cases out : g ∈ ((f, d) :: depths).map Prod.fst
      · exact .inl out
      · exact .inr ⟨d + 1, le_rfl, mem_entering.2 (.inr ⟨(mem_fresh g).2 ⟨adj, out⟩, rfl⟩)⟩
    · exact (charted.closed entry out g adj).expand _

/-- When the queue is empty, the faces that came out are those connected to the seed. -/
theorem mem_depths_iff (charted : m.Charted seed [] depths) :
    (f, d) ∈ depths ↔
      (m.faceGraph .edge).Reachable seed f ∧ (m.faceGraph .edge).dist seed f = d := by
  constructor
  · exact charted.exact (f, d)
  · rintro ⟨⟨p⟩, rfl⟩
    rcases List.mem_map.1 (charted.done_of_walk p (by simp)) with ⟨⟨f, d⟩, out, rfl⟩
    rw [(charted.exact (f, d) out).2]
    exact out

end Charted

theorem length_le_of_faceNeighbors {l : List FaceId} (lists : m.faceNeighbors f = .ok l) :
    l.length ≤ 3 := by
  rcases bind_eq_ok_iff.1 lists with ⟨t, -, lists⟩
  rcases bind_eq_ok_iff.1 lists with ⟨opposite, -, same⟩
  cases same
  exact List.length_filterMap_le _ _

namespace Sound

variable (sound : m.Sound) (live : m.containsFace seed = true)

include sound live

/-- With rounds enough, the queue empties. -/
theorem exists_depthsFrom (rounds : Nat) (charted : m.Charted seed queue depths)
    (enough : queue.length + 3 * m.unseen (depths.map Prod.fst) ≤ rounds) :
    ∃ depths', m.depthsFrom rounds queue depths = .ok depths' ∧ m.Charted seed [] depths' := by
  induction rounds generalizing queue depths with
  | zero =>
    cases List.length_eq_zero_iff.1 (show queue.length = 0 by omega)
    exact ⟨depths, rfl, charted⟩
  | succ rounds inductionHypothesis =>
    rcases queue with - | ⟨⟨f, d⟩, queue⟩
    · exact ⟨depths, rfl, charted⟩
    · rw [List.length_cons] at enough
      have cameOut (depths : List (FaceId × Nat)) (f : FaceId) :
          (depths.any fun entry => entry.1 = f) = decide (f ∈ depths.map Prod.fst) := by
        rw [Bool.eq_iff_iff]
        simp
      by_cases known : f ∈ depths.map Prod.fst
      · rw [depthsFrom, cameOut, if_pos (decide_eq_true known)]
        exact inductionHypothesis (charted.skip known) (by omega)
      · have fLive := sound.face_live_of_reachable (charted.dist_eq known).1 live
        rcases sound.exists_faceNeighbors fLive with ⟨neighbors, lists, mem_neighbors⟩
        let fresh := neighbors.filter fun g => g ∉ ((f, d) :: depths).map Prod.fst
        have mem_fresh (g : FaceId) : g ∈ fresh ↔
            (m.faceGraph .edge).Adj f g ∧ g ∉ ((f, d) :: depths).map Prod.fst := by
          rw [List.mem_filter, mem_neighbors, decide_eq_true_eq]
        have few : fresh.length ≤ 3 :=
          (List.length_filter_le _ _).trans (length_le_of_faceNeighbors lists)
        have fewer : 1 + m.unseen (f :: depths.map Prod.fst) ≤ m.unseen (depths.map Prod.fst) :=
          unseen_of_fresh (List.nodup_singleton f) (by simpa using fLive) (by simpa using known)
        rcases inductionHypothesis (charted.expand known mem_fresh) (by
          simp only [List.length_append, List.length_map, List.map_cons]
          omega) with ⟨depths', result, complete⟩
        refine ⟨depths', ?_, complete⟩
        rw [depthsFrom, cameOut, if_neg (mt of_decide_eq_true known), lists]
        simpa only [bind, Except.bind, cameOut, fresh, decide_not] using result

/-- The faces that are connected to a live face are listed with their distances. -/
theorem exists_depthMap :
    ∃ l, m.depthMap seed = .ok l ∧ (l.map Prod.fst).Pairwise (· < ·) ∧
      ∀ f d, (f, d) ∈ l ↔
        (m.faceGraph .edge).Reachable seed f ∧ (m.faceGraph .edge).dist seed f = d := by
  rcases Option.isSome_iff_exists.1 live with ⟨record, found⟩
  have enough : [(seed, 0)].length + 3 * m.unseen [] ≤ 3 * (m.halfedgeCount + 1) + 1 := by
    have bounded := sound.unseen_le_halfedgeCount []
    rw [List.length_singleton]
    omega
  rcases sound.exists_depthsFrom live _ (.of_seed m seed) enough with ⟨depths, result, charted⟩
  have first (f : FaceId) (mem : f ∈ sortKeys (depths.map Prod.fst)) :
      depths.find? (fun entry => entry.1 = f) = some (f, (m.faceGraph .edge).dist seed f) := by
    rcases List.mem_map.1 (mem_sortKeys.1 mem) with ⟨entry, out, rfl⟩
    have listed : (depths.find? fun entry' => entry'.1 = entry.1).isSome = true :=
      List.find?_isSome.2 ⟨entry, out, by simp⟩
    rcases Option.isSome_iff_exists.1 listed with ⟨entry', isFirst⟩
    have same : entry'.1 = entry.1 := by simpa using List.find?_some isFirst
    rw [isFirst, ← same, (charted.exact entry' (List.mem_of_find?_eq_some isFirst)).2]
  refine ⟨(sortKeys (depths.map Prod.fst)).map fun f => (f, (m.faceGraph .edge).dist seed f),
    ?_, ?_, fun f d => ?_⟩
  · simp only [depthMap, face_eq_ok_iff.2 found, result, bind, Except.bind, pure, Except.pure]
    rw [List.filterMap_congr first, List.filterMap_eq_map']
  · simpa [Function.comp_def] using pairwise_sortKeys _
  · simp only [List.mem_map, mem_sortKeys, Prod.mk.injEq]
    constructor
    · rintro ⟨g, ⟨entry, out, rfl⟩, rfl, rfl⟩
      exact ⟨(charted.exact entry out).1, rfl⟩
    · rintro ⟨reachable, rfl⟩
      exact ⟨f, ⟨_, charted.mem_depths_iff.2 ⟨reachable, rfl⟩, rfl⟩, rfl, rfl⟩

end Sound

end Mesh

end PlanarMesh
