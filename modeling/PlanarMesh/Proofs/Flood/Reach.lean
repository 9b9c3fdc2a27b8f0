import PlanarMesh.Proofs.Flood.Rounds
import PlanarMesh.Proofs.Reachability

/-!
# What a flood reaches

In either order a flood only goes along paths: the faces it has seen lie at the ends of paths of
seen faces from the seeds, and it expands them unless such a path is as long as the depth limit
(`Traced`).  So without a limit it ends with all faces that are connected to a seed.

A flood in breadth expands the faces by increasing depth (`Leveled`).  Therefore the depth at which
it discovers a face is the length of a shortest path to it, and with a limit it ends with the faces
that are no farther from the seeds than that (`reachedFaces_of_operations`).
-/

namespace PlanarMesh

namespace Mesh

/-- The face is connected to a seed, by so many steps at most if there is a limit. -/
def Within (m : Mesh) (adjacency : Adjacency) (limit : Option Nat) (seeds : List FaceId)
    (f : FaceId) : Prop :=
  ∃ seed ∈ seeds, (m.faceGraph adjacency).Reachable seed f ∧
    ∀ k ∈ limit, (m.faceGraph adjacency).dist seed f ≤ k

/-- What a flood knows in either order. -/
structure Traced (m : Mesh) (options : FloodOptions) (seeds : List FaceId) (s : Flooding) :
    Prop where
  start : ∀ f ∈ seeds, f ∈ s.state.seen ∧ s.depth f = 0
  path : ∀ f ∈ s.state.seen, ∃ seed ∈ seeds,
    ∃ p : (m.faceGraph options.adjacency).Walk seed f, p.IsPath ∧ p.length = s.depth f ∧
      ∀ g ∈ p.support, g ∈ s.state.seen
  limit : ∀ f ∈ s.state.seen, ∀ k ∈ options.maxDepth, s.depth f ≤ k
  work : ∀ entry ∈ s.state.work, entry.1 ∈ s.state.seen ∧ s.depth entry.1 = entry.2
  closed : ∀ f ∈ s.state.seen, options.Expands (s.depth f) → (f, s.depth f) ∉ s.state.work →
    ∀ g, (m.faceGraph options.adjacency).Adj f g → g ∈ s.state.seen

/-- What a flood in breadth knows besides. -/
structure Leveled (m : Mesh) (options : FloodOptions) (s : Flooding) : Prop where
  sorted : s.state.work.Pairwise fun entry entry' => entry.2 ≤ entry'.2
  level : ∀ entry ∈ s.state.work, ∀ f ∈ s.state.seen, s.depth f ≤ entry.2 + 1
  near : ∀ f ∈ s.state.seen, options.Expands (s.depth f) → (f, s.depth f) ∉ s.state.work →
    ∀ g, (m.faceGraph options.adjacency).Adj f g → s.depth g ≤ s.depth f + 1

variable {m : Mesh} {adjacency : Adjacency} {limit : Option Nat} {options : FloodOptions}
  {seeds : List FaceId} {f g : FaceId} {s s' : Flooding}

theorem within_iff_walk : m.Within adjacency limit seeds f ↔
    ∃ seed ∈ seeds, ∃ p : (m.faceGraph adjacency).Walk seed f, ∀ k ∈ limit, p.length ≤ k := by
  constructor
  · rintro ⟨seed, mem, reachable, short⟩
    rcases reachable.exists_walk_length_eq_dist with ⟨p, shortest⟩
    exact ⟨seed, mem, p, shortest ▸ short⟩
  · rintro ⟨seed, mem, p, short⟩
    exact ⟨seed, mem, p.reachable, fun k isLimit => (SimpleGraph.dist_le p).trans (short k isLimit)⟩

namespace Traced

theorem of_start (m : Mesh) (options : FloodOptions) (seeds : List FaceId) :
    m.Traced options seeds (.start seeds) where
  start f mem := ⟨mem, rfl⟩
  path f mem := ⟨f, mem, .nil, .nil, rfl, fun g onPath => by
    rwa [SimpleGraph.Walk.mem_support_nil_iff.1 onPath]⟩
  limit f mem k isLimit := k.zero_le
  work entry mem := by
    rcases List.mem_map.1 mem with ⟨f, listed, rfl⟩
    exact ⟨listed, rfl⟩
  closed f mem expands idle := absurd (List.mem_map.2 ⟨f, mem, rfl⟩) idle

theorem round (traced : m.Traced options seeds s) (round : m.FloodRound options s s') :
    m.Traced options seeds s' := by
  have left := @round.left
  rcases round with @⟨e, d, rest, fresh, taken, nodup, mem_fresh, seen, work, old, new⟩
  have mem_seen {g : FaceId} : g ∈ s'.state.seen ↔ g ∈ fresh ∨ g ∈ s.state.seen := by simp [seen]
  have busy {entry : FaceId × Nat} (mem : entry ∈ (e, d) :: rest) :
      entry.1 ∈ s.state.seen ∧ s.depth entry.1 = entry.2 :=
    traced.work entry ((FloodState.perm_of_take? taken).mem_iff.2 mem)
  constructor
  case start =>
    intro f isSeed
    rcases traced.start f isSeed with ⟨known, zero⟩
    exact ⟨mem_seen.2 (.inr known), (old f known).trans zero⟩
  case path =>
    intro f mem
    rcases mem_seen.1 mem with isNew | known
    · -- A step leads from the face that was taken to the new one.
      rcases (mem_fresh f).1 isNew with ⟨-, adj, unknown⟩
      rcases busy List.mem_cons_self with ⟨eSeen, eDepth⟩
      rcases traced.path e eSeen with ⟨seed, isSeed, p, isPath, length, support⟩
      refine ⟨seed, isSeed, p.concat adj, ?_, ?_, fun g onPath => ?_⟩
      · exact isPath.concat (fun onPath => unknown (support f onPath)) adj
      · rw [SimpleGraph.Walk.length_concat, length, eDepth, new f isNew]
      · rw [SimpleGraph.Walk.support_concat, List.mem_append,
          List.mem_singleton] at onPath
        rcases onPath with onPath | rfl
        · exact mem_seen.2 (.inr (support g onPath))
        · exact mem
    · rcases traced.path f known with ⟨seed, isSeed, p, isPath, length, support⟩
      exact ⟨seed, isSeed, p, isPath, length.trans (old f known).symm,
        fun g onPath => mem_seen.2 (.inr (support g onPath))⟩
  case limit =>
    intro f mem k isLimit
    rcases mem_seen.1 mem with isNew | known
    · rw [new f isNew]
      exact ((mem_fresh f).1 isNew).1 k isLimit
    · rw [old f known]
      exact traced.limit f known k isLimit
  case work =>
    intro entry mem
    rw [work] at mem
    rcases mem_entering.1 mem with left | ⟨isNew, depth⟩
    · rcases busy (List.mem_cons_of_mem _ left) with ⟨known, same⟩
      exact ⟨mem_seen.2 (.inr known), (old entry.1 known).trans same⟩
    · exact ⟨mem_seen.2 (.inl isNew), (new entry.1 isNew).trans depth.symm⟩
  case closed =>
    intro f mem expands idle g adj
    rcases left mem idle with ⟨known, same, complete⟩
    rw [same] at expands
    by_cases busy : (f, s.depth f) ∈ s.state.work
    · exact (complete busy).2 expands g adj
    · exact mem_seen.2 (.inr (traced.closed f known expands busy g adj))

theorem run (run : Relation.ReflTransGen (m.FloodRound options) (.start seeds) s) :
    m.Traced options seeds s := by
  induction run with
  | refl => exact .of_start m options seeds
  | tail _ next inductionHypothesis => exact inductionHypothesis.round next

/-- Whatever a flood has seen is within reach. -/
theorem within (traced : m.Traced options seeds s) (seen : f ∈ s.state.seen) :
    m.Within options.adjacency options.maxDepth seeds f := by
  rcases traced.path f seen with ⟨seed, isSeed, p, -, length, -⟩
  exact within_iff_walk.2 ⟨seed, isSeed, p, fun k isLimit => length ▸ traced.limit f seen k isLimit⟩

/-- Without a limit a flood ends with everything that is connected to a seed. -/
theorem seen_of_reachable (traced : m.Traced options seeds s) (done : s.state.work = [])
    (unlimited : options.maxDepth = none) {seed : FaceId} (isSeed : seed ∈ seeds)
    (reachable : (m.faceGraph options.adjacency).Reachable seed f) : f ∈ s.state.seen := by
  rw [SimpleGraph.reachable_iff_reflTransGen] at reachable
  induction reachable with
  | refl => exact (traced.start seed isSeed).1
  | @tail e f _ adj seen =>
    exact traced.closed e seen (by simp [FloodOptions.Expands, unlimited]) (by simp [done]) f adj

end Traced

namespace Leveled

theorem of_start (m : Mesh) (options : FloodOptions) (seeds : List FaceId) :
    m.Leveled options (.start seeds) where
  sorted := List.pairwise_map.2 (List.pairwise_of_forall fun _ _ => le_rfl)
  level _ _ _ _ := Nat.zero_le _
  near _ _ _ _ _ _ := Nat.zero_le _

theorem round (leveled : m.Leveled options s) (traced : m.Traced options seeds s)
    (inBreadth : options.order = .breadthFirst) (round : m.FloodRound options s s') :
    m.Leveled options s' := by
  have left := @round.left
  rcases round with @⟨e, d, rest, fresh, taken, nodup, mem_fresh, seen, work, old, new⟩
  simp only [inBreadth, FloodState.take?_breadthFirst_eq_some_iff] at taken left
  have mem_seen {g : FaceId} : g ∈ s'.state.seen ↔ g ∈ fresh ∨ g ∈ s.state.seen := by simp [seen]
  rcases List.pairwise_cons.1 (taken ▸ leveled.sorted) with ⟨least, sorted⟩
  -- The face that was taken has the least depth, and no face has more than one step more.
  have most (f : FaceId) (known : f ∈ s.state.seen) : s.depth f ≤ d + 1 :=
    leveled.level (e, d) (taken ▸ List.mem_cons_self) f known
  have most' (f : FaceId) (mem : f ∈ s'.state.seen) : s'.depth f ≤ d + 1 := by
    rcases mem_seen.1 mem with isNew | known
    · exact (new f isNew).le
    · exact (old f known).trans_le (most f known)
  constructor
  case sorted =>
    rw [work]
    refine pairwise_entering sorted fun entry left => ?_
    rcases traced.work entry (taken ▸ List.mem_cons_of_mem _ left) with ⟨known, same⟩
    exact same ▸ most entry.1 known
  case level =>
    intro entry mem f seen
    refine (most' f seen).trans (Nat.succ_le_succ ?_)
    rw [work] at mem
    rcases mem_entering.1 mem with left | ⟨-, depth⟩
    · exact least entry left
    · exact depth ▸ d.le_succ
  case near =>
    intro f mem expands idle g adj
    rcases left mem idle with ⟨known, same, complete⟩
    rw [same] at expands ⊢
    by_cases busy : (f, s.depth f) ∈ s.state.work
    · rcases complete busy with ⟨⟨rest', taken'⟩, seen'⟩
      rw [taken] at taken'
      rw [← (Prod.mk.inj (List.cons.inj taken').1).2]
      exact most' g (seen' expands g adj)
    · rw [old g (traced.closed f known expands busy g adj)]
      exact leveled.near f known expands busy g adj

theorem run (inBreadth : options.order = .breadthFirst)
    (run : Relation.ReflTransGen (m.FloodRound options) (.start seeds) s) :
    m.Leveled options s := by
  induction run with
  | refl => exact .of_start m options seeds
  | tail run next inductionHypothesis =>
    exact inductionHypothesis.round (.run run) inBreadth next

/-- At the end no face was discovered later than on a shortest path. -/
theorem depth_le_length (leveled : m.Leveled options s) (traced : m.Traced options seeds s)
    (done : s.state.work = []) {seed : FaceId} (isSeed : seed ∈ seeds)
    (p : (m.faceGraph options.adjacency).Walk seed f)
    (short : ∀ k ∈ options.maxDepth, p.length ≤ k) :
    f ∈ s.state.seen ∧ s.depth f ≤ p.length := by
  induction p using SimpleGraph.Walk.concatRec with
  | Hnil =>
    rcases traced.start _ isSeed with ⟨seen, zero⟩
    exact ⟨seen, zero.le⟩
  | @Hconcat seed e f p adj inductionHypothesis =>
    rw [SimpleGraph.Walk.length_concat] at short ⊢
    rcases inductionHypothesis isSeed fun k isLimit => (Nat.le_succ _).trans (short k isLimit) with
      ⟨seen, depth⟩
    have expands : options.Expands (s.depth e) := fun k isLimit =>
      (Nat.lt_succ_of_le depth).trans_le (short k isLimit)
    have idle : (e, s.depth e) ∉ s.state.work := by simp [done]
    exact ⟨traced.closed e seen expands idle f adj,
      (leveled.near e seen expands idle f adj).trans (Nat.succ_le_succ depth)⟩

/-- A flood in breadth ends with everything that is within reach. -/
theorem seen_iff (leveled : m.Leveled options s) (traced : m.Traced options seeds s)
    (done : s.state.work = []) :
    f ∈ s.state.seen ↔ m.Within options.adjacency options.maxDepth seeds f := by
  constructor
  · exact traced.within
  · intro within
    rcases within_iff_walk.1 within with ⟨seed, isSeed, p, short⟩
    exact (leveled.depth_le_length traced done isSeed p short).1

end Leveled

/-! ## The list of faces -/

namespace Sound

variable (sound : m.Sound) (options) (unstopped : ∀ f, options.stop f = false)
  (live : ∀ f ∈ seeds, m.containsFace f = true)

include sound unstopped live

/-- A flood from live seeds ends, with the faces that it has seen. -/
theorem exists_reachedFaces :
    ∃ s, m.reachedFaces seeds options = .ok (sortKeys s.state.seen) ∧ s.state.work = [] ∧
      Relation.ReflTransGen (m.FloodRound options) (.start seeds) s := by
  rcases sound.exists_flood unstopped live with ⟨s, result, done, run⟩
  refine ⟨s, ?_, done, run⟩
  rw [reachedFaces, result]
  rfl

theorem exists_reachedFaces_breadthFirst (inBreadth : options.order = .breadthFirst) :
    ∃ l, m.reachedFaces seeds options = .ok l ∧ l.Pairwise (· < ·) ∧
      ∀ f, f ∈ l ↔ m.Within options.adjacency options.maxDepth seeds f := by
  rcases sound.exists_reachedFaces options unstopped live with ⟨s, result, done, run⟩
  refine ⟨_, result, pairwise_sortKeys _, fun f => ?_⟩
  rw [mem_sortKeys, (Leveled.run inBreadth run).seen_iff (.run run) done]

theorem exists_reachedFaces_unlimited (unlimited : options.maxDepth = none) :
    ∃ l, m.reachedFaces seeds options = .ok l ∧ l.Pairwise (· < ·) ∧
      ∀ f, f ∈ l ↔ ∃ seed ∈ seeds, (m.faceGraph options.adjacency).Reachable seed f := by
  rcases sound.exists_reachedFaces options unstopped live with ⟨s, result, done, run⟩
  have traced : m.Traced options seeds s := .run run
  refine ⟨_, result, pairwise_sortKeys _, fun f => ?_⟩
  rw [mem_sortKeys]
  constructor
  · intro seen
    rcases traced.path f seen with ⟨seed, isSeed, p, -⟩
    exact ⟨seed, isSeed, p.reachable⟩
  · rintro ⟨seed, isSeed, reachable⟩
    exact traced.seen_of_reachable done unlimited isSeed reachable

end Sound

/-- Whatever operations were run: a flood in breadth from live faces returns the faces that are no
farther from a seed than the limit says, in increasing order; without a limit it returns those that
are connected to a seed, and so does a flood in depth. -/
theorem reachedFaces_of_operations (operations : List Operation) (adjacency : Adjacency)
    (seeds : List FaceId) (live : ∀ f ∈ seeds, (empty.run operations).containsFace f = true) :
    let m := empty.run operations
    (∀ limit, ∃ l, m.reachedFaces seeds
        { adjacency := adjacency, order := .breadthFirst, maxDepth := limit } = .ok l ∧
      l.Pairwise (· < ·) ∧ ∀ f, f ∈ l ↔ m.Within adjacency limit seeds f) ∧
    ∀ order, ∃ l, m.reachedFaces seeds { adjacency := adjacency, order := order } = .ok l ∧
      l.Pairwise (· < ·) ∧
      ∀ f, f ∈ l ↔ ∃ seed ∈ seeds, (m.faceGraph adjacency).Reachable seed f := by
  intro m
  have sound : m.Sound := sound_empty.run operations
  exact ⟨fun limit => sound.exists_reachedFaces_breadthFirst _ (fun _ => rfl) live rfl,
    fun order => sound.exists_reachedFaces_unlimited _ (fun _ => rfl) live rfl⟩

/-- Five triangles around a node, and another one on the rim. -/
def rosette : List Operation :=
  [.build ⟨[⟨0, 0⟩, ⟨4, 0⟩, ⟨1, 4⟩, ⟨-3, 2⟩, ⟨-3, -2⟩, ⟨1, -4⟩, ⟨-3, -6⟩],
    [⟨0, 1, 2⟩, ⟨0, 2, 3⟩, ⟨0, 3, 4⟩, ⟨0, 4, 5⟩, ⟨0, 5, 1⟩, ⟨5, 4, 6⟩]⟩]

/-- The five triangles are at most two steps away from the first one, and the sixth is not. -/
theorem within_rosette :
    let m := empty.run rosette
    let seeds : List FaceId := [⟨1, 0⟩, ⟨1, 0⟩]
    (∀ f ∈ seeds, m.containsFace f = true) ∧
      ∀ f, m.Within .edge (some 2) seeds f ↔
        f ∈ [(⟨1, 0⟩ : FaceId), ⟨2, 0⟩, ⟨3, 0⟩, ⟨4, 0⟩, ⟨5, 0⟩] := by
  intro m seeds
  have live : ∀ f ∈ seeds, m.containsFace f = true := by decide +kernel
  have reached : m.reachedFaces seeds { order := .breadthFirst, maxDepth := some 2 } =
      .ok [⟨1, 0⟩, ⟨2, 0⟩, ⟨3, 0⟩, ⟨4, 0⟩, ⟨5, 0⟩] := by
    decide +kernel
  rcases (reachedFaces_of_operations rosette .edge seeds live).1 (some 2) with
    ⟨l, result, -, mem_iff⟩
  cases reached.symm.trans result
  exact ⟨live, fun f => (mem_iff f).symm⟩

end Mesh

end PlanarMesh
