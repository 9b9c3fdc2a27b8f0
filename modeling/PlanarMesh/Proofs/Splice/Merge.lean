import PlanarMesh.Proofs.Outcome
import PlanarMesh.Proofs.Splice.Search

/-!
# Making half-edges neighbours

`mergeAdjacent` makes `o` follow `i` around their node.  Read from `o` on, the ring is
`W ++ i :: C`; if `C` is empty there is nothing to do.  Otherwise `C` moves to the first place
of `W` where the twin borders no face: the ring `A ++ g :: (B ++ i :: C)` becomes
`A ++ g :: (C ++ B ++ [i])`.

Only pointers of half-edges without a face move, and only around one node (`Regrouped`).  The
edit is refused, and then changes nothing, exactly when there is something to move and no
place for it (`Joinable`).
-/

namespace PlanarMesh

namespace Mesh

/-- Nothing has to move for `o` to follow `i`, or there is a place to move it to. -/
def Joinable (m : Mesh) (i o : HalfedgeId) : Prop :=
  m.Follows i o ∨ ∃ n W C, m.Ring n ↑(W ++ i :: C) ∧ W.head? = some o ∧ ∃ a ∈ W, m.Free a.pair

/-- `m'` differs from `m` in pointers of half-edges without a face only. -/
structure Rearranged (m m' : Mesh) : Prop where
  nodes : m'.nodes = m.nodes
  faces : m'.faces = m.faces
  generationAt : m'.edges.generationAt = m.edges.generationAt
  origin? : ∀ h, m'.origin? h = m.origin? h
  faceOf? : ∀ h, m'.faceOf? h = m.faceOf? h
  keeps_faced : m.Keeps m' fun g => m.Free g.pair

/-- `m'` is `m` with the ring of `o` regrouped such that `o` follows `i`. -/
structure Regrouped (m : Mesh) (i o : HalfedgeId) (m' : Mesh) : Prop
    extends m.Rearranged m' where
  follows : m'.Follows i o
  unmoved : m.Follows i o → m' = m
  ring_of_ne : ∀ n ring, m.origin? o ≠ some n → m.Ring n ring → m'.Ring n ring
  ring : ∀ n W C A g B, m.Ring n ↑(W ++ i :: C) → W.head? = some o → m.FirstFree W A g B →
    m'.Ring n ↑(A ++ g :: (C ++ B ++ [i]))

variable {m : Mesh} {i o : HalfedgeId}

namespace Rearranged

theorem refl (m : Mesh) : m.Rearranged m :=
  ⟨rfl, rfl, rfl, fun _ => rfl, fun _ => rfl, fun _ _ _ => id⟩

theorem free {m' : Mesh} (rearranged : m.Rearranged m') (h : HalfedgeId) :
    m'.Free h ↔ m.Free h := by
  unfold Free
  rw [rearranged.faceOf?]

theorem trans {m' m'' : Mesh} (first : m.Rearranged m') (second : m'.Rearranged m'') :
    m.Rearranged m'' where
  nodes := second.nodes.trans first.nodes
  faces := second.faces.trans first.faces
  generationAt := second.generationAt.trans first.generationAt
  origin? h := (second.origin? h).trans (first.origin? h)
  faceOf? h := (second.faceOf? h).trans (first.faceOf? h)
  keeps_faced g h faced follows :=
    second.keeps_faced g h (fun free => faced ((first.free g.pair).1 free))
      (first.keeps_faced g h faced follows)

end Rearranged

/-- The ring of two half-edges at a node, read from the one to the other. -/
theorem exists_ring_between (sound : m.Sound) {n : NodeId} (iStart : m.origin? i = some n)
    (oStart : m.origin? o = some n) (differ : i ≠ o) :
    ∃ W C, m.Ring n ↑(W ++ i :: C) ∧ W.head? = some o := by
  rcases sound.exists_ring n with ⟨ring, around⟩
  rcases Cycle.exists_coe_cons ((around.mem_iff o).2 oStart) with ⟨l, rfl⟩
  have mem : i ∈ o :: l := (around.mem_iff i).2 iStart
  rcases List.append_of_mem ((List.mem_cons.1 mem).resolve_left differ) with ⟨X, C, rfl⟩
  exact ⟨o :: X, C, around, rfl⟩

theorem regrouped_of_follows (follows : m.Follows i o) : m.Regrouped i o m where
  toRearranged := .refl m
  follows := follows
  unmoved _ := rfl
  ring_of_ne _ _ _ := id
  ring n W C A g B around start first := by
    rcases Cycle.chain_coe_iff.1 around.chain with ⟨chain, closes⟩
    cases C with
    | nil =>
      rw [first.split] at around
      simpa using around
    | cons b C =>
      -- What follows `i` in the list cannot be the first of the list as well.
      have next : m.Follows i b :=
        (List.isChain_cons_cons.1 (List.isChain_append.1 chain).2.1).1
      have same := follows.right_unique next
      have apart := (List.nodup_append.1 around.nodup).2.2
      exact absurd same (apart o (List.mem_of_head? start) b (by simp))

section Regroup

variable {g b d h : HalfedgeId} (sound : m.Sound) (free : m.Free o) (iFree : m.Free i.pair)
  (gFree : m.Free g.pair) (atI : m.Follows i b) (atG : m.Follows g h) (atD : m.Follows d o)

include atI atG atD

theorem ring_regroup {n : NodeId} {W C A B : List HalfedgeId}
    (around : m.Ring n ↑(W ++ i :: C)) (start : W.head? = some o)
    (first : m.FirstFree W A g B) (moves : C ≠ []) :
    (m.regroup i o g b d h).Ring n ↑(A ++ g :: (C ++ B ++ [i])) := by
  rcases first with ⟨rfl, -, -⟩
  have shape : A ++ g :: B ++ i :: C = (A ++ [g]) ++ (B ++ [i]) ++ C := by simp
  have shape' : A ++ g :: (C ++ B ++ [i]) = (A ++ [g]) ++ C ++ (B ++ [i]) := by simp
  rw [shape] at around
  have firstA : (A ++ [g]).head? = some o := by
    cases A <;> simpa using start
  obtain ⟨h', firstB⟩ : ∃ x, (B ++ [i]).head? = some x := by cases B <;> simp
  obtain ⟨b', firstC⟩ : ∃ x, C.head? = some x := ⟨_, List.head?_eq_some_head moves⟩
  obtain ⟨d', lastC⟩ : ∃ x, C.getLast? = some x := ⟨_, List.getLast?_eq_some_getLast moves⟩
  rcases Cycle.chain_coe_iff.1 around.chain with ⟨chain, closes⟩
  rcases List.isChain_append.1 chain with ⟨chainAB, -, joinC⟩
  have atG' : m.Follows g h' := (List.isChain_append.1 chainAB).2.2 g (by simp) h' firstB
  have atI' : m.Follows i b' := joinC i (by rw [← List.append_assoc, List.getLast?_concat]; rfl)
    b' firstC
  have atD' : m.Follows d' o :=
    closes d' (by rw [List.getLast?_append, lastC]; rfl) o
      (by rw [List.append_assoc, List.head?_append, firstA]; rfl)
  rw [atI.right_unique atI', atG.right_unique atG', atD.left_unique atD', shape']
  refine ⟨orbit_regroup around.toOrbit firstA (by simp) firstB (by simp) firstC lastC,
    fun x => ?_⟩
  rw [regroup, origin?_link, origin?_link, origin?_link, ← around.mem_iff x]
  simp only [Cycle.mem_coe_iff, List.mem_append]
  tauto

include sound free iFree gFree

theorem regrouped_regroup {n : NodeId} (iStart : m.origin? i = some n)
    (gStart : m.origin? g = some n) (oStart : m.origin? o = some n) (ig : i ≠ g) (gd : g ≠ d)
    (di : d ≠ i)
    (found : ∀ n W C A g' B, m.Ring n ↑(W ++ i :: C) → W.head? = some o →
      m.FirstFree W A g' B → g' = g ∧ C ≠ []) :
    m.Regrouped i o (m.regroup i o g b d h) where
  nodes := by simp [regroup]
  faces := by simp [regroup]
  generationAt := by simp [regroup]
  origin? x := by simp [regroup]
  faceOf? x := by simp [regroup]
  follows := (follows_regroup atI atG atD ig gd di).1
  unmoved follows := absurd (atD.left_unique follows) di
  keeps_faced := by
    intro x y faced follows
    refine keeps_regroup atI atG atD x y ?_ follows
    rintro (rfl | rfl | rfl)
    · exact faced iFree
    · exact faced gFree
    · exact faced ((sound.free_iff atD).1 free)
  ring_of_ne n' ring other around := by
    have apart : ∀ x, m.origin? x = some n → x ∉ ring := fun x start mem =>
      other (oStart.trans (start.symm.trans ((around.mem_iff x).1 mem)))
    refine around.of_keeps (fun x => by simp [regroup]) fun x y mem follows => ?_
    refine keeps_regroup atI atG atD x y ?_ follows
    rintro (rfl | rfl | rfl)
    · exact apart x iStart mem
    · exact apart x gStart mem
    · exact apart x ((sound.origin?_of_follows atD).symm.trans oStart) mem
  ring n W C A g' B around start first := by
    rcases found n W C A g' B around start first with ⟨rfl, moves⟩
    exact ring_regroup atI atG atD around start first moves

end Regroup

/-- A regrouped mesh is as sound as the mesh before. -/
theorem Regrouped.sound {m' : Mesh} (regrouped : m.Regrouped i o m') (sound : m.Sound)
    {n : NodeId} (ring : ∃ ring, m'.Ring n ring) (start : m.origin? o = some n) : m'.Sound where
  origin_live h n := by
    rw [regrouped.origin?, containsNode, node?, regrouped.nodes]
    exact sound.origin_live h n
  ends_ne h n := by
    rw [regrouped.origin?, regrouped.origin?]
    exact sound.ends_ne h n
  exists_ring n' := by
    by_cases same : n' = n
    · exact same ▸ ring
    · rcases sound.exists_ring n' with ⟨ring, around⟩
      refine ⟨ring, regrouped.ring_of_ne n' ring ?_ around⟩
      rw [start]
      exact fun equal => same (Option.some.inj equal).symm
  isolated n record := by
    simp only [node?, regrouped.nodes, regrouped.origin?]
    exact sound.isolated n record
  representative n record h := by
    rw [node?, regrouped.nodes, regrouped.origin?]
    exact sound.representative n record h
  face_live h f := by
    rw [regrouped.faceOf?, containsFace, face?, regrouped.faces]
    exact sound.face_live h f
  triangle f record := by
    rw [face?, regrouped.faces]
    intro found
    rcases sound.triangle f record found with ⟨t, first, triangle⟩
    exact ⟨t, first, regrouped.keeps_faced.triangle sound triangle
      fun h => by rw [regrouped.faceOf?]⟩

/-- Whether half-edges can be joined is read off the ring of their node. -/
theorem Joinable.of_ring {m' : Mesh} {n : NodeId} {ring : Cycle HalfedgeId}
    (joinable : m.Joinable i o) (around : m.Ring n ring) (around' : m'.Ring n ring)
    (mem : i ∈ ring) (free : ∀ a ∈ ring, m.Free a.pair → m'.Free a.pair) : m'.Joinable i o := by
  rcases joinable with follows | ⟨n', W, C, read, first, a, aMem, aFree⟩
  · exact .inl ((around'.follows_iff mem).2 ((around.follows_iff mem).1 follows))
  · have same : n' = n := by
      have start := (read.mem_iff i).1 (by simp)
      exact Option.some.inj (start.symm.trans ((around.mem_iff i).1 mem))
    subst same
    cases read.unique around
    exact .inr ⟨n', W, C, around', first, a, aMem, free a (by simp [aMem]) aFree⟩

/-- At other nodes the same half-edges can be joined as before. -/
theorem Regrouped.joinable_iff {m' : Mesh} (regrouped : m.Regrouped i o m') (sound : m.Sound)
    {j p : HalfedgeId} {n : NodeId} (jStart : m.origin? j = some n)
    (other : m.origin? o ≠ some n) :
    m'.Joinable j p ↔ m.Joinable j p := by
  rcases sound.exists_ring n with ⟨ring, around⟩
  have around' := regrouped.ring_of_ne n ring other around
  have mem := (around.mem_iff j).2 jStart
  constructor
  · intro joinable
    exact joinable.of_ring around' around mem fun a _ => (regrouped.free a.pair).1
  · intro joinable
    exact joinable.of_ring around around' mem fun a _ => (regrouped.free a.pair).2

/-- A ring that is read from `o` on to its last member `i` has `o` after `i`. -/
theorem follows_of_last {W : List HalfedgeId} (orbit : m.Orbit ↑(W ++ [i]))
    (start : W.head? = some o) : m.Follows i o :=
  orbit.follows (Cycle.adjacent_of_ends (by simp) (by simp [List.head?_append, start]))

/-- Otherwise what comes before `o` comes after `i` in the list. -/
theorem mem_of_follows_start {W C : List HalfedgeId} {d : HalfedgeId}
    (orbit : m.Orbit ↑(W ++ i :: C)) (start : W.head? = some o) (apart : ¬ m.Follows i o)
    (before : m.Follows d o) : C ≠ [] ∧ d ∈ C := by
  have moves : C ≠ [] := by
    rintro rfl
    exact apart (follows_of_last orbit start)
  rcases (List.eq_nil_or_concat' C).resolve_left moves with ⟨C, x, rfl⟩
  have last : m.Follows x o := orbit.follows (Cycle.adjacent_of_ends
    (by rw [List.getLast?_append, ← List.cons_append, List.getLast?_concat]; rfl)
    (by simp [List.head?_append, start]))
  rw [before.left_unique last]
  exact ⟨moves, by simp⟩

end Mesh

namespace Edit

open Mesh

variable {s : Session} {i o : HalfedgeId} {n : NodeId}

theorem mergeAdjacent_ends (sound : s.mesh.Sound) (iStart : s.mesh.origin? i = some n)
    (oStart : s.mesh.origin? o = some n) (differ : i ≠ o) (iFree : s.mesh.Free i.pair)
    (oFree : s.mesh.Free o) :
    (mergeAdjacent i.pair o).Ends s
      (fun _ m => s.mesh.Joinable i o ∧ s.mesh.Regrouped i o m)
      (fun error m => ¬ s.mesh.Joinable i o ∧ m = s.mesh ∧
        error = .topology (.noFreeSlot n)) := by
  unfold mergeAdjacent
  rcases sound.exists_follows iStart with ⟨b, atI, -⟩
  rw [ends_bind_of_ok (query_next atI.1)]
  by_cases done : b = o
  · subst done
    rw [if_pos rfl, ends_pure]
    exact ⟨.inl atI, regrouped_of_follows atI⟩
  rw [if_neg done]
  rcases sound.exists_follows_to oStart with ⟨d, atD, dStart⟩
  rcases exists_ring_between sound iStart oStart differ with ⟨W, C, around, start⟩
  rw [ends_bind_of_ok (query_prev atD.2)]
  by_cases room : ∃ a ∈ W, s.mesh.Free a.pair
  · rcases exists_firstFree room with ⟨A, g, B, first⟩
    have gStart : s.mesh.origin? g = some n :=
      (around.mem_iff g).1 (List.mem_append_left _ first.mem)
    rcases sound.exists_follows gStart with ⟨h, atG, -⟩
    have search := freeBetween_of_firstFree around.toOrbit start oStart first
    have iLive := containsHalfedge_of_origin? iStart
    have oLive := containsHalfedge_of_origin? oStart
    have gLive := containsHalfedge_of_origin? gStart
    have dLive := containsHalfedge_of_origin? dStart
    rw [ends_bind_of_ok (query_of_ok search), ends_bind_of_ok (query_next atG.1),
      ends_bind_of_ok (link_of_live (by simpa using iLive) oLive),
      ends_bind_of_ok (link_of_live (by simpa using gLive) (by simpa using atI.live_right)),
      ends_bind_of_ok (link_of_live (by simpa using dLive) (by simpa using atG.live_right))]
    refine ⟨.inr ⟨n, W, C, around, start, g, first.mem, first.free⟩, ?_⟩
    have apart : ¬ s.mesh.Follows i o := fun follows => done (atI.right_unique follows)
    rcases mem_of_follows_start around.toOrbit start apart atD with ⟨-, dMem⟩
    rcases List.nodup_append.1 around.nodup with ⟨-, nodup, disjoint⟩
    refine regrouped_regroup sound oFree iFree first.free atI atG atD iStart gStart oStart
      ?_ ?_ ?_ ?_
    · exact (disjoint g first.mem i (by simp)).symm
    · exact disjoint g first.mem d (by simp [dMem])
    · rintro rfl
      exact (List.nodup_cons.1 nodup).1 dMem
    · intro n' W' C' A' g' B' around' start' first'
      have oStart' := (around'.mem_iff o).1 (by simp [List.mem_of_head? start'])
      have search' := freeBetween_of_firstFree around'.toOrbit start' oStart' first'
      refine ⟨HalfedgeId.pair_injective (Except.ok.inj (search'.symm.trans search)), ?_⟩
      exact (mem_of_follows_start around'.toOrbit start' apart atD).1
  · have faced : ∀ a ∈ W, ¬ s.mesh.Free a.pair := fun a mem free => room ⟨a, mem, free⟩
    rw [ends_bind_of_refused (query_of_error
      (freeBetween_of_faced around.toOrbit start oStart faced))]
    refine ⟨?_, rfl, rfl⟩
    rintro (follows | ⟨n', W', C', around', start', a, mem, free⟩)
    · exact done (atI.right_unique follows)
    · -- The search would have found the first free place of the other stretch.
      rcases exists_firstFree ⟨a, mem, free⟩ with ⟨A, g, B, first⟩
      have oStart' := (around'.mem_iff o).1 (by simp [List.mem_of_head? start'])
      have search := freeBetween_of_firstFree around'.toOrbit start' oStart' first
      rw [freeBetween_of_faced around.toOrbit start oStart faced] at search
      cases search

end Edit

end PlanarMesh
