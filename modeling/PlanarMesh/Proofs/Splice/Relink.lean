import PlanarMesh.Proofs.Validity

/-!
# Relinking rings

What the links made by a splice do to rings, as cycles of half-edges:

- `spliceIn` puts a half-edge between two neighbours,
- `spliceOut` takes one out,
- `regroup` cuts a ring into three stretches and joins them in the other order.

Each of them moves pointers at a few places only and keeps what follows at all others
(`Keeps`), so that it keeps every orbit that avoids these places.
-/

namespace PlanarMesh

namespace Mesh

/-- What follows at half-edges that are not moved stays. -/
def Keeps (m m' : Mesh) (moved : HalfedgeId → Prop) : Prop :=
  ∀ g h, ¬ moved g → m.Follows g h → m'.Follows g h

variable {m m' : Mesh} {moved : HalfedgeId → Prop}

theorem Keeps.orbit (keeps : m.Keeps m' moved) {ring : Cycle HalfedgeId}
    (orbit : m.Orbit ring) (still : ∀ h ∈ ring, ¬ moved h) : m'.Orbit ring :=
  orbit.of_keeps fun g h mem => keeps g h (still g mem)

/-- Along a stretch without repetition of which at most the last member is moved, everything
is kept. -/
theorem Keeps.isChain (keeps : m.Keeps m' moved) {l : List HalfedgeId}
    (chain : l.IsChain m.Follows) (still : ∀ h ∈ l.dropLast, ¬ moved h) :
    l.IsChain m'.Follows :=
  Cycle.isChain_of_agree keeps still chain

/-- Triangles stay where the pointers of half-edges with a face are kept. -/
theorem Keeps.triangle (keeps : m.Keeps m' fun g => m.Free g.pair) (sound : m.Sound)
    {f : FaceId} {t : Corners HalfedgeId} (triangle : m.Triangle f t)
    (reports : ∀ h, m'.faceOf? h = some (some f) ↔ m.faceOf? h = some (some f)) :
    m'.Triangle f t := by
  have kept : ∀ h g, m.faceOf? h = some (some f) → m.next? h = some g →
      m'.next? h = some g := by
    intro h g faced next
    have follows := sound.follows_of_next? next
    simpa using (keeps h.pair g (by simp [Free, faced]) follows).1
  exact ⟨kept _ _ triangle.faceOf?_a triangle.next_a, kept _ _ triangle.faceOf?_b triangle.next_b,
    kept _ _ triangle.faceOf?_c triangle.next_c,
    fun h => (reports h).trans (triangle.reports_iff h)⟩

/-! ## Lists without repetition -/

theorem ne_of_mem_dropLast {α : Type} {l : List α} {a b : α} (nodup : l.Nodup)
    (mem : a ∈ l.dropLast) (last : l.getLast? = some b) : a ≠ b := by
  rcases List.getLast?_eq_some_iff.1 last with ⟨front, rfl⟩
  rw [List.dropLast_concat] at mem
  rintro rfl
  simp [List.nodup_append] at nodup
  exact nodup.2 a mem rfl

/-- Along a list without repetition of which nothing but the last member is moved, everything is
kept. -/
theorem Keeps.isChain_of_last (keeps : m.Keeps m' moved) {l : List HalfedgeId} {a : HalfedgeId}
    (chain : l.IsChain m.Follows) (nodup : l.Nodup) (last : l.getLast? = some a)
    (only : ∀ x ∈ l, moved x → x = a) : l.IsChain m'.Follows := by
  apply keeps.isChain chain
  intro x mem was
  exact ne_of_mem_dropLast nodup mem last (only x (List.dropLast_subset l mem) was)

/-! ## Putting in -/

/-- The mesh in which `h` comes between `u` and `v`. -/
def spliceIn (m : Mesh) (u h v : HalfedgeId) : Mesh :=
  (m.link u.pair h).link h.pair v

/-- The mesh in which `v` comes after `u`. -/
def spliceOut (m : Mesh) (u v : HalfedgeId) : Mesh :=
  m.link u.pair v

/-- The mesh in which `o` comes after `i`, `b` after `g` and `h` after `d`. -/
def regroup (m : Mesh) (i o g b d h : HalfedgeId) : Mesh :=
  ((m.link i.pair o).link g.pair b).link d.pair h

section SpliceIn

variable {u h v : HalfedgeId}

theorem keeps_spliceIn (before : m.Follows u v) (alone : m.Follows h h) :
    m.Keeps (m.spliceIn u h v) fun g => g = u ∨ g = h := by
  intro g g' still follows
  have notU : g ≠ u := fun same => still (.inl same)
  have notH : g ≠ h := fun same => still (.inr same)
  refine (follows.link notU ?_).link notH ?_
  · rintro rfl
    exact notH (follows.left_unique alone)
  · rintro rfl
    exact notU (follows.left_unique before)

theorem follows_spliceIn (before : m.Follows u v) (alone : m.Follows h h) (new : h ≠ u) :
    (m.spliceIn u h v).Follows u h ∧ (m.spliceIn u h v).Follows h v := by
  have notV : h ≠ v := fun same => new (alone.left_unique (same ▸ before))
  constructor
  · exact (follows_link before.live_left alone.live_left).link new.symm notV
  · exact follows_link (by simpa using alone.live_left) (by simpa using before.live_right)

/-- A half-edge that stands alone can be put at the end of an orbit, however it is written. -/
theorem orbit_spliceIn {l : List HalfedgeId} (orbit : m.Orbit ↑l) (alone : m.Follows h h)
    (new : h ∉ l) (last : l.getLast? = some u) (first : l.head? = some v) :
    (m.spliceIn u h v).Orbit ↑(l ++ [h]) := by
  have nodup : l.Nodup := orbit.nodup
  have before : m.Follows u v := orbit.follows (Cycle.adjacent_of_ends last first)
  obtain ⟨entering, leaving⟩ := follows_spliceIn before alone
    fun same => new (same ▸ List.mem_of_getLast? last)
  have kept : l.IsChain (m.spliceIn u h v).Follows := by
    have chain := (Cycle.chain_coe_iff.1 orbit.chain).1
    apply (keeps_spliceIn before alone).isChain_of_last chain nodup last
    rintro g mem (same | rfl)
    · exact same
    · exact absurd mem new
  refine ⟨List.nodup_append.2 ⟨nodup, List.nodup_singleton h, ?_⟩, Cycle.chain_coe_iff.2 ⟨?_, ?_⟩⟩
  · rintro a mem b single rfl
    exact new (List.mem_singleton.1 single ▸ mem)
  · refine List.isChain_append.2 ⟨kept, List.isChain_singleton h, fun a isLast b isFirst => ?_⟩
    cases Option.some.inj (last.symm.trans isLast)
    cases Option.some.inj (show some h = some b from isFirst)
    exact entering
  · intro a isLast b isFirst
    rw [List.getLast?_concat] at isLast
    rw [List.head?_append, first] at isFirst
    cases Option.some.inj isLast
    cases Option.some.inj isFirst
    exact leaving

end SpliceIn

/-! ## Taking out -/

section SpliceOut

variable {u h v : HalfedgeId}

theorem keeps_spliceOut (after : m.Follows h v) :
    m.Keeps (m.spliceOut u v) fun g => g = u ∨ g = h := by
  intro g g' still follows
  apply follows.link (fun same => still (.inl same))
  rintro rfl
  exact still (.inr (follows.left_unique after))

/-- Without its last member, an orbit is an orbit again. -/
theorem orbit_spliceOut {l : List HalfedgeId} (orbit : m.Orbit ↑(l ++ [h]))
    (last : l.getLast? = some u) (first : l.head? = some v) : (m.spliceOut u v).Orbit ↑l := by
  have nodup : l.Nodup := (List.nodup_append.1 orbit.nodup).1
  have apart : ∀ g ∈ l, g ≠ h := fun g mem same =>
    (List.nodup_append.1 orbit.nodup).2.2 g mem h (List.mem_singleton_self h) same
  have before : m.Follows u h :=
    orbit.follows (Cycle.adjacent_append last rfl)
  have after : m.Follows h v :=
    orbit.follows (Cycle.adjacent_of_ends (by simp) (by simp [List.head?_append, first]))
  have chain : l.IsChain m.Follows :=
    (List.isChain_append.1 (Cycle.chain_coe_iff.1 orbit.chain).1).1
  have kept : l.IsChain (m.spliceOut u v).Follows := by
    apply (keeps_spliceOut after).isChain_of_last chain nodup last
    rintro g mem (same | same)
    · exact same
    · exact absurd same (apart g mem)
  refine ⟨nodup, Cycle.chain_coe_iff.2 ⟨kept, ?_⟩⟩
  intro a isLast b isFirst
  cases Option.some.inj (last.symm.trans isLast)
  cases Option.some.inj (first.symm.trans isFirst)
  exact follows_link before.live_left after.live_right

end SpliceOut

/-! ## Regrouping -/

section Regroup

variable {i o g b d h : HalfedgeId}

theorem keeps_regroup (atI : m.Follows i b) (atG : m.Follows g h) (atD : m.Follows d o) :
    m.Keeps (m.regroup i o g b d h) fun x => x = i ∨ x = g ∨ x = d := by
  intro x y still follows
  have notI : x ≠ i := fun same => still (.inl same)
  have notG : x ≠ g := fun same => still (.inr (.inl same))
  have notD : x ≠ d := fun same => still (.inr (.inr same))
  refine ((follows.link notI ?_).link notG ?_).link notD ?_
  · rintro rfl
    exact notD (follows.left_unique atD)
  · rintro rfl
    exact notI (follows.left_unique atI)
  · rintro rfl
    exact notG (follows.left_unique atG)

theorem follows_regroup (atI : m.Follows i b) (atG : m.Follows g h) (atD : m.Follows d o)
    (ig : i ≠ g) (gd : g ≠ d) (di : d ≠ i) :
    (m.regroup i o g b d h).Follows i o ∧ (m.regroup i o g b d h).Follows g b ∧
      (m.regroup i o g b d h).Follows d h := by
  have ob : o ≠ b := fun same => di (atD.left_unique (same ▸ atI))
  have bh : b ≠ h := fun same => ig (atI.left_unique (same ▸ atG))
  have ho : h ≠ o := fun same => gd (atG.left_unique (same ▸ atD))
  refine ⟨?_, ?_, ?_⟩
  · exact ((follows_link atI.live_left atD.live_right).link ig ob).link di.symm ho.symm
  · exact (follows_link (by simpa using atG.live_left) (by simpa using atI.live_right)).link gd bh
  · exact follows_link (by simpa using atD.live_left) (by simpa using atG.live_right)

/-- Three stretches of an orbit, joined in the other order. -/
theorem orbit_regroup {A B C : List HalfedgeId} (orbit : m.Orbit ↑(A ++ B ++ C))
    (firstA : A.head? = some o) (lastA : A.getLast? = some g)
    (firstB : B.head? = some h) (lastB : B.getLast? = some i)
    (firstC : C.head? = some b) (lastC : C.getLast? = some d) :
    (m.regroup i o g b d h).Orbit ↑(A ++ C ++ B) := by
  have nodup : (A ++ B ++ C).Nodup := orbit.nodup
  rcases List.nodup_append.1 nodup with ⟨nodupAB, nodupC, apartC⟩
  rcases List.nodup_append.1 nodupAB with ⟨nodupA, nodupB, apartAB⟩
  have gMem : g ∈ A := List.mem_of_getLast? lastA
  have iMem : i ∈ B := List.mem_of_getLast? lastB
  have dMem : d ∈ C := List.mem_of_getLast? lastC
  have ig : i ≠ g := fun same => apartAB g gMem i iMem same.symm
  have gd : g ≠ d := apartC g (by simp [gMem]) d dMem
  have di : d ≠ i := fun same => apartC i (by simp [iMem]) d dMem same.symm
  rcases Cycle.chain_coe_iff.1 orbit.chain with ⟨chain, closes⟩
  rcases List.isChain_append.1 chain with ⟨chainAB, chainC, joinC⟩
  rcases List.isChain_append.1 chainAB with ⟨chainA, chainB, joinAB⟩
  have atG : m.Follows g h := joinAB g lastA h firstB
  have atI : m.Follows i b := joinC i (by simp [List.getLast?_append, lastB]) b firstC
  have atD : m.Follows d o :=
    closes d (by simp [List.getLast?_append, lastC]) o (by simp [List.head?_append, firstA])
  have keeps := keeps_regroup atI atG atD
  rcases follows_regroup atI atG atD ig gd di with ⟨nowI, nowG, nowD⟩
  have keptA : A.IsChain (m.regroup i o g b d h).Follows := by
    apply keeps.isChain_of_last chainA nodupA lastA
    rintro x mem (rfl | same | rfl)
    · exact absurd rfl (apartAB x mem x iMem)
    · exact same
    · exact absurd rfl (apartC x (by simp [mem]) x dMem)
  have keptB : B.IsChain (m.regroup i o g b d h).Follows := by
    apply keeps.isChain_of_last chainB nodupB lastB
    rintro x mem (same | rfl | rfl)
    · exact same
    · exact absurd rfl (apartAB x gMem x mem)
    · exact absurd rfl (apartC x (by simp [mem]) x dMem)
  have keptC : C.IsChain (m.regroup i o g b d h).Follows := by
    apply keeps.isChain_of_last chainC nodupC lastC
    rintro x mem (rfl | rfl | same)
    · exact absurd rfl (apartC x (by simp [iMem]) x mem)
    · exact absurd rfl (apartC x (by simp [gMem]) x mem)
    · exact same
  refine ⟨?_, Cycle.chain_coe_iff.2 ⟨?_, ?_⟩⟩
  · exact (List.Perm.nodup_iff (by
      rw [List.append_assoc, List.append_assoc]
      exact List.perm_append_comm.append_left A)).1 nodup
  · refine List.isChain_append.2 ⟨List.isChain_append.2 ⟨keptA, keptC, ?_⟩, keptB, ?_⟩
    · intro x isLast y isFirst
      cases Option.some.inj (lastA.symm.trans isLast)
      cases Option.some.inj (firstC.symm.trans isFirst)
      exact nowG
    · intro x isLast y isFirst
      rw [List.getLast?_append, lastC] at isLast
      cases Option.some.inj isLast
      cases Option.some.inj (firstB.symm.trans isFirst)
      exact nowD
  · intro x isLast y isFirst
    rw [List.getLast?_append, lastB] at isLast
    rw [List.head?_append, List.head?_append, firstA] at isFirst
    cases Option.some.inj isLast
    cases Option.some.inj isFirst
    exact nowI

end Regroup

end Mesh

end PlanarMesh
