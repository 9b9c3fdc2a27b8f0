import PlanarMesh.Edit.Euler
import PlanarMesh.Proofs.Splice.Merge

/-!
# Joining the corners of a face

Three half-edges that form a chain become a loop when each is joined to the next.  The three
corners lie at three different nodes, so what one join does to its ring is what it does before
or after the others (`Corner`), and whether a corner can be joined is a question to the mesh
before the first join (`joinSides_ends`).
-/

namespace PlanarMesh

namespace Mesh

/-- What joining `o` to `i` does to the ring of their node. -/
structure Corner (m : Mesh) (i o : HalfedgeId) (m' : Mesh) : Prop where
  ring_of_follows : m.Follows i o → ∀ n ring, m.origin? o = some n → m.Ring n ring →
    m'.Ring n ring
  ring : ∀ n W C A g B, m.Ring n ↑(W ++ i :: C) → W.head? = some o → m.FirstFree W A g B →
    m'.Ring n ↑(A ++ g :: (C ++ B ++ [i]))

namespace Corner

variable {m m₁ m' : Mesh} {i o j p : HalfedgeId}

theorem of_regrouped (moved : m.Regrouped i o m') : m.Corner i o m' where
  ring_of_follows follows n ring _ around := by rwa [moved.unmoved follows]
  ring := moved.ring

/-- A corner joined after a change at another node. -/
theorem after_regrouped (moved : m.Regrouped j p m₁) (apart : m.origin? p ≠ m.origin? o)
    (corner : m₁.Corner i o m') : m.Corner i o m' where
  ring_of_follows follows n ring start around := by
    have around₁ := moved.ring_of_ne n ring (start ▸ apart) around
    have mem : i ∈ ring := around.mem_of_follows_right ((around.mem_iff o).2 start) follows
    refine corner.ring_of_follows ?_ n ring ((moved.origin? o).trans start) around₁
    exact (around₁.follows_iff mem).2 ((around.follows_iff mem).1 follows)
  ring n W C A g B around first free := by
    have start := (around.mem_iff o).1 (by simp [List.mem_of_head? first])
    apply corner.ring n W C A g B (moved.ring_of_ne n _ (start ▸ apart) around) first
    exact ⟨free.split, fun a mem => by rw [moved.free]; exact free.faced a mem,
      (moved.free _).2 free.free⟩

/-- A corner joined before a change at another node. -/
theorem before_regrouped (corner : m.Corner i o m₁) (moved : m₁.Regrouped j p m')
    (apart : m₁.origin? p ≠ m.origin? o) : m.Corner i o m' where
  ring_of_follows follows n ring start around :=
    moved.ring_of_ne n ring (start ▸ apart) (corner.ring_of_follows follows n ring start around)
  ring n W C A g B around first free := by
    have start := (around.mem_iff o).1 (by simp [List.mem_of_head? first])
    exact moved.ring_of_ne n _ (start ▸ apart) (corner.ring n W C A g B around first free)

end Corner

/-- The three sides of a face to be lie between three different nodes. -/
structure Chain (m : Mesh) (h₁ h₂ h₃ : HalfedgeId) (a b c : NodeId) : Prop where
  side₁ : m.Leads h₁ a b
  side₂ : m.Leads h₂ b c
  side₃ : m.Leads h₃ c a
  ab : a ≠ b
  bc : b ≠ c
  ca : c ≠ a

theorem Chain.of_chained {m : Mesh} {h₁ h₂ h₃ : HalfedgeId} (sound : m.Sound)
    (live : m.containsHalfedge h₁ = true) (live₂ : m.containsHalfedge h₂ = true)
    (live₃ : m.containsHalfedge h₃ = true) (chained₁ : m.origin? h₁.pair = m.origin? h₂)
    (chained₂ : m.origin? h₂.pair = m.origin? h₃)
    (chained₃ : m.origin? h₃.pair = m.origin? h₁) : ∃ a b c, m.Chain h₁ h₂ h₃ a b c := by
  rcases containsHalfedge_iff_origin?.1 live with ⟨a, start₁⟩
  rcases containsHalfedge_iff_origin?.1 live₂ with ⟨b, start₂⟩
  rcases containsHalfedge_iff_origin?.1 live₃ with ⟨c, start₃⟩
  rw [start₂] at chained₁
  rw [start₃] at chained₂
  rw [start₁] at chained₃
  have side₁ : m.Leads h₁ a b := ⟨start₁, chained₁⟩
  have side₂ : m.Leads h₂ b c := ⟨start₂, chained₂⟩
  have side₃ : m.Leads h₃ c a := ⟨start₃, chained₃⟩
  exact ⟨a, b, c, side₁, side₂, side₃, sound.ends_ne_of_leads side₁, sound.ends_ne_of_leads side₂,
    sound.ends_ne_of_leads side₃⟩

namespace Chain

variable {m m' : Mesh} {h₁ h₂ h₃ : HalfedgeId} {a b c : NodeId} (chain : m.Chain h₁ h₂ h₃ a b c)

include chain

theorem rotate : m.Chain h₂ h₃ h₁ b c a :=
  ⟨chain.side₂, chain.side₃, chain.side₁, chain.bc, chain.ca, chain.ab⟩

theorem of_origin? (same : ∀ h, m'.origin? h = m.origin? h) : m'.Chain h₁ h₂ h₃ a b c :=
  ⟨chain.side₁.of_origin? same, chain.side₂.of_origin? same, chain.side₃.of_origin? same,
    chain.ab, chain.bc, chain.ca⟩

/-- Different sides of a chain are not the two sides of an edge. -/
theorem pair_ne : h₁.pair ≠ h₂ := by
  intro same
  have finish := chain.side₂.finish
  rw [← same, HalfedgeId.pair_pair, chain.side₁.start] at finish
  exact chain.ca (Option.some.inj finish).symm

end Chain

/-- A regrouping where there was room leaves a sound mesh. -/
theorem Regrouped.sound_of_joinable {m m' : Mesh} {i o : HalfedgeId}
    (regrouped : m.Regrouped i o m') (sound : m.Sound) (joinable : m.Joinable i o) :
    m'.Sound := by
  rcases joinable with follows | ⟨n, W, C, around, start, room⟩
  · rwa [regrouped.unmoved follows]
  · rcases exists_firstFree room with ⟨A, g, B, first⟩
    exact regrouped.sound sound ⟨_, regrouped.ring n W C A g B around start first⟩
      ((around.mem_iff o).1 (by simp [List.mem_of_head? start]))

/-- What follows at other nodes stays. -/
theorem Regrouped.follows_of_ne {m m' : Mesh} {i o g h : HalfedgeId}
    (regrouped : m.Regrouped i o m') (sound : m.Sound) (apart : m.origin? o ≠ m.origin? g)
    (follows : m.Follows g h) : m'.Follows g h := by
  rcases containsHalfedge_iff_origin?.1 follows.live_left with ⟨n, start⟩
  rcases sound.exists_ring n with ⟨ring, around⟩
  have mem := (around.mem_iff g).2 start
  have around' := regrouped.ring_of_ne n ring (start ▸ apart) around
  exact (around'.follows_iff mem).2 ((around.follows_iff mem).1 follows)

/-- `m'` is `m` with the three half-edges joined to a loop. -/
structure Joined (m : Mesh) (h₁ h₂ h₃ : HalfedgeId) (m' : Mesh) : Prop
    extends m.Rearranged m' where
  sound : m'.Sound
  next₁ : m'.next? h₁ = some h₂
  next₂ : m'.next? h₂ = some h₃
  next₃ : m'.next? h₃ = some h₁
  ring_of_ne : ∀ n ring, m.origin? h₁ ≠ some n → m.origin? h₂ ≠ some n → m.origin? h₃ ≠ some n →
    m.Ring n ring → m'.Ring n ring
  corner₁ : m.Corner h₁.pair h₂ m'
  corner₂ : m.Corner h₂.pair h₃ m'
  corner₃ : m.Corner h₃.pair h₁ m'

theorem joined_of_regrouped {m m₁ m₂ m₃ : Mesh} {h₁ h₂ h₃ : HalfedgeId} {a b c : NodeId}
    (chain : m.Chain h₁ h₂ h₃ a b c) (at₁ : m.Regrouped h₁.pair h₂ m₁) (sound₁ : m₁.Sound)
    (at₂ : m₁.Regrouped h₂.pair h₃ m₂) (sound₂ : m₂.Sound) (at₃ : m₂.Regrouped h₃.pair h₁ m₃)
    (sound₃ : m₃.Sound) : m.Joined h₁ h₂ h₃ m₃ := by
  have chain₁ := chain.of_origin? at₁.origin?
  have chain₂ := chain₁.of_origin? at₂.origin?
  have first : m₂.Follows h₁.pair h₂ := by
    refine at₂.follows_of_ne sound₁ ?_ at₁.follows
    rw [chain₁.side₃.start, chain₁.side₁.finish]
    simpa using chain.bc.symm
  have first' : m₃.Follows h₁.pair h₂ := by
    refine at₃.follows_of_ne sound₂ ?_ first
    rw [chain₂.side₁.start, chain₂.side₁.finish]
    simpa using chain.ab
  have second : m₃.Follows h₂.pair h₃ := by
    refine at₃.follows_of_ne sound₂ ?_ at₂.follows
    rw [chain₂.side₁.start, chain₂.side₂.finish]
    simpa using chain.ca.symm
  refine ⟨(at₁.toRearranged.trans at₂.toRearranged).trans at₃.toRearranged, sound₃, ?_, ?_, ?_,
    ?_, ?_, ?_, ?_⟩
  · simpa using first'.1
  · simpa using second.1
  · simpa using at₃.follows.1
  · intro n ring other₁ other₂ other₃ around
    refine at₃.ring_of_ne n ring ?_ (at₂.ring_of_ne n ring ?_ (at₁.ring_of_ne n ring other₂ around))
    · rwa [chain₂.side₁.start, ← chain.side₁.start]
    · rwa [chain₁.side₃.start, ← chain.side₃.start]
  · refine ((Corner.of_regrouped at₁).before_regrouped at₂ ?_).before_regrouped at₃ ?_
    · rw [chain₁.side₃.start, chain.side₂.start]
      simpa using chain.bc.symm
    · rw [chain₂.side₁.start, chain.side₂.start]
      simpa using chain.ab
  · refine ((Corner.of_regrouped at₂).after_regrouped at₁ ?_).before_regrouped at₃ ?_
    · rw [chain.side₂.start, chain.side₃.start]
      simpa using chain.bc
    · rw [chain₂.side₁.start, chain.side₃.start]
      simpa using chain.ca.symm
  · refine ((Corner.of_regrouped at₃).after_regrouped at₂ ?_).after_regrouped at₁ ?_
    · rw [chain₁.side₃.start, chain₁.side₁.start]
      simpa using chain.ca
    · rw [chain.side₂.start, chain.side₁.start]
      simpa using chain.ab.symm
end Mesh

namespace Edit

open Mesh

variable {s : Session}

theorem mergeCorner_ends {i o : HalfedgeId} {n : NodeId} (sound : s.mesh.Sound)
    (iStart : s.mesh.origin? i = some n) (oStart : s.mesh.origin? o = some n) (differ : i ≠ o)
    (iFree : s.mesh.Free i.pair) (oFree : s.mesh.Free o) :
    (mergeCorner i.pair o).Ends s
      (fun _ m => s.mesh.Joinable i o ∧ s.mesh.Regrouped i o m)
      (fun error m => ¬ s.mesh.Joinable i o ∧ m = s.mesh ∧ error = .addFace .nonManifold) := by
  apply (mergeAdjacent_ends sound iStart oStart differ iFree oFree).onRefusal
  rintro error t ⟨blocked, same, rfl⟩
  exact ⟨blocked, same, rfl⟩

/-- One corner of a chain is joined. -/
theorem mergeCorner_of_chain_ends {h₁ h₂ h₃ : HalfedgeId} {a b c : NodeId} (sound : s.mesh.Sound)
    (chain : s.mesh.Chain h₁ h₂ h₃ a b c) (free₁ : s.mesh.Free h₁) (free₂ : s.mesh.Free h₂) :
    (mergeCorner h₁ h₂).Ends s
      (fun _ m => s.mesh.Joinable h₁.pair h₂ ∧ s.mesh.Regrouped h₁.pair h₂ m ∧ m.Sound)
      (fun error m => ¬ s.mesh.Joinable h₁.pair h₂ ∧ m = s.mesh ∧
        error = .addFace .nonManifold) := by
  have ends := mergeCorner_ends sound chain.side₁.finish chain.side₂.start chain.pair_ne
    (by simpa using free₁) free₂
  rw [HalfedgeId.pair_pair] at ends
  exact ends.mono (fun _ m done => ⟨done.1, done.2, done.2.sound_of_joinable sound done.1⟩)
    fun _ _ => id

/-- Whether the corners of a chain can be joined is decided before the first of them is. -/
theorem joinSides_ends {h₁ h₂ h₃ : HalfedgeId} {a b c : NodeId} (sound : s.mesh.Sound)
    (chain : s.mesh.Chain h₁ h₂ h₃ a b c) (free₁ : s.mesh.Free h₁) (free₂ : s.mesh.Free h₂)
    (free₃ : s.mesh.Free h₃) {next : Edit FaceId} {returns : FaceId → Mesh → Prop}
    {refuses : MeshError → Mesh → Prop}
    (blocked : ∀ m, ¬ (s.mesh.Joinable h₁.pair h₂ ∧ s.mesh.Joinable h₂.pair h₃ ∧
      s.mesh.Joinable h₃.pair h₁) → m.Sound → s.mesh.Rearranged m →
      refuses (.addFace .nonManifold) m)
    (continues : ∀ t, s.mesh.Joinable h₁.pair h₂ → s.mesh.Joinable h₂.pair h₃ →
      s.mesh.Joinable h₃.pair h₁ → s.mesh.Joined h₁ h₂ h₃ t.mesh → next.Ends t returns refuses) :
    (do
      mergeCorner h₁ h₂
      mergeCorner h₂ h₃
      mergeCorner h₃ h₁
      next).Ends s returns refuses := by
  apply (mergeCorner_of_chain_ends sound chain free₁ free₂).bind
  rotate_left
  · rintro error m ⟨closed, rfl, rfl⟩
    exact blocked _ (fun open' => closed open'.1) sound (.refl _)
  rintro - t₁ ⟨joinable₁, at₁, sound₁⟩
  have chain₁ := chain.of_origin? at₁.origin?
  have transfer₁ : t₁.mesh.Joinable h₂.pair h₃ ↔ s.mesh.Joinable h₂.pair h₃ :=
    at₁.joinable_iff sound chain.side₂.finish (by simpa [chain.side₂.start] using chain.bc)
  refine (mergeCorner_of_chain_ends sound₁ chain₁.rotate ((at₁.free _).2 free₂)
    ((at₁.free _).2 free₃)).bind ?_ ?_
  rotate_left
  · rintro error m ⟨closed, rfl, rfl⟩
    exact blocked _ (fun open' => closed (transfer₁.2 open'.2.1)) sound₁ at₁.toRearranged
  rintro - t₂ ⟨joinable₂, at₂, sound₂⟩
  have chain₂ := chain₁.of_origin? at₂.origin?
  have both := at₁.toRearranged.trans at₂.toRearranged
  have transfer₂ : t₂.mesh.Joinable h₃.pair h₁ ↔ s.mesh.Joinable h₃.pair h₁ :=
    (at₂.joinable_iff sound₁ chain₁.side₃.finish
      (by simpa [chain₁.side₃.start] using chain.ca)).trans
      (at₁.joinable_iff sound chain.side₃.finish (by simpa [chain.side₂.start] using chain.ab.symm))
  refine (mergeCorner_of_chain_ends sound₂ chain₂.rotate.rotate ((both.free _).2 free₃)
    ((both.free _).2 free₁)).bind ?_ ?_
  rotate_left
  · rintro error m ⟨closed, rfl, rfl⟩
    exact blocked _ (fun open' => closed (transfer₂.2 open'.2.2)) sound₂ both
  rintro - t₃ ⟨joinable₃, at₃, sound₃⟩
  exact continues t₃ joinable₁ (transfer₁.1 joinable₂) (transfer₂.1 joinable₃)
    (joined_of_regrouped chain at₁ sound₁ at₂ sound₂ at₃ sound₃)
end Edit

end PlanarMesh
