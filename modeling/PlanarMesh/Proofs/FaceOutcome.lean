import PlanarMesh.Proofs.Atomicity

/-!
# When a face can be added

A face is refused for the first of three reasons: one of its sides has a face already, some side
does not start where the one before it ends, or some corner is `Blocked`.  Otherwise it is added
(`addFace_of_operations`).

A corner is blocked when its two sides do not follow each other yet and the half-edges that arrive
between them all border faces.  Between them are those that a walk around the node passes on its
way from one side to the other (`PassesBy`); on a ring read from the leaving side on, they are the
twins of what stands before the arriving side (`passesBy_iff_of_ring`).  So the question is put to
the mesh before the call, although the three corners are joined one after the other.
-/

namespace PlanarMesh

namespace Mesh

/-- From the twin of `out` on, the walk over the half-edges that arrive at the node passes a
half-edge before it reaches `incoming`. -/
inductive PassesBy (m : Mesh) (incoming out : HalfedgeId) : HalfedgeId → Prop
  | start : out.pair ≠ incoming → PassesBy m incoming out out.pair
  | step {g h : HalfedgeId} : PassesBy m incoming out g → m.next g = .ok h → h.pair ≠ incoming →
    PassesBy m incoming out h.pair

/-- The half-edges do not follow each other, and all that arrive between them have a face. -/
structure Blocked (m : Mesh) (incoming out : HalfedgeId) : Prop where
  next_ne : m.next incoming ≠ .ok out
  faced : ∀ h, m.PassesBy incoming out h → ∃ f, m.faceOf h = .ok (some f)

variable {m : Mesh}

/-! ## The walk and the ring -/

/-- Where the walk has passed a half-edge, it goes on along the ring. -/
theorem PassesBy.of_isChain {incoming out y : HalfedgeId} {l : List HalfedgeId}
    (passes : m.PassesBy incoming out y.pair) (chain : (y :: l).IsChain m.Follows)
    (away : ∀ x ∈ l, x.pair ≠ incoming) : ∀ x ∈ l, m.PassesBy incoming out x.pair := by
  induction l generalizing y with
  | nil => simp
  | cons x l inductionHypothesis =>
    rcases List.isChain_cons_cons.1 chain with ⟨follows, chain⟩
    rcases List.forall_mem_cons.1 away with ⟨here, away⟩
    have next := passes.step (next_eq_ok_iff.2 follows.1) here
    exact List.forall_mem_cons.2 ⟨next, inductionHypothesis next chain away⟩

/-- Half-edges with nothing between them but the corner of a face are blocked. -/
theorem blocked_of_next_pair {incoming out : HalfedgeId} {f : FaceId}
    (apart : m.next incoming ≠ .ok out) (faced : m.faceOf out.pair = .ok (some f))
    (arrives : m.next out.pair = .ok incoming.pair) : m.Blocked incoming out := by
  have passed {h : HalfedgeId} (passes : m.PassesBy incoming out h) : h = out.pair := by
    induction passes with
    | start _ => rfl
    | @step g h _ next further same =>
      rw [same, arrives] at next
      cases next
      exact absurd incoming.pair_pair further
  constructor
  · exact apart
  · intro h passes
    rw [passed passes]
    exact ⟨f, faced⟩

section Walk

variable {i o : HalfedgeId} {W C : List HalfedgeId}

/-- The walk passes the twins of what stands before `i`, and nothing else. -/
theorem passesBy_iff_of_ring (orbit : m.Orbit ↑(W ++ i :: C)) (start : W.head? = some o)
    (h : HalfedgeId) : m.PassesBy i.pair o h ↔ h.pair ∈ W := by
  rcases List.isChain_append.1 (Cycle.chain_coe_iff.1 orbit.chain).1 with ⟨chain, -, joined⟩
  have apart : i ∉ W := fun mem =>
    (List.nodup_append.1 orbit.nodup).2.2 i mem i List.mem_cons_self rfl
  have away : ∀ x ∈ W, x.pair ≠ i.pair := by
    rintro x mem same
    exact apart (HalfedgeId.pair_injective same ▸ mem)
  constructor
  · intro passes
    induction passes with
    | start _ => simpa using List.mem_of_head? start
    | @step g h _ next further mem =>
      rw [HalfedgeId.pair_pair]
      rcases List.append_of_mem mem with ⟨A, B, rfl⟩
      rcases List.isChain_append.1 chain with ⟨-, chain, -⟩
      -- What comes next is the next member of the stretch, or `i` at its end.
      have follows {x : HalfedgeId} (follows : m.Follows g.pair x) : x = h := by
        have next' := follows.1
        rw [HalfedgeId.pair_pair] at next'
        exact Option.some.inj (next'.symm.trans (next_eq_ok_iff.1 next))
      cases B with
      | nil =>
        have arrives := follows (joined g.pair (by simp) i rfl)
        exact absurd (congrArg HalfedgeId.pair arrives.symm) further
      | cons x B =>
        rw [← follows (List.isChain_cons_cons.1 chain).1]
        simp
  · intro mem
    rcases List.head?_eq_some_iff.1 start with ⟨l, rfl⟩
    rcases List.forall_mem_cons.1 away with ⟨here, away⟩
    have first : m.PassesBy i.pair o o.pair := .start here
    have reached : ∀ x ∈ o :: l, m.PassesBy i.pair o x.pair :=
      List.forall_mem_cons.2 ⟨first, first.of_isChain chain away⟩
    simpa using reached h.pair mem

/-- On a sound mesh, a corner is blocked if and only if its sides cannot be joined. -/
theorem Sound.blocked_iff (sound : m.Sound) {n : NodeId} (iStart : m.origin? i = some n)
    (oStart : m.origin? o = some n) (differ : i ≠ o) :
    m.Blocked i.pair o ↔ ¬ m.Joinable i o := by
  have next_iff : m.next i.pair = .ok o ↔ m.Follows i o := by
    rw [next_eq_ok_iff]
    constructor
    · intro next
      simpa using sound.follows_of_next? next
    · exact fun follows => follows.1
  constructor
  · rintro blocked (follows | ⟨n', W, C, around, start, a, mem, free⟩)
    · exact blocked.next_ne (next_iff.2 follows)
    · have passes := (passesBy_iff_of_ring around.toOrbit start a.pair).2 (by simpa using mem)
      rcases blocked.faced a.pair passes with ⟨f, reports⟩
      cases (faceOf_eq_ok_iff.1 reports).symm.trans free
  · intro closed
    rcases exists_ring_between sound iStart oStart differ with ⟨W, C, around, start⟩
    constructor
    · exact fun next => closed (.inl (next_iff.1 next))
    · intro h passes
      have mem := (passesBy_iff_of_ring around.toOrbit start h).1 passes
      have live : m.containsHalfedge h.pair = true := around.live (by simp [mem])
      rw [containsHalfedge_pair] at live
      rcases containsHalfedge_iff_faceOf?.1 live with ⟨face, reports⟩
      cases face with
      | some f => exact ⟨f, faceOf_eq_ok_iff.2 reports⟩
      | none =>
        have free : m.Free h.pair.pair := by rwa [HalfedgeId.pair_pair]
        exact absurd (.inr ⟨n, W, C, around, start, h.pair, mem, free⟩) closed

end Walk

/-! ## Refusals -/

section Refusals

variable {h₁ h₂ h₃ : HalfedgeId}

/-- Some side has a face already. -/
def SideFaced (m : Mesh) (h₁ h₂ h₃ : HalfedgeId) : Prop :=
  ∃ h ∈ [h₁, h₂, h₃], ∃ f, m.faceOf h = .ok (some f)

/-- Some side does not start where the one before it ends. -/
def ChainBroken (m : Mesh) (h₁ h₂ h₃ : HalfedgeId) : Prop :=
  m.target h₁ ≠ m.origin h₂ ∨ m.target h₂ ≠ m.origin h₃ ∨ m.target h₃ ≠ m.origin h₁

/-- Some corner is blocked. -/
def CornerBlocked (m : Mesh) (h₁ h₂ h₃ : HalfedgeId) : Prop :=
  m.Blocked h₁ h₂ ∨ m.Blocked h₂ h₃ ∨ m.Blocked h₃ h₁

theorem target_eq_origin_iff {g h : HalfedgeId} (live : m.containsHalfedge g = true) :
    m.target g = m.origin h ↔ m.origin? g.pair = m.origin? h := by
  rw [← containsHalfedge_pair] at live
  rcases containsHalfedge_iff_origin?.1 live with ⟨n, finish⟩
  rw [target_eq_ok_iff.2 finish, finish, eq_comm, origin_eq_ok_iff, eq_comm]

theorem not_sideFaced_iff (live : ∀ h ∈ [h₁, h₂, h₃], m.containsHalfedge h = true) :
    ¬ m.SideFaced h₁ h₂ h₃ ↔ m.Free h₁ ∧ m.Free h₂ ∧ m.Free h₃ := by
  have free_iff : ∀ h ∈ [h₁, h₂, h₃], (¬ ∃ f, m.faceOf h = .ok (some f)) ↔ m.Free h := by
    intro h mem
    rcases containsHalfedge_iff_faceOf?.1 (live h mem) with ⟨face, reports⟩
    cases face <;> simp [faceOf_eq_ok_iff, Free, reports]
  have all : (∀ h ∈ [h₁, h₂, h₃], ¬ ∃ f, m.faceOf h = .ok (some f)) ↔
      ∀ h ∈ [h₁, h₂, h₃], m.Free h := forall₂_congr free_iff
  simpa [SideFaced] using all

theorem not_chainBroken_iff (live : ∀ h ∈ [h₁, h₂, h₃], m.containsHalfedge h = true) :
    ¬ m.ChainBroken h₁ h₂ h₃ ↔ m.origin? h₁.pair = m.origin? h₂ ∧
      m.origin? h₂.pair = m.origin? h₃ ∧ m.origin? h₃.pair = m.origin? h₁ := by
  simp only [List.forall_mem_cons] at live
  rw [ChainBroken, not_or, not_or, not_not, not_not, not_not, target_eq_origin_iff live.1,
    target_eq_origin_iff live.2.1, target_eq_origin_iff live.2.2.1]

theorem Sound.not_cornerBlocked_iff (sound : m.Sound) {a b c : NodeId}
    (chain : m.Chain h₁ h₂ h₃ a b c) : ¬ m.CornerBlocked h₁ h₂ h₃ ↔
      m.Joinable h₁.pair h₂ ∧ m.Joinable h₂.pair h₃ ∧ m.Joinable h₃.pair h₁ := by
  have corner {g h k : HalfedgeId} {a b c : NodeId} (chain : m.Chain g h k a b c) :
      m.Blocked g h ↔ ¬ m.Joinable g.pair h := by
    have same := sound.blocked_iff chain.side₁.finish chain.side₂.start chain.pair_ne
    rwa [HalfedgeId.pair_pair] at same
  rw [CornerBlocked, corner chain, corner chain.rotate, corner chain.rotate.rotate, not_or, not_or,
    not_not, not_not, not_not]

/-- The error says which of the three reasons comes first. -/
inductive Refusal (m : Mesh) (h₁ h₂ h₃ : HalfedgeId) : AddFaceReason → Prop
  | notFree : m.SideFaced h₁ h₂ h₃ → Refusal m h₁ h₂ h₃ .notFree
  | notAChain : ¬ m.SideFaced h₁ h₂ h₃ → m.ChainBroken h₁ h₂ h₃ → Refusal m h₁ h₂ h₃ .notAChain
  | nonManifold : ¬ m.SideFaced h₁ h₂ h₃ → ¬ m.ChainBroken h₁ h₂ h₃ → m.CornerBlocked h₁ h₂ h₃ →
    Refusal m h₁ h₂ h₃ .nonManifold

/-- A misfit of live sides is one of the three. -/
theorem Misfit.refusal {error : MeshError} (misfit : m.Misfit h₁ h₂ h₃ error) (sound : m.Sound)
    (live : ∀ h ∈ [h₁, h₂, h₃], m.containsHalfedge h = true) :
    ∃ reason, error = .addFace reason ∧ m.Refusal h₁ h₂ h₃ reason := by
  cases misfit with
  | @dead h mem missing => cases (live h mem).symm.trans missing
  | @faced h f mem reports => exact ⟨_, rfl, .notFree ⟨h, mem, f, faceOf_eq_ok_iff.2 reports⟩⟩
  | unchained free₁ free₂ free₃ broken =>
    have unfaced := (not_sideFaced_iff live).2 ⟨free₁, free₂, free₃⟩
    exact ⟨_, rfl, .notAChain unfaced (not_not.1 (mt (not_chainBroken_iff live).1 broken))⟩
  | blocked free₁ free₂ free₃ chain closed =>
    have unfaced := (not_sideFaced_iff live).2 ⟨free₁, free₂, free₃⟩
    have unbroken := (not_chainBroken_iff live).2 ⟨chain.side₁.finish.trans chain.side₂.start.symm,
      chain.side₂.finish.trans chain.side₃.start.symm,
      chain.side₃.finish.trans chain.side₁.start.symm⟩
    exact ⟨_, rfl, .nonManifold unfaced unbroken
      (not_not.1 (mt (sound.not_cornerBlocked_iff chain).1 closed))⟩

/-- None of the reasons applies to sides that fit. -/
theorem Fits.not_refusal (fits : m.Fits h₁ h₂ h₃) (sound : m.Sound)
    (live : ∀ h ∈ [h₁, h₂, h₃], m.containsHalfedge h = true) (reason : AddFaceReason) :
    ¬ m.Refusal h₁ h₂ h₃ reason := by
  have unfaced := (not_sideFaced_iff live).2 ⟨fits.free₁, fits.free₂, fits.free₃⟩
  have unbroken := (not_chainBroken_iff live).2 ⟨fits.chained₁, fits.chained₂, fits.chained₃⟩
  intro refusal
  cases refusal with
  | notFree faced => exact unfaced faced
  | notAChain _ broken => exact unbroken broken
  | nonManifold _ _ blocked =>
    simp only [List.forall_mem_cons] at live
    obtain ⟨a, b, c, chain⟩ := Chain.of_chained sound live.1 live.2.1 live.2.2.1 fits.chained₁
      fits.chained₂ fits.chained₃
    exact (sound.not_cornerBlocked_iff chain).2 ⟨fits.joinable₁, fits.joinable₂, fits.joinable₃⟩
      blocked

/-! ## The new face -/

/-- `m'` is `m` with the new face `f` on the given sides, as readers see it. -/
structure GainsFace (m : Mesh) (h₁ h₂ h₃ : HalfedgeId) (f : FaceId) (m' : Mesh) : Prop where
  fresh : m.containsFace f = false
  record : m'.face f = .ok ⟨h₁⟩
  next₁ : m'.next h₁ = .ok h₂
  next₂ : m'.next h₂ = .ok h₃
  next₃ : m'.next h₃ = .ok h₁
  faceOf : ∀ h, m'.faceOf h = if h ∈ [h₁, h₂, h₃] then .ok (some f) else m.faceOf h
  next_of_faced : ∀ h g, m.faceOf h = .ok (some g) → m'.next h = m.next h
  prev_of_faced : ∀ h g, m.faceOf h = .ok (some g) → m'.prev h = m.prev h
  outgoing : ∀ n h, (∃ l, m'.outgoing n = .ok l ∧ h ∈ l) ↔ ∃ l, m.outgoing n = .ok l ∧ h ∈ l
  checks : m'.checkTopology {} = .ok ()

theorem AddedFace.gainsFace {m' : Mesh} {f : FaceId} (added : m.AddedFace h₁ h₂ h₃ f m')
    (sound : m.Sound) : m.GainsFace h₁ h₂ h₃ f m' where
  fresh := by
    rw [added.key]
    exact m.faces.contains_nextKey
  record := by
    rw [face_eq_ok_iff, added.face?, if_pos rfl]
  next₁ := next_eq_ok_iff.2 added.triangle.next_a
  next₂ := next_eq_ok_iff.2 added.triangle.next_b
  next₃ := next_eq_ok_iff.2 added.triangle.next_c
  faceOf h := by
    rw [faceOf_eq_orInvalid, faceOf_eq_orInvalid, added.faceOf?]
    simp only [List.mem_cons, List.not_mem_nil, or_false]
    split <;> rfl
  next_of_faced h g reports := by
    rw [next_eq_orInvalid, next_eq_orInvalid,
      added.keeps_faced.next?_of_faced sound (faceOf_eq_ok_iff.1 reports)]
  prev_of_faced h g reports := by
    rw [prev_eq_orInvalid, prev_eq_orInvalid,
      added.keeps_faced.prev?_of_faced sound (faceOf_eq_ok_iff.1 reports)]
  outgoing n h := by rw [added.sound.mem_outgoing_iff, sound.mem_outgoing_iff, added.origin?]
  checks := added.sound.checkInvariants

/-- A face is added on sides that fit, and refused on others. -/
theorem Sound.addFace_cases (sound : m.Sound) (h₁ h₂ h₃ : HalfedgeId) :
    (∃ error m', (Operation.addFace h₁ h₂ h₃).outcome m = (.error (.refused error), m') ∧
        m.Misfit h₁ h₂ h₃ error) ∨
      ∃ f m', (Operation.addFace h₁ h₂ h₃).outcome m = (.ok (.face f), m') ∧
        m.Fits h₁ h₂ h₃ ∧ m.AddedFace h₁ h₂ h₃ f m' := by
  have ends : (Operation.addFace h₁ h₂ h₃).edit.Ends (Session.on m)
      (fun reply m' => ∃ f, reply = .face f ∧ m.Fits h₁ h₂ h₃ ∧ m.AddedFace h₁ h₂ h₃ f m')
      (fun error _ => m.Misfit h₁ h₂ h₃ error) := by
    apply (Edit.addFace_ends (s := Session.on m) sound).bind
    · rintro f t ⟨fits, added⟩
      exact ⟨f, rfl, fits, added⟩
    · exact fun _ _ refused => refused.1
  rcases Operation.outcome_of_ends ends with
    ⟨_, m', ended, f, rfl, fits, added⟩ | ⟨error, m', ended, misfit⟩
  · exact .inr ⟨f, m', ended, fits, added⟩
  · exact .inl ⟨error, m', ended, misfit⟩

/-- What comes of adding a face on live sides. -/
theorem outcome_addFace (sound : m.Sound)
    (live : ∀ h ∈ [h₁, h₂, h₃], m.containsHalfedge h = true) :
    (∃ reason m', (Operation.addFace h₁ h₂ h₃).outcome m =
        (.error (.refused (.addFace reason)), m') ∧ m.Refusal h₁ h₂ h₃ reason) ∨
      ∃ f m', (Operation.addFace h₁ h₂ h₃).outcome m = (.ok (.face f), m') ∧
        (∀ reason, ¬ m.Refusal h₁ h₂ h₃ reason) ∧ m.GainsFace h₁ h₂ h₃ f m' := by
  rcases sound.addFace_cases h₁ h₂ h₃ with
    ⟨error, m', ended, misfit⟩ | ⟨f, m', ended, fits, added⟩
  · rcases misfit.refusal sound live with ⟨reason, rfl, refusal⟩
    exact .inl ⟨reason, m', ended, refusal⟩
  · exact .inr ⟨f, m', ended, fits.not_refusal sound live, added.gainsFace sound⟩

end Refusals

/-- Whatever operations were run: a face on live sides is refused with the first of the three
reasons that applies, and added if none does. -/
theorem addFace_of_operations (operations : List Operation) {h₁ h₂ h₃ : HalfedgeId}
    (live : ∀ h ∈ [h₁, h₂, h₃], (empty.run operations).containsHalfedge h = true) :
    let m := empty.run operations
    let result := (Operation.addFace h₁ h₂ h₃).outcome m
    (result.1 = .error (.refused (.addFace .notFree)) ↔ m.SideFaced h₁ h₂ h₃) ∧
      (result.1 = .error (.refused (.addFace .notAChain)) ↔
        ¬ m.SideFaced h₁ h₂ h₃ ∧ m.ChainBroken h₁ h₂ h₃) ∧
      (result.1 = .error (.refused (.addFace .nonManifold)) ↔
        ¬ m.SideFaced h₁ h₂ h₃ ∧ ¬ m.ChainBroken h₁ h₂ h₃ ∧ m.CornerBlocked h₁ h₂ h₃) ∧
      (¬ m.SideFaced h₁ h₂ h₃ → ¬ m.ChainBroken h₁ h₂ h₃ → ¬ m.CornerBlocked h₁ h₂ h₃ →
        ∃ f, result.1 = .ok (.face f) ∧ m.GainsFace h₁ h₂ h₃ f result.2) := by
  intro m result
  rcases outcome_addFace (sound_empty.run operations) live with
    ⟨reason, m', ended, refusal⟩ | ⟨f, m', ended, none, faced⟩
  · have answer : result.1 = .error (.refused (.addFace reason)) := congrArg Prod.fst ended
    rw [answer]
    cases refusal with
    | notFree faced => simp [m, faced]
    | notAChain unfaced broken => simp [m, unfaced, broken]
    | nonManifold unfaced unbroken blocked => simp [m, unfaced, unbroken, blocked]
  · have answer : result.1 = .ok (.face f) := congrArg Prod.fst ended
    have unfaced : ¬ m.SideFaced h₁ h₂ h₃ := fun faced => none _ (.notFree faced)
    have unbroken : ¬ m.ChainBroken h₁ h₂ h₃ := fun broken => none _ (.notAChain unfaced broken)
    have unblocked : ¬ m.CornerBlocked h₁ h₂ h₃ := fun blocked =>
      none _ (.nonManifold unfaced unbroken blocked)
    have after : result.2 = m' := congrArg Prod.snd ended
    rw [answer, after]
    simpa [unfaced, unbroken, unblocked] using faced

/-- Behind the two triangles that lie side by side there are three free sides in a chain, and at
one of their corners there is no room for a face.  A face that was removed can be put back. -/
theorem addFace_bowtie :
    let m := empty.run bowtie
    let g₁ : HalfedgeId := ⟨⟨5, 0⟩, .second⟩
    let g₂ : HalfedgeId := ⟨⟨9, 0⟩, .first⟩
    let g₃ : HalfedgeId := ⟨⟨1, 0⟩, .second⟩
    let operations := bowtie ++ [.removeFace ⟨1, 0⟩]
    let opened := empty.run operations
    let h₁ : HalfedgeId := ⟨⟨1, 0⟩, .first⟩
    let h₂ : HalfedgeId := ⟨⟨2, 0⟩, .first⟩
    let h₃ : HalfedgeId := ⟨⟨3, 0⟩, .first⟩
    (∀ h ∈ [g₁, g₂, g₃], m.containsHalfedge h = true) ∧ m.CornerBlocked g₁ g₂ g₃ ∧
      (∀ h ∈ [h₁, h₂, h₃], opened.containsHalfedge h = true) ∧
      ∃ f, opened.GainsFace h₁ h₂ h₃ f ((Operation.addFace h₁ h₂ h₃).outcome opened).2 := by
  intro m g₁ g₂ g₃ operations opened h₁ h₂ h₃
  have live : ∀ h ∈ [g₁, g₂, g₃], m.containsHalfedge h = true := by decide +kernel
  have live' : ∀ h ∈ [h₁, h₂, h₃], opened.containsHalfedge h = true := by decide +kernel
  have closed : ((Operation.addFace g₁ g₂ g₃).outcome m).1 =
      .error (.refused (.addFace .nonManifold)) := by decide +kernel
  have added : ((Operation.addFace h₁ h₂ h₃).outcome opened).1 = .ok (.face ⟨1, 1⟩) := by
    decide +kernel
  have accepted (error : Fault) :
      ((Operation.addFace h₁ h₂ h₃).outcome opened).1 ≠ .error error := by
    simp [added]
  have answers := addFace_of_operations bowtie live
  have answers' := addFace_of_operations operations live'
  have blocked : m.CornerBlocked g₁ g₂ g₃ := (answers.2.2.1.1 closed).2.2
  have unfaced : ¬ opened.SideFaced h₁ h₂ h₃ := fun faced => accepted _ (answers'.1.2 faced)
  have unbroken : ¬ opened.ChainBroken h₁ h₂ h₃ := fun broken =>
    accepted _ (answers'.2.1.2 ⟨unfaced, broken⟩)
  have unblocked : ¬ opened.CornerBlocked h₁ h₂ h₃ := fun blocked =>
    accepted _ (answers'.2.2.1.2 ⟨unfaced, unbroken, blocked⟩)
  have gains := (answers'.2.2.2 unfaced unbroken unblocked).imp fun _ => And.right
  exact ⟨live, blocked, live', gains⟩

end Mesh

end PlanarMesh
