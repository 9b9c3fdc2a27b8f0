import Mathlib.Data.List.Find
import PlanarMesh.Proofs.EdgeOutcome
import PlanarMesh.Proofs.FaceOutcome

/-!
# When a triangle can be added

Whether a triangle is added between three nodes is decided before anything is done
(`addTriangle_of_operations`): its nodes must be live and different, each side must be there
without a face, or be missing between nodes with room (`SideOpen`), and each corner at which both
sides are there must let them be joined (`CornerOpen`).

An edge that is added on the way never makes the triangle fail.  Around its ends it is put
somewhere into the walk, which changes neither what a search for another side finds nor which
nodes are interior; and a corner with a new side can always be joined, because a new side is
free on both sides (`Sound.joinable_of_free`).
-/

namespace PlanarMesh

namespace Mesh

variable {m m' : Mesh}

/-- The side is there and has no face, or it is missing between two nodes with room for it. -/
def SideOpen (m : Mesh) (interior : NodeId → Prop) (n₁ n₂ : NodeId) : Prop :=
  (∃ h, m.findHalfedge n₁ n₂ = .ok (some h) ∧ m.faceOf h = .ok none) ∨
    m.findHalfedge n₁ n₂ = .ok none ∧ ¬ interior n₁ ∧ ¬ interior n₂

/-- The side is there, with or without a face, or it is missing between two nodes with room for
it. -/
def SideReady (m : Mesh) (interior : NodeId → Prop) (n₁ n₂ : NodeId) : Prop :=
  (∃ h, m.findHalfedge n₁ n₂ = .ok (some h)) ∨
    m.findHalfedge n₁ n₂ = .ok none ∧ ¬ interior n₁ ∧ ¬ interior n₂

/-- If both sides of a corner are there, then they follow each other, or a half-edge without a face
is passed on the way from one to the other. -/
def CornerOpen (m : Mesh) (n₁ n₂ n₃ : NodeId) : Prop :=
  ∀ incoming out, m.findHalfedge n₁ n₂ = .ok (some incoming) →
    m.findHalfedge n₂ n₃ = .ok (some out) →
    m.next incoming = .ok out ∨ ∃ h, m.PassesBy incoming out h ∧ m.faceOf h = .ok none

/-- A triangle can be added between the nodes. -/
structure TriangleOpen (m : Mesh) (interior : NodeId → Prop) (a b c : NodeId) : Prop where
  live : ∀ n ∈ [a, b, c], m.containsNode n = true
  ab : a ≠ b
  bc : b ≠ c
  ca : c ≠ a
  side₁ : m.SideOpen interior a b
  side₂ : m.SideOpen interior b c
  side₃ : m.SideOpen interior c a
  corner₁ : m.CornerOpen a b c
  corner₂ : m.CornerOpen b c a
  corner₃ : m.CornerOpen c a b

/-- Three different nodes are joined by edges, or can be. -/
structure OutlineReady (m : Mesh) (interior : NodeId → Prop) (a b c : NodeId) : Prop where
  live : ∀ n ∈ [a, b, c], m.containsNode n = true
  ab : a ≠ b
  bc : b ≠ c
  ca : c ≠ a
  side₁ : m.SideReady interior a b
  side₂ : m.SideReady interior b c
  side₃ : m.SideReady interior c a

theorem SideOpen.ready {interior : NodeId → Prop} {n₁ n₂ : NodeId}
    (opens : m.SideOpen interior n₁ n₂) : m.SideReady interior n₁ n₂ :=
  opens.imp_left fun ⟨h, found, _⟩ => ⟨h, found⟩

theorem TriangleOpen.ready {interior : NodeId → Prop} {a b c : NodeId}
    (opens : m.TriangleOpen interior a b c) : m.OutlineReady interior a b c :=
  { opens with
    side₁ := opens.side₁.ready
    side₂ := opens.side₂.ready
    side₃ := opens.side₃.ready }

/-! ## Joining at a corner -/

theorem faceOf_eq_none_iff {h : HalfedgeId} : m.faceOf h = .ok none ↔ m.Free h :=
  faceOf_eq_ok_iff

/-- Two half-edges at a node can be joined if something was passed, as readers see it. -/
theorem Sound.joinable_iff (sound : m.Sound) {i o : HalfedgeId} {n : NodeId}
    (iStart : m.origin? i = some n) (oStart : m.origin? o = some n) (differ : i ≠ o) :
    m.Joinable i o ↔
      m.next i.pair = .ok o ∨ ∃ h, m.PassesBy i.pair o h ∧ m.faceOf h = .ok none := by
  constructor
  · rintro (follows | ⟨n', W, C, around, start, a, mem, free⟩)
    · exact .inl (next_eq_ok_iff.2 follows.1)
    · refine .inr ⟨a.pair, ?_, faceOf_eq_ok_iff.2 free⟩
      exact (passesBy_iff_of_ring around.toOrbit start a.pair).2 (by simpa using mem)
  · intro passed
    by_contra closed
    have blocked := (sound.blocked_iff iStart oStart differ).2 closed
    rcases passed with next | ⟨h, passes, free⟩
    · exact blocked.next_ne next
    · rcases blocked.faced h passes with ⟨f, reports⟩
      cases reports.symm.trans free

/-- Half-edges at a node can be joined if the place before the one or behind the other is free. -/
theorem Sound.joinable_of_free (sound : m.Sound) {i o : HalfedgeId} {n : NodeId}
    (iStart : m.origin? i = some n) (oStart : m.origin? o = some n) (differ : i ≠ o)
    (free : m.Free i ∨ m.Free o.pair) : m.Joinable i o := by
  rcases exists_ring_between sound iStart oStart differ with ⟨W, C, around, start⟩
  refine .inr ⟨n, W, C, around, start, ?_⟩
  rcases free with free | free
  · rcases between_facts around.toOrbit start with ⟨-, -, d, last, follows⟩
    exact ⟨d, List.mem_of_getLast? last, (sound.free_iff follows).1 free⟩
  · exact ⟨o, List.mem_of_head? start, free⟩

/-! ## Beside a new edge -/

/-- A half-edge that is put into the walk around a node is not found on the way to others. -/
theorem Inserts.findHalfedge {h : HalfedgeId} {n n' : NodeId} (inserts : m.Inserts n h m')
    (sound : m.Sound) (sound' : m'.Sound)
    (finish : ∀ g, m.containsHalfedge g = true → m'.origin? g.pair = m.origin? g.pair)
    (other : m'.origin? h.pair ≠ some n') : m'.findHalfedge n n' = m.findHalfedge n n' := by
  rcases inserts with ⟨A, B, tour, tour', -⟩
  have same : ∀ l : List HalfedgeId, (∀ g ∈ l, g ∈ A ++ B) →
      l.find? (fun g => decide (m'.origin? g.pair = some n')) =
        l.find? fun g => decide (m.origin? g.pair = some n') := by
    intro l subset
    apply List.find?_congr
    intro g mem
    rw [finish g (tour.ring.live (subset g mem))]
  rw [tour'.findHalfedge sound', tour.findHalfedge sound, List.find?_append,
    List.find?_append, List.find?_cons_of_neg (by simpa using other), same A (by simp +contextual),
    same B (by simp +contextual)]

namespace AddedEdge

variable {n₁ n₂ : NodeId} {e : EdgeId} (added : m.AddedEdge n₁ n₂ e m') (sound : m.Sound)

include added

theorem free_of_live {h : HalfedgeId} (live : m.containsHalfedge h = true) :
    m'.Free h ↔ m.Free h :=
  added.free_iff (added.edge_ne live)

/-- Around a node that is not an end the same half-edges can be joined. -/
theorem joinable_iff {i o : HalfedgeId} {n : NodeId} (sound : m.Sound) (other₁ : n ≠ n₁)
    (other₂ : n ≠ n₂) (start : m.origin? i = some n) : m'.Joinable i o ↔ m.Joinable i o := by
  rcases sound.exists_ring n with ⟨ring, around⟩
  have around' := added.ring_of_ne n ring other₁ other₂ around
  have mem := (around.mem_iff i).2 start
  have free_iff : ∀ a ∈ ring, m'.Free a.pair ↔ m.Free a.pair := fun a mem =>
    added.free_of_live ((containsHalfedge_pair m a).trans (around.live mem))
  constructor
  · exact fun joinable => joinable.of_ring around' around mem fun a mem => (free_iff a mem).1
  · exact fun joinable => joinable.of_ring around around' mem fun a mem => (free_iff a mem).2

variable (able : m.Connectable n₁ n₂)

include able

/-- An edge makes no node interior and none that is interior outer. -/
theorem interior_iff (n : NodeId) : m'.Interior n ↔ m.Interior n := by
  by_cases first : n = n₁
  · subst first
    have room := not_interior_of_free added.origin?_first (added.free_new rfl)
    exact iff_of_false room able.room₁
  by_cases second : n = n₂
  · subst second
    have room := not_interior_of_free added.origin?_second (added.free_new rfl)
    exact iff_of_false room able.room₂
  have starts (h : HalfedgeId) : m'.origin? h = some n ↔ m.origin? h = some n := by
    constructor
    · intro start
      rw [added.origin?] at start
      split_ifs at start with isFirst isSecond
      · exact absurd (Option.some.inj start).symm first
      · exact absurd (Option.some.inj start).symm second
      · exact start
    · exact added.origin?_of_live
  have frees (h : HalfedgeId) (start : m.origin? h = some n) : m'.Free h.pair ↔ m.Free h.pair :=
    added.free_of_live ((containsHalfedge_pair m h).trans (containsHalfedge_of_origin? start))
  simp only [Interior, starts]
  exact and_congr_right fun _ => forall₂_congr fun h start => not_congr (frees h start)

include sound

/-- What is found between other nodes stays. -/
theorem findHalfedge {x y : NodeId} (live : m.containsNode x = true)
    (apart : ¬ (x = n₁ ∧ y = n₂)) (apart' : ¬ (x = n₂ ∧ y = n₁)) :
    m'.findHalfedge x y = m.findHalfedge x y := by
  have finish (g : HalfedgeId) (live : m.containsHalfedge g = true) :
      m'.origin? g.pair = m.origin? g.pair :=
    added.origin?_of_ne (added.edge_ne ((containsHalfedge_pair m g).trans live))
  by_cases first : x = n₁
  · subst first
    apply (added.inserts_first sound able).findHalfedge sound added.sound finish
    rw [show e.first.pair = e.second from rfl, added.origin?_second]
    exact fun same => apart ⟨rfl, (Option.some.inj same).symm⟩
  by_cases second : x = n₂
  · subst second
    apply (added.inserts_second sound able).findHalfedge sound added.sound finish
    rw [show e.second.pair = e.first from rfl, added.origin?_first]
    exact fun same => apart' ⟨rfl, (Option.some.inj same).symm⟩
  rcases added.tour_of_ne sound first second live with ⟨l, tour, tour'⟩
  rw [tour'.findHalfedge added.sound, tour.findHalfedge sound]
  congr 1
  apply List.find?_congr
  intro g mem
  rw [finish g (tour.ring.live mem)]

end AddedEdge

/-! ## Beside a side -/

namespace Sided

variable {n₁ n₂ : NodeId} {h : HalfedgeId} (sided : m.Sided n₁ n₂ h m')

include sided

theorem leads : m'.Leads h n₁ n₂ := by
  cases sided with
  | present _ leads => exact leads
  | new _ _ first added => exact first ▸ added.leads

theorem containsEdge (e : EdgeId) :
    m'.containsEdge e = true ↔ e = h.edge ∨ m.containsEdge e = true := by
  cases sided with
  | present _ leads =>
    have live := leads.live
    rw [containsHalfedge_eq_containsEdge] at live
    constructor
    · exact .inr
    · rintro (rfl | old)
      · exact live
      · exact old
  | new _ _ first added =>
    rw [first]
    exact added.containsEdge e

theorem position (n : NodeId) :
    (m'.node? n).map Node.position = (m.node? n).map Node.position := by
  cases sided with
  | present => rfl
  | new _ _ _ added => exact added.position n

theorem faceOf?_of_live {g : HalfedgeId} (live : m.containsHalfedge g = true) :
    m'.faceOf? g = m.faceOf? g := by
  cases sided with
  | present => rfl
  | new _ _ _ added => exact added.faceOf?_of_live live

theorem free_of_live {g : HalfedgeId} (live : m.containsHalfedge g = true) :
    m'.Free g ↔ m.Free g := by
  rw [Free, sided.faceOf?_of_live live, Free]

theorem interior_iff (n : NodeId) : m'.Interior n ↔ m.Interior n := by
  cases sided with
  | present => rfl
  | new _ able _ added => exact added.interior_iff able n

variable (sound : m.Sound)

include sound

theorem joinable_iff {i o : HalfedgeId} {n : NodeId} (other₁ : n ≠ n₁) (other₂ : n ≠ n₂)
    (start : m.origin? i = some n) : m'.Joinable i o ↔ m.Joinable i o := by
  cases sided with
  | present => rfl
  | new _ _ _ added => exact added.joinable_iff sound other₁ other₂ start

/-- So it is if the side was there. -/
theorem joinable_iff_of_off {i o : HalfedgeId} {n : NodeId} (start : m.origin? i = some n)
    (off : (n ≠ n₁ ∧ n ≠ n₂) ∨ ∃ g, m.findHalfedge n₁ n₂ = .ok (some g)) :
    m'.Joinable i o ↔ m.Joinable i o := by
  rcases off with ⟨other₁, other₂⟩ | ⟨g, found⟩
  · exact sided.joinable_iff sound other₁ other₂ start
  · cases sided with
    | present => rfl
    | new missing => exact absurd (sound.leads_of_findHalfedge found) (missing g)

theorem findHalfedge {x y : NodeId} (live : m.containsNode x = true)
    (apart : ¬ (x = n₁ ∧ y = n₂)) (apart' : ¬ (x = n₂ ∧ y = n₁)) :
    m'.findHalfedge x y = m.findHalfedge x y := by
  cases sided with
  | present => rfl
  | new _ able _ added => exact added.findHalfedge sound able live apart apart'

theorem edgeCount : m'.edgeCount =
    m.edgeCount + if m.findHalfedge n₁ n₂ = .ok none then 1 else 0 := by
  cases sided with
  | present found => simp [found]
  | new missing able _ added =>
    rw [added.edgeCount, if_pos (sound.findHalfedge_of_missing able.live₁ missing)]

/-- Another side is ready beside a new one exactly if it was ready before. -/
theorem sideReady_iff {x y : NodeId} (live : m.containsNode x = true)
    (apart : ¬ (x = n₁ ∧ y = n₂)) (apart' : ¬ (x = n₂ ∧ y = n₁)) :
    m'.SideReady m'.Interior x y ↔ m.SideReady m.Interior x y := by
  simp only [SideReady, sided.findHalfedge sound live apart apart', sided.interior_iff]

end Sided

/-- No edge can be found or added between two different live nodes only if their side is not
ready. -/
theorem Unsided.not_sideReady {n₁ n₂ : NodeId} {error : MeshError}
    (unsided : m.Unsided n₁ n₂ error) (sound : m.Sound) (live₁ : m.containsNode n₁ = true)
    (live₂ : m.containsNode n₂ = true) (ne : n₁ ≠ n₂) : ¬ m.SideReady m.Interior n₁ n₂ := by
  rintro (⟨h, found⟩ | ⟨-, room₁, room₂⟩)
  · exact unsided.missing h (sound.leads_of_findHalfedge found)
  · exact unsided.unable.not_connectable ⟨live₁, live₂, ne, room₁, room₂⟩

/-! ## The three sides -/

/-- `h` is what a search finds between the nodes in `m`, or `m` has nothing between them and `h`
belongs to an edge that is new. -/
inductive Supplied (m : Mesh) (n₁ n₂ : NodeId) (h : HalfedgeId) : Prop
  | reused (found : m.findHalfedge n₁ n₂ = .ok (some h))
  | created (missing : m.findHalfedge n₁ n₂ = .ok none) (fresh : m.containsEdge h.edge = false)

/-- In the outline `m'` the half-edge leads from one node to the other: one that was found in `m` is
as free as before, and a new one has no face on either side. -/
inductive Provided (m : Mesh) (n₁ n₂ : NodeId) (h : HalfedgeId) (m' : Mesh) : Prop
  | present (found : m.findHalfedge n₁ n₂ = .ok (some h)) (free_iff : m'.Free h ↔ m.Free h)
  | new (missing : m.findHalfedge n₁ n₂ = .ok none) (fresh : m.containsEdge h.edge = false)
      (room₁ : ¬ m.Interior n₁) (room₂ : ¬ m.Interior n₂) (free : m'.Free h)
      (free_pair : m'.Free h.pair)

namespace Sided

variable {m'' : Mesh} {n₁ n₂ x y : NodeId} {g h : HalfedgeId} (sided : m.Sided n₁ n₂ h m')

include sided

theorem provided (sound : m.Sound) : m.Provided n₁ n₂ h m' := by
  cases sided with
  | present found => exact .present found Iff.rfl
  | new missing able first added =>
    subst first
    exact .new (sound.findHalfedge_of_missing able.live₁ missing) added.not_contains able.room₁
      able.room₂ (added.free_new rfl) (added.free_new rfl)

/-- A side that was provided for is provided for beside another one. -/
theorem provided_later (provided : m''.Provided x y g m) (live : m.containsHalfedge g = true) :
    m''.Provided x y g m' := by
  have pairLive : m.containsHalfedge g.pair = true := (containsHalfedge_pair m g).trans live
  cases provided with
  | present found free_iff =>
    exact .present found ((sided.free_of_live live).trans free_iff)
  | new missing fresh room₁ room₂ free free_pair =>
    exact .new missing fresh room₁ room₂ ((sided.free_of_live live).2 free)
      ((sided.free_of_live pairLive).2 free_pair)

/-- What is provided for beside a side was so without it. -/
theorem provided_earlier (sound : m.Sound) (provided : m'.Provided x y g m'')
    (live : m.containsNode x = true) (apart : ¬ (x = n₁ ∧ y = n₂))
    (apart' : ¬ (x = n₂ ∧ y = n₁)) : m.Provided x y g m'' := by
  have same := sided.findHalfedge sound live apart apart'
  cases provided with
  | present found free_iff =>
    rw [same] at found
    have old := (sound.leads_of_findHalfedge found).live
    exact .present found (free_iff.trans (sided.free_of_live old))
  | new missing fresh room₁ room₂ free free_pair =>
    have old : m.containsEdge g.edge = false := by
      rw [Bool.eq_false_iff] at fresh ⊢
      exact fun live => fresh ((sided.containsEdge g.edge).2 (.inr live))
    rw [sided.interior_iff] at room₁ room₂
    exact .new (same.symm.trans missing) old room₁ room₂ free free_pair

end Sided

namespace Provided

variable {n₁ n₂ : NodeId} {h : HalfedgeId} (provided : m.Provided n₁ n₂ h m')

include provided

theorem supplied : m.Supplied n₁ n₂ h := by
  cases provided with
  | present found => exact .reused found
  | new missing fresh => exact .created missing fresh

theorem sideOpen_iff : m.SideOpen m.Interior n₁ n₂ ↔ m'.Free h := by
  cases provided with
  | present found free_iff =>
    simp [SideOpen, found, free_iff, faceOf_eq_none_iff]
  | new missing _ room₁ room₂ free =>
    simp [SideOpen, missing, room₁, room₂, free]

end Provided

/-- Where both sides of a corner lead in the outline, they can be joined exactly if the corner was
open: with a new side there is always a free place. -/
theorem Provided.cornerOpen_iff {x y z : NodeId} {h k : HalfedgeId} (sound : m.Sound)
    (sound' : m'.Sound) (arrives : m'.Leads h x y) (leaves : m'.Leads k y z) (differ : h.pair ≠ k)
    (first : m.Provided x y h m') (second : m.Provided y z k m')
    (stays : m.findHalfedge x y = .ok (some h) → m.findHalfedge y z = .ok (some k) →
      (m'.Joinable h.pair k ↔ m.Joinable h.pair k)) :
    m.CornerOpen x y z ↔ m'.Joinable h.pair k := by
  cases first with
  | new missing _ _ _ _ free =>
    refine iff_of_true (fun i o found => by cases missing.symm.trans found) ?_
    exact sound'.joinable_of_free arrives.finish leaves.start differ (.inl free)
  | present found =>
    cases second with
    | new missing _ _ _ _ free =>
      refine iff_of_true (fun i o _ found => by cases missing.symm.trans found) ?_
      exact sound'.joinable_of_free arrives.finish leaves.start differ (.inr free)
    | present found' =>
      have arrives' := sound.leads_of_findHalfedge found
      have leaves' := sound.leads_of_findHalfedge found'
      have open_iff := sound.joinable_iff arrives'.finish leaves'.start differ
      rw [HalfedgeId.pair_pair] at open_iff
      rw [stays found found', open_iff]
      simp [CornerOpen, found, found']

/-- The half-edges lead around the triangle in `m'`, where all three are provided for.  Around a
node at which the sides were found, the same half-edges can be joined as before. -/
structure Provides (m : Mesh) (a b c : NodeId) (h₁ h₂ h₃ : HalfedgeId) (m' : Mesh) : Prop where
  sound : m'.Sound
  chain : m'.Chain h₁ h₂ h₃ a b c
  side₁ : m.Provided a b h₁ m'
  side₂ : m.Provided b c h₂ m'
  side₃ : m.Provided c a h₃ m'
  joinable_iff : ∀ i o n, m.origin? i = some n →
    ((n ≠ a ∧ n ≠ b) ∨ ∃ g, m.findHalfedge a b = .ok (some g)) →
    ((n ≠ b ∧ n ≠ c) ∨ ∃ g, m.findHalfedge b c = .ok (some g)) →
    ((n ≠ c ∧ n ≠ a) ∨ ∃ g, m.findHalfedge c a = .ok (some g)) →
    (m'.Joinable i o ↔ m.Joinable i o)

namespace Provides

variable {a b c : NodeId} {h₁ h₂ h₃ : HalfedgeId} (provides : m.Provides a b c h₁ h₂ h₃ m')

include provides

theorem rotate : m.Provides b c a h₂ h₃ h₁ m' where
  sound := provides.sound
  chain := provides.chain.rotate
  side₁ := provides.side₂
  side₂ := provides.side₃
  side₃ := provides.side₁
  joinable_iff i o n start off₁ off₂ off₃ := provides.joinable_iff i o n start off₃ off₁ off₂

theorem cornerOpen_iff (sound : m.Sound) : m.CornerOpen a b c ↔ m'.Joinable h₁.pair h₂ := by
  have chain := provides.chain
  apply Provided.cornerOpen_iff sound provides.sound chain.side₁ chain.side₂ chain.pair_ne
    provides.side₁ provides.side₂
  intro found₁ found₂
  exact provides.joinable_iff _ _ b (sound.leads_of_findHalfedge found₁).finish
    (.inr ⟨h₁, found₁⟩) (.inr ⟨h₂, found₂⟩) (.inl ⟨chain.bc, chain.ab.symm⟩)

end Provides

namespace Outlined

variable {m₁ m₂ m₃ : Mesh} {a b c : NodeId} {h₁ h₂ h₃ : HalfedgeId}
  (outlined : m.Outlined a b c h₁ h₂ h₃ m₁ m₂ m₃) (sound : m.Sound)

include outlined sound

theorem chain : m₃.Chain h₁ h₂ h₃ a b c := by
  have sound₁ := outlined.side₁.sound sound
  have sound₂ := outlined.side₂.sound sound₁
  have grown₂ := outlined.side₂.grown sound₁
  have grown₃ := outlined.side₃.grown sound₂
  have leads₁ := (grown₂.trans grown₃).leads outlined.side₁.leads
  have leads₂ := grown₃.leads outlined.side₂.leads
  have leads₃ := outlined.side₃.leads
  have sound₃ := outlined.sound sound
  exact ⟨leads₁, leads₂, leads₃, sound₃.ends_ne_of_leads leads₁, sound₃.ends_ne_of_leads leads₂,
    sound₃.ends_ne_of_leads leads₃⟩

/-- The first side does not matter for what is found for the second. -/
theorem findHalfedge₂ : m₁.findHalfedge b c = m.findHalfedge b c := by
  have chain := outlined.chain sound
  apply outlined.side₁.findHalfedge sound (outlined.live sound b (by simp))
  · exact fun same => chain.ab same.1.symm
  · exact fun same => chain.ca same.2

/-- The first two sides do not matter for what is found for the third. -/
theorem findHalfedge₃ : m₂.findHalfedge c a = m.findHalfedge c a := by
  have chain := outlined.chain sound
  have live := outlined.live sound c (by simp)
  have live₁ := (outlined.side₁.containsNode c).trans live
  have later : m₂.findHalfedge c a = m₁.findHalfedge c a := by
    apply outlined.side₂.findHalfedge (outlined.side₁.sound sound) live₁
    · exact fun same => chain.bc same.1.symm
    · exact fun same => chain.ab same.2
  rw [later]
  apply outlined.side₁.findHalfedge sound live
  · exact fun same => chain.ca same.1
  · exact fun same => chain.bc same.1.symm

theorem provided₁ : m.Provided a b h₁ m₃ := by
  have leads₁ := outlined.side₁.leads
  have leads₂ := (outlined.side₂.grown (outlined.side₁.sound sound)).leads leads₁
  apply outlined.side₃.provided_later _ leads₂.live
  apply outlined.side₂.provided_later _ leads₁.live
  exact outlined.side₁.provided sound

theorem provided₂ : m.Provided b c h₂ m₃ := by
  have chain := outlined.chain sound
  have sound₁ := outlined.side₁.sound sound
  have provided : m₁.Provided b c h₂ m₃ :=
    outlined.side₃.provided_later (outlined.side₂.provided sound₁) outlined.side₂.leads.live
  apply outlined.side₁.provided_earlier sound provided (outlined.live sound b (by simp))
  · exact fun same => chain.ab same.1.symm
  · exact fun same => chain.ca same.2

theorem provided₃ : m.Provided c a h₃ m₃ := by
  have chain := outlined.chain sound
  have sound₁ := outlined.side₁.sound sound
  have sound₂ := outlined.side₂.sound sound₁
  have live := outlined.live sound c (by simp)
  have live₁ := (outlined.side₁.containsNode c).trans live
  have provided : m₁.Provided c a h₃ m₃ := by
    apply outlined.side₂.provided_earlier sound₁ (outlined.side₃.provided sound₂) live₁
    · exact fun same => chain.bc same.1.symm
    · exact fun same => chain.ab same.2
  apply outlined.side₁.provided_earlier sound provided live
  · exact fun same => chain.ca same.1
  · exact fun same => chain.bc same.1.symm

/-- Around a node the same half-edges can be joined in the outline, if the sides there were
found. -/
theorem joinable_iff {i o : HalfedgeId} {n : NodeId} (start : m.origin? i = some n)
    (off₁ : (n ≠ a ∧ n ≠ b) ∨ ∃ g, m.findHalfedge a b = .ok (some g))
    (off₂ : (n ≠ b ∧ n ≠ c) ∨ ∃ g, m.findHalfedge b c = .ok (some g))
    (off₃ : (n ≠ c ∧ n ≠ a) ∨ ∃ g, m.findHalfedge c a = .ok (some g)) :
    m₃.Joinable i o ↔ m.Joinable i o := by
  have sound₁ := outlined.side₁.sound sound
  have sound₂ := outlined.side₂.sound sound₁
  have start₁ := (outlined.side₁.grown sound).origin? i n start
  have start₂ := (outlined.side₂.grown sound₁).origin? i n start₁
  rw [← outlined.findHalfedge₂ sound] at off₂
  rw [← outlined.findHalfedge₃ sound] at off₃
  calc
    m₃.Joinable i o ↔ m₂.Joinable i o := outlined.side₃.joinable_iff_of_off sound₂ start₂ off₃
    _ ↔ m₁.Joinable i o := outlined.side₂.joinable_iff_of_off sound₁ start₁ off₂
    _ ↔ m.Joinable i o := outlined.side₁.joinable_iff_of_off sound start off₁

theorem provides : m.Provides a b c h₁ h₂ h₃ m₃ where
  sound := outlined.sound sound
  chain := outlined.chain sound
  side₁ := outlined.provided₁ sound
  side₂ := outlined.provided₂ sound
  side₃ := outlined.provided₃ sound
  joinable_iff _ _ _ := outlined.joinable_iff sound

/-- The sides of the outline fit exactly if the triangle was open. -/
theorem fits_iff : m₃.Fits h₁ h₂ h₃ ↔ m.TriangleOpen m.Interior a b c := by
  have provides := outlined.provides sound
  have chain := provides.chain
  have side₁ := provides.side₁.sideOpen_iff
  have side₂ := provides.side₂.sideOpen_iff
  have side₃ := provides.side₃.sideOpen_iff
  have corner₁ := provides.cornerOpen_iff sound
  have corner₂ := provides.rotate.cornerOpen_iff sound
  have corner₃ := provides.rotate.rotate.cornerOpen_iff sound
  constructor
  · intro fits
    constructor
    case live => exact outlined.live sound
    case ab => exact chain.ab
    case bc => exact chain.bc
    case ca => exact chain.ca
    case side₁ => exact side₁.2 fits.free₁
    case side₂ => exact side₂.2 fits.free₂
    case side₃ => exact side₃.2 fits.free₃
    case corner₁ => exact corner₁.2 fits.joinable₁
    case corner₂ => exact corner₂.2 fits.joinable₂
    case corner₃ => exact corner₃.2 fits.joinable₃
  · intro opens
    constructor
    case free₁ => exact side₁.1 opens.side₁
    case free₂ => exact side₂.1 opens.side₂
    case free₃ => exact side₃.1 opens.side₃
    case chained₁ => rw [chain.side₁.finish, chain.side₂.start]
    case chained₂ => rw [chain.side₂.finish, chain.side₃.start]
    case chained₃ => rw [chain.side₃.finish, chain.side₁.start]
    case joinable₁ => exact corner₁.1 opens.corner₁
    case joinable₂ => exact corner₂.1 opens.corner₂
    case joinable₃ => exact corner₃.1 opens.corner₃

end Outlined

/-- If the sides are ready, then the edit is refused because they do not fit. -/
theorem Unfit.exists_misfit {a b c : NodeId} {error : MeshError} (unfit : m.Unfit a b c error)
    (sound : m.Sound) (ready : m.OutlineReady m.Interior a b c) :
    ∃ h₁ h₂ h₃ m₁ m₂ m₃, m.Outlined a b c h₁ h₂ h₃ m₁ m₂ m₃ ∧ m₃.Misfit h₁ h₂ h₃ error := by
  have liveA := ready.live a (by simp)
  have liveB := ready.live b (by simp)
  have liveC := ready.live c (by simp)
  cases unfit with
  | side₁ unsided => exact absurd ready.side₁ (unsided.not_sideReady sound liveA liveB ready.ab)
  | side₂ side₁ unsided =>
    refine absurd ?_ (unsided.not_sideReady (side₁.sound sound)
      ((side₁.containsNode b).trans liveB) ((side₁.containsNode c).trans liveC) ready.bc)
    rw [side₁.sideReady_iff sound liveB (fun same => ready.ab same.1.symm)
      fun same => ready.ca same.2]
    exact ready.side₂
  | side₃ side₁ side₂ unsided =>
    have sound₁ := side₁.sound sound
    have liveA₁ := (side₁.containsNode a).trans liveA
    have liveC₁ := (side₁.containsNode c).trans liveC
    refine absurd ?_ (unsided.not_sideReady (side₂.sound sound₁)
      ((side₂.containsNode c).trans liveC₁) ((side₂.containsNode a).trans liveA₁) ready.ca)
    rw [side₂.sideReady_iff sound₁ liveC₁ (fun same => ready.bc same.1.symm)
      fun same => ready.ab same.2]
    rw [side₁.sideReady_iff sound liveC (fun same => ready.ca same.1)
      fun same => ready.bc same.1.symm]
    exact ready.side₃
  | face outlined misfit => exact ⟨_, _, _, _, _, _, outlined, misfit⟩

/-- What the edit is refused for is that the triangle was not open. -/
theorem Unfit.not_triangleOpen {a b c : NodeId} {error : MeshError}
    (unfit : m.Unfit a b c error) (sound : m.Sound) : ¬ m.TriangleOpen m.Interior a b c := by
  intro opens
  rcases unfit.exists_misfit sound opens.ready with ⟨h₁, h₂, h₃, m₁, m₂, m₃, outlined, misfit⟩
  exact misfit.not_fits ((outlined.fits_iff sound).2 opens)

/-! ## The new triangle -/

/-- The sides of the triangle between which nothing is found. -/
def missingSides (m : Mesh) (a b c : NodeId) : List (NodeId × NodeId) :=
  [(a, b), (b, c), (c, a)].filter fun side => m.findHalfedge side.1 side.2 = .ok none

/-- `m'` is `m` with a new triangle `f` between the nodes, as readers see it. -/
structure GainsTriangle (m : Mesh) (a b c : NodeId) (f : FaceId) (m' : Mesh) : Prop where
  fresh : m.containsFace f = false
  faceNodes : m'.faceNodes f = .ok ⟨a, b, c⟩
  sides : ∃ h₁ h₂ h₃, m'.faceHalfedges f = .ok ⟨h₁, h₂, h₃⟩ ∧ m.Supplied a b h₁ ∧
    m.Supplied b c h₂ ∧ m.Supplied c a h₃ ∧
    (∀ e, m'.containsEdge e = true ↔
      e ∈ [h₁.edge, h₂.edge, h₃.edge] ∨ m.containsEdge e = true) ∧
    ∀ h, h ∉ [h₁, h₂, h₃] → m.containsHalfedge h = true → m'.faceOf h = m.faceOf h
  edgeCount : m'.edgeCount = m.edgeCount + (m.missingSides a b c).length
  containsFace : ∀ g, m'.containsFace g = true ↔ g = f ∨ m.containsFace g = true
  origin : ∀ h, m.containsHalfedge h = true → m'.origin h = m.origin h
  faceHalfedges : ∀ g, m.containsFace g = true → m'.faceHalfedges g = m.faceHalfedges g
  next_of_faced : ∀ h g, m.faceOf h = .ok (some g) → m'.next h = m.next h
  containsNode : ∀ n, m'.containsNode n = m.containsNode n
  position : ∀ n, m'.position n = m.position n

namespace Outlined

variable {m₁ m₂ m₃ : Mesh} {a b c : NodeId} {h₁ h₂ h₃ : HalfedgeId}
  (outlined : m.Outlined a b c h₁ h₂ h₃ m₁ m₂ m₃) (sound : m.Sound)

include outlined

theorem containsEdge (e : EdgeId) : m₃.containsEdge e = true ↔
    e ∈ [h₁.edge, h₂.edge, h₃.edge] ∨ m.containsEdge e = true := by
  rw [outlined.side₃.containsEdge, outlined.side₂.containsEdge, outlined.side₁.containsEdge]
  simp only [List.mem_cons, List.not_mem_nil, or_false]
  tauto

theorem position (n : NodeId) :
    (m₃.node? n).map Node.position = (m.node? n).map Node.position := by
  rw [outlined.side₃.position, outlined.side₂.position, outlined.side₁.position]

include sound

theorem faceOf?_of_live {h : HalfedgeId} (live : m.containsHalfedge h = true) :
    m₃.faceOf? h = m.faceOf? h := by
  rcases sound.exists_leads live with ⟨n, n', leads⟩
  have leads₁ := (outlined.side₁.grown sound).leads leads
  have leads₂ := (outlined.side₂.grown (outlined.side₁.sound sound)).leads leads₁
  rw [outlined.side₃.faceOf?_of_live leads₂.live, outlined.side₂.faceOf?_of_live leads₁.live,
    outlined.side₁.faceOf?_of_live live]

theorem edgeCount : m₃.edgeCount = m.edgeCount + (m.missingSides a b c).length := by
  have sound₁ := outlined.side₁.sound sound
  rw [outlined.side₃.edgeCount (outlined.side₂.sound sound₁), outlined.side₂.edgeCount sound₁,
    outlined.side₁.edgeCount sound, outlined.findHalfedge₂ sound, outlined.findHalfedge₃ sound,
    missingSides]
  simp only [List.filter_cons, decide_eq_true_eq, List.filter_nil]
  split_ifs <;> rfl

theorem gainsTriangle {f : FaceId} (fits : m₃.Fits h₁ h₂ h₃)
    (added : m₃.AddedFace h₁ h₂ h₃ f m') : m.GainsTriangle a b c f m' := by
  have grown : m.Grown m' :=
    (outlined.grown sound).trans (added.grown (outlined.sound sound) fits)
  have chain := (outlined.chain sound).of_origin? added.origin?
  have faces (g : FaceId) : m₃.containsFace g = m.containsFace g := by
    rw [containsFace, face?, outlined.faces]
    rfl
  have positions (n : NodeId) :
      (m'.node? n).map Node.position = (m.node? n).map Node.position := by
    rw [added.node?, outlined.position]
  constructor
  case fresh => exact (faces f).symm.trans added.not_contains
  case faceNodes =>
    exact faceNodes_of_triangle added.found rfl added.triangle chain.side₁.start chain.side₂.start
      chain.side₃.start
  case sides =>
    refine ⟨h₁, h₂, h₃, faceHalfedges_of_triangle added.found rfl added.triangle,
      (outlined.provided₁ sound).supplied, (outlined.provided₂ sound).supplied,
      (outlined.provided₃ sound).supplied, fun e => ?_, fun h other live => ?_⟩
    · rw [containsEdge_eq_of_origin? added.origin?, outlined.containsEdge]
    · simp only [List.mem_cons, List.not_mem_nil, or_false, not_or] at other
      rw [faceOf_eq_orInvalid, faceOf_eq_orInvalid,
        added.faceOf?_of_ne other.1 other.2.1 other.2.2, outlined.faceOf?_of_live sound live]
  case edgeCount => rw [added.edgeCount, outlined.edgeCount sound]
  case containsFace =>
    intro g
    rw [added.containsFace, faces]
  case origin =>
    intro h live
    rcases containsHalfedge_iff_origin?.1 live with ⟨n, start⟩
    rw [origin_eq_ok_iff.2 start, origin_eq_ok_iff.2 (grown.origin? h n start)]
  case faceHalfedges => exact fun g live => grown.faceHalfedges sound live
  case next_of_faced =>
    intro h g reports
    have reports' := faceOf_eq_ok_iff.1 reports
    rcases sound.exists_triangle reports' with ⟨t, rfl, triangle⟩
    have kept := grown.triangle g t (sound.face_live t.a g reports') triangle
    rw [next_eq_ok_iff.2 triangle.next_a, next_eq_ok_iff.2 kept.next_a]
  case containsNode =>
    intro n
    rw [Mesh.containsNode, Mesh.containsNode, ← Option.isSome_map (f := Node.position),
      positions, Option.isSome_map]
  case position =>
    intro n
    rw [position_eq_orInvalid, position_eq_orInvalid, positions]

end Outlined

/-- Whatever operations were run: a triangle is added between three nodes exactly if it was open in
the mesh before. -/
theorem addTriangle_of_operations (operations : List Operation) (a b c : NodeId) :
    let m := empty.run operations
    let result := (Operation.addTriangle a b c).outcome m
    ∃ classes, m.classifyNodes = .ok classes ∧
      ((∃ reply, result.1 = .ok reply) ↔ m.TriangleOpen (· ∈ classes.interior) a b c) ∧
      ∀ reply, result.1 = .ok reply →
        ∃ f, reply = .face f ∧ m.GainsTriangle a b c f result.2 := by
  intro m result
  have sound : m.Sound := sound_empty.run operations
  rcases sound.exists_interior with ⟨classes, classified, interior⟩
  refine ⟨classes, classified, ?_⟩
  rw [show (· ∈ classes.interior) = m.Interior from funext fun n => propext (interior n)]
  have ends : (Operation.addTriangle a b c).edit.Ends (Session.on m)
      (fun reply m' => m.TriangleOpen m.Interior a b c ∧
        ∃ f, reply = .face f ∧ m.GainsTriangle a b c f m')
      (fun _ _ => ¬ m.TriangleOpen m.Interior a b c) := by
    apply (Edit.addTriangle_ends (s := Session.on m) sound).bind
    · rintro f t ⟨h₁, h₂, h₃, m₁, m₂, m₃, outlined, fits, added⟩
      exact ⟨(outlined.fits_iff sound).1 fits, f, rfl, outlined.gainsTriangle sound fits added⟩
    · exact fun _ _ refused => refused.1.not_triangleOpen sound
  rcases Operation.outcome_of_ends ends with
    ⟨reply, m', ended, opens, gains⟩ | ⟨error, m', ended, closed⟩
  · have answer : result.1 = .ok reply := congrArg Prod.fst ended
    have after : result.2 = m' := congrArg Prod.snd ended
    rw [answer, after]
    simpa [opens] using gains
  · have answer : result.1 = .error (.refused error) := congrArg Prod.fst ended
    rw [answer]
    simpa using closed

end Mesh

end PlanarMesh
