import PlanarMesh.Proofs.Edit.Hub
import PlanarMesh.Proofs.Edit.Wedge

/-!
# Wheels

Three spokes from a new node to the corners of a hole, and the sides of the hole, form a
`Wheel`.  Splitting a face adds the three faces of a wheel one after the other; a turn of the
wheel makes each of them the first.

At the first corner the spoke is moved in front of the gap first and comes to its place with the
last face only; at the other two corners it comes to its place with the face behind the gap.  So
in the end nothing has moved outside the hole (`FilledHole.keeps`).
-/

namespace PlanarMesh

namespace Mesh

/-! ## Wheels -/

/-- Three spokes from `x` to the ends of three half-edges that form a loop. -/
structure Wheel (m : Mesh) (x a b c : NodeId) (h₁ h₂ h₃ : HalfedgeId) (eA eB eC : EdgeId) :
    Prop where
  sound : m.Sound
  spoke₁ : m.Leads eA.first x a
  spoke₂ : m.Leads eB.first x b
  spoke₃ : m.Leads eC.first x c
  chain : m.Chain h₁ h₂ h₃ a b c
  hub : m.Ring x ↑[eA.first, eC.first, eB.first]

namespace Wheel

variable {m m' : Mesh} {x a b c : NodeId} {h₁ h₂ h₃ : HalfedgeId} {eA eB eC : EdgeId}
  (wheel : m.Wheel x a b c h₁ h₂ h₃ eA eB eC)

include wheel

theorem rotate : m.Wheel x b c a h₂ h₃ h₁ eB eC eA where
  sound := wheel.sound
  spoke₁ := wheel.spoke₂
  spoke₂ := wheel.spoke₃
  spoke₃ := wheel.spoke₁
  chain := wheel.chain.rotate
  hub := by
    have hub := wheel.hub
    rwa [show [eA.first, eC.first, eB.first] = [eA.first, eC.first] ++ [eB.first] from rfl,
      Cycle.coe_append_comm] at hub

/-- The hub is none of the corners. -/
theorem hub_ne : x ≠ a :=
  wheel.sound.ends_ne_of_leads wheel.spoke₁

theorem wedge : m.Wedge x a b eA.first h₁ eB.first where
  spoke := wheel.spoke₁
  side := wheel.chain.side₁
  spoke' := wheel.spoke₂
  hub_ne := wheel.hub_ne
  ne := wheel.chain.ab

theorem follows_hub : m.Follows eB.first eA.first :=
  wheel.hub.follows (Cycle.adjacent_of_ends rfl rfl)

theorem of_added {f : FaceId} (added : m.AddedFace eA.first h₁ eB.second f m') :
    m'.Wheel x a b c h₁ h₂ h₃ eA eB eC where
  sound := added.sound
  spoke₁ := wheel.spoke₁.of_origin? added.origin?
  spoke₂ := wheel.spoke₂.of_origin? added.origin?
  spoke₃ := wheel.spoke₃.of_origin? added.origin?
  chain := wheel.chain.of_origin? added.origin?
  hub := wheel.wedge.ring_hub added wheel.follows_hub wheel.hub

end Wheel

/-! ## Filling a wheel -/

/-- At each corner, the ring without its spoke runs from the side of the hole that leaves the
corner to the one that arrives there. -/
structure Gaps (h₁ h₂ h₃ : HalfedgeId) (la lb lc : List HalfedgeId) : Prop where
  first₁ : la.head? = some h₁
  first₂ : lb.head? = some h₂
  first₃ : lc.head? = some h₃
  last₁ : la.getLast? = some h₃.pair
  last₂ : lb.getLast? = some h₁.pair
  last₃ : lc.getLast? = some h₂.pair

/-- No face has been added yet. -/
structure EmptyWheel (m : Mesh) (x a b c : NodeId) (h₁ h₂ h₃ : HalfedgeId) (eA eB eC : EdgeId)
    (la lb lc : List HalfedgeId) : Prop where
  wheel : m.Wheel x a b c h₁ h₂ h₃ eA eB eC
  loose₁ : m.Loose a la eA.second
  loose₂ : m.Loose b lb eB.second
  loose₃ : m.Loose c lc eC.second
  free_spoke : ∀ h : HalfedgeId, h.edge = eA ∨ h.edge = eB ∨ h.edge = eC → m.Free h
  free₁ : m.Free h₁
  free₂ : m.Free h₂
  free₃ : m.Free h₃

/-- The first face has been added. -/
structure StartedWheel (m : Mesh) (x a b c : NodeId) (h₁ h₂ h₃ : HalfedgeId) (eA eB eC : EdgeId)
    (la lb lc : List HalfedgeId) : Prop where
  wheel : m.Wheel x a b c h₁ h₂ h₃ eA eB eC
  shifted₁ : m.Shifted a la eA.second
  seated₂ : m.Seated b lb eB.second
  loose₃ : m.Loose c lc eC.second
  faced : ¬ m.Free eA.first
  free_back : m.Free eA.second
  free_next : m.Free eB.first
  free_spoke : ∀ h : HalfedgeId, h.edge = eC → m.Free h
  free₂ : m.Free h₂
  free₃ : m.Free h₃

/-- The first two faces have been added. -/
structure AlmostFullWheel (m : Mesh) (x a b c : NodeId) (h₁ h₂ h₃ : HalfedgeId)
    (eA eB eC : EdgeId) (la lb lc : List HalfedgeId) : Prop where
  wheel : m.Wheel x a b c h₁ h₂ h₃ eA eB eC
  shifted₁ : m.Shifted a la eA.second
  seated₂ : m.Seated b lb eB.second
  seated₃ : m.Seated c lc eC.second
  faced : ¬ m.Free eA.first
  free_back : m.Free eA.second
  free_next : m.Free eC.first
  free₃ : m.Free h₃

/-- All three faces have been added. -/
structure FullWheel (m : Mesh) (x a b c : NodeId) (h₁ h₂ h₃ : HalfedgeId) (eA eB eC : EdgeId)
    (la lb lc : List HalfedgeId) : Prop where
  wheel : m.Wheel x a b c h₁ h₂ h₃ eA eB eC
  seated₁ : m.Seated a la eA.second
  seated₂ : m.Seated b lb eB.second
  seated₃ : m.Seated c lc eC.second

section Filling

variable {m m' : Mesh} {x a b c : NodeId} {h₁ h₂ h₃ : HalfedgeId} {eA eB eC : EdgeId}
  {la lb lc : List HalfedgeId} {f : FaceId} (gaps : Gaps h₁ h₂ h₃ la lb lc)

include gaps

theorem EmptyWheel.fits (empty : m.EmptyWheel x a b c h₁ h₂ h₃ eA eB eC la lb lc) :
    m.Fits eA.first h₁ eB.second :=
  empty.wheel.wedge.fits (empty.free_spoke _ (.inl rfl)) empty.free₁
    (empty.free_spoke _ (.inr (.inl rfl))) (empty.loose₁.joinable_out gaps.first₁)
    (empty.loose₂.joinable_into gaps.last₂ (empty.free_spoke _ (.inr (.inl rfl))))
    (.inl empty.wheel.follows_hub)

theorem EmptyWheel.next (empty : m.EmptyWheel x a b c h₁ h₂ h₃ eA eB eC la lb lc)
    (added : m.AddedFace eA.first h₁ eB.second f m') :
    m'.StartedWheel x a b c h₁ h₂ h₃ eA eB eC la lb lc := by
  have wheel := empty.wheel
  have wedge := wheel.wedge
  have hubA := wheel.hub_ne
  have hubB := wheel.rotate.hub_ne
  have hubC := wheel.rotate.rotate.hub_ne
  have freeA := empty.free_spoke eA.second (.inl rfl)
  have freeB := empty.free_spoke eB.first (.inr (.inl rfl))
  have side₁ := wheel.chain.side₁
  have side₂ := wheel.chain.side₂
  have side₃ := wheel.chain.side₃
  refine ⟨wheel.of_added added, wedge.shifted_start added empty.loose₁ gaps.first₁,
    added.seated_end_of_loose empty.loose₂ gaps.last₂ freeB,
    wedge.loose_of_ne added hubC.symm wheel.chain.ca wheel.chain.bc.symm empty.loose₃,
    added.not_free (.inl rfl), ?_, ?_, ?_, ?_, ?_⟩
  · exact (added.free_iff (wheel.spoke₁.pair.ne_of_start wheel.spoke₁ hubA.symm)
      (wheel.spoke₁.pair.ne_of_finish side₁ hubB)
      (wheel.spoke₁.pair.ne_of_start wheel.spoke₂.pair wheel.chain.ab)).2 freeA
  · exact (added.free_iff (wheel.spoke₂.ne_of_finish wheel.spoke₁ wheel.chain.ab.symm)
      (wheel.spoke₂.ne_of_start side₁ hubA)
      (wheel.spoke₂.ne_of_start wheel.spoke₂.pair hubB)).2 freeB
  · intro h same
    have free := empty.free_spoke h (.inr (.inr same))
    rcases edge_eq_iff.1 same with rfl | rfl
    · exact (added.free_iff (wheel.spoke₃.ne_of_finish wheel.spoke₁ wheel.chain.ca)
        (wheel.spoke₃.ne_of_start side₁ hubA)
        (wheel.spoke₃.ne_of_start wheel.spoke₂.pair hubB)).2 free
    · exact (added.free_iff (wheel.spoke₃.pair.ne_of_start wheel.spoke₁ hubC.symm)
        (wheel.spoke₃.pair.ne_of_finish side₁ hubB)
        (wheel.spoke₃.pair.ne_of_start wheel.spoke₂.pair wheel.chain.bc.symm)).2 free
  · exact (added.free_iff (side₂.ne_of_start wheel.spoke₁ hubB.symm)
      (side₂.ne_of_start side₁ wheel.chain.ab.symm)
      (side₂.ne_of_finish wheel.spoke₂.pair hubC.symm)).2 empty.free₂
  · exact (added.free_iff (side₃.ne_of_start wheel.spoke₁ hubC.symm)
      (side₃.ne_of_start side₁ wheel.chain.ca)
      (side₃.ne_of_start wheel.spoke₂.pair wheel.chain.bc.symm)).2 empty.free₃

theorem StartedWheel.fits (started : m.StartedWheel x a b c h₁ h₂ h₃ eA eB eC la lb lc) :
    m.Fits eB.first h₂ eC.second :=
  started.wheel.rotate.wedge.fits started.free_next started.free₂ (started.free_spoke _ rfl)
    (.inl (started.seated₂.follows_first gaps.first₂))
    (started.loose₃.joinable_into gaps.last₃ (started.free_spoke _ rfl))
    (.inl started.wheel.rotate.follows_hub)

theorem StartedWheel.next (started : m.StartedWheel x a b c h₁ h₂ h₃ eA eB eC la lb lc)
    (added : m.AddedFace eB.first h₂ eC.second f m') :
    m'.AlmostFullWheel x a b c h₁ h₂ h₃ eA eB eC la lb lc := by
  have wheel := started.wheel
  have turned := wheel.rotate
  have wedge := turned.wedge
  have hubA := wheel.hub_ne
  have hubB := turned.hub_ne
  have hubC := turned.rotate.hub_ne
  have side₂ := wheel.chain.side₂
  have side₃ := wheel.chain.side₃
  have freeC : m.Free eC.first := started.free_spoke _ rfl
  have toC : m.AddedFace eB.first h₂ eC.first.pair f m' := added
  have seated₂ : m'.Seated b lb eB.first.pair :=
    toC.seated_start started.seated₂ gaps.first₂
  refine ⟨(turned.of_added added).rotate.rotate,
    wedge.shifted_of_ne added hubA.symm wheel.chain.ab wheel.chain.ca.symm started.shifted₁,
    seated₂, added.seated_end_of_loose started.loose₃ gaps.last₃ freeC,
    ?_, ?_, ?_, ?_⟩
  · rw [added.free_iff (wheel.spoke₁.ne_of_finish wheel.spoke₂ wheel.chain.ab)
      (wheel.spoke₁.ne_of_start side₂ hubB) (wheel.spoke₁.ne_of_start wheel.spoke₃.pair hubC)]
    exact started.faced
  · exact (added.free_iff (wheel.spoke₁.pair.ne_of_start wheel.spoke₂ hubA.symm)
      (wheel.spoke₁.pair.ne_of_finish side₂ hubC)
      (wheel.spoke₁.pair.ne_of_start wheel.spoke₃.pair wheel.chain.ca.symm)).2 started.free_back
  · exact (added.free_iff (wheel.spoke₃.ne_of_finish wheel.spoke₂ wheel.chain.bc.symm)
      (wheel.spoke₃.ne_of_start side₂ hubB)
      (wheel.spoke₃.ne_of_start wheel.spoke₃.pair hubC)).2 freeC
  · exact (added.free_iff (side₃.ne_of_start wheel.spoke₂ hubC.symm)
      (side₃.ne_of_start side₂ wheel.chain.bc.symm)
      (side₃.ne_of_finish wheel.spoke₃.pair hubA.symm)).2 started.free₃

theorem AlmostFullWheel.fits (full : m.AlmostFullWheel x a b c h₁ h₂ h₃ eA eB eC la lb lc) :
    m.Fits eC.first h₃ eA.second :=
  full.wheel.rotate.rotate.wedge.fits full.free_next full.free₃ full.free_back
    (.inl (full.seated₃.follows_first gaps.first₃)) (full.shifted₁.joinable gaps.last₁ full.faced)
    (.inl full.wheel.rotate.rotate.follows_hub)

theorem AlmostFullWheel.next (full : m.AlmostFullWheel x a b c h₁ h₂ h₃ eA eB eC la lb lc)
    (added : m.AddedFace eC.first h₃ eA.second f m') :
    m'.FullWheel x a b c h₁ h₂ h₃ eA eB eC la lb lc := by
  have turned := full.wheel.rotate.rotate
  have wedge := turned.wedge
  have seated₂ : m'.Seated b lb eB.second :=
    wedge.ring_of_ne added full.wheel.rotate.hub_ne.symm full.wheel.chain.bc
      full.wheel.chain.ab.symm full.seated₂
  have toA : m.AddedFace eC.first h₃ eA.first.pair f m' := added
  have seated₃ : m'.Seated c lc eC.first.pair :=
    toA.seated_start full.seated₃ gaps.first₃
  exact ⟨(turned.of_added added).rotate,
    added.seated_end_of_shifted full.shifted₁ gaps.last₁ full.faced, seated₂, seated₃⟩

end Filling

/-! ## Holes -/

/-- A loop of three half-edges without a face, and the rings of its corners. -/
structure Hole (m : Mesh) (a b c : NodeId) (h₁ h₂ h₃ : HalfedgeId) (la lb lc : List HalfedgeId) :
    Prop where
  sound : m.Sound
  chain : m.Chain h₁ h₂ h₃ a b c
  gaps : Gaps h₁ h₂ h₃ la lb lc
  ring₁ : m.Ring a ↑la
  ring₂ : m.Ring b ↑lb
  ring₃ : m.Ring c ↑lc
  free₁ : m.Free h₁
  free₂ : m.Free h₂
  free₃ : m.Free h₃

/-- `m'` is `m` with a hole filled by three faces around the node `x`. -/
structure FilledHole (m : Mesh) (x a b c : NodeId) (h₁ h₂ h₃ : HalfedgeId) (f₁ f₂ f₃ : FaceId)
    (m' : Mesh) : Prop where
  sound : m'.Sound
  grown : m.Grown m'
  nodeCount : m'.nodeCount = m.nodeCount
  edgeCount : m'.edgeCount = m.edgeCount + 3
  faceCount : m'.faceCount = m.faceCount + 3
  node? : ∀ n, n ≠ x → m'.node? n = m.node? n
  faceOf? : ∀ h, m.containsHalfedge h = true → h ≠ h₁ → h ≠ h₂ → h ≠ h₃ →
    m'.faceOf? h = m.faceOf? h
  containsFace : ∀ g, m'.containsFace g = true ↔
    g = f₁ ∨ g = f₂ ∨ g = f₃ ∨ m.containsFace g = true
  faceNodes₁ : m'.faceNodes f₁ = .ok ⟨x, a, b⟩
  faceNodes₂ : m'.faceNodes f₂ = .ok ⟨x, b, c⟩
  faceNodes₃ : m'.faceNodes f₃ = .ok ⟨x, c, a⟩
  hub : ∃ l : List HalfedgeId, m'.Ring x ↑l ∧ List.Forall₂ (fun h n => m'.Leads h x n) l [a, c, b]
  keeps : m.Keeps m' fun g => g.pair = h₁ ∨ g.pair = h₂ ∨ g.pair = h₃

namespace Hole

variable {m m₁ m₂ m₃ m₄ m₅ m₆ : Mesh} {x a b c : NodeId} {h₁ h₂ h₃ : HalfedgeId}
  {la lb lc : List HalfedgeId} {eA eB eC : EdgeId} {f₁ f₂ f₃ : FaceId} {record : Node}
  (hole : m.Hole a b c h₁ h₂ h₃ la lb lc)

include hole

theorem rotate : m.Hole b c a h₂ h₃ h₁ lb lc la where
  sound := hole.sound
  chain := hole.chain.rotate
  gaps := ⟨hole.gaps.first₂, hole.gaps.first₃, hole.gaps.first₁, hole.gaps.last₂, hole.gaps.last₃,
    hole.gaps.last₁⟩
  ring₁ := hole.ring₂
  ring₂ := hole.ring₃
  ring₃ := hole.ring₁
  free₁ := hole.free₂
  free₂ := hole.free₃
  free₃ := hole.free₁

/-- At each corner a side of the hole arrives. -/
theorem room : ∃ h ∈ la, m.Free h.pair :=
  ⟨h₃.pair, List.mem_of_getLast? hole.gaps.last₁, by simpa using hole.free₃⟩

section Spokes

variable (found : m.node? x = some record) (isolated : record.halfedge = none)

include found isolated

theorem ne_of_isolated : x ≠ a := by
  rintro rfl
  exact hole.sound.isolated x record found isolated h₁ hole.chain.side₁.start

theorem connectable₁ : m.Connectable x a where
  live₁ := Option.isSome_iff_exists.2 ⟨record, found⟩
  live₂ := hole.sound.origin_live h₁ a hole.chain.side₁.start
  ne := hole.ne_of_isolated found isolated
  room₁ := not_interior_of_isolated (hole.sound.isolated x record found isolated)
  room₂ := not_interior_of_free hole.chain.side₃.finish (by simpa using hole.free₃)

variable (spoke₁ : m.AddedEdge x a eA m₁)

include spoke₁

theorem connectable₂ : m₁.Connectable x b := by
  have start := (spoke₁.grown hole.sound).origin? _ _ hole.chain.side₁.finish
  refine (spoke₁.hub found isolated).connectable (hole.rotate.ne_of_isolated found isolated)
    (spoke₁.sound.origin_live _ b start) (not_interior_of_free start ?_)
  simpa using spoke₁.free_of_free hole.free₁

variable (spoke₂ : m₁.AddedEdge x b eB m₂)

include spoke₂

theorem connectable₃ : m₂.Connectable x c := by
  have start := ((spoke₁.grown hole.sound).trans (spoke₂.grown spoke₁.sound)).origin? _ _
    hole.chain.side₂.finish
  refine ((spoke₁.hub found isolated).of_added spoke₂).connectable
    (hole.rotate.rotate.ne_of_isolated found isolated) (spoke₂.sound.origin_live _ c start)
    (not_interior_of_free start ?_)
  simpa using spoke₂.free_of_free (spoke₁.free_of_free hole.free₂)

variable (spoke₃ : m₂.AddedEdge x c eC m₃)

include spoke₃

theorem emptyWheel : m₃.EmptyWheel x a b c h₁ h₂ h₃ eA eB eC la lb lc := by
  have xa := hole.ne_of_isolated found isolated
  have xb := hole.rotate.ne_of_isolated found isolated
  have xc := hole.rotate.rotate.ne_of_isolated found isolated
  have chain := hole.chain
  have hub := ((spoke₁.hub found isolated).of_added spoke₂).of_added spoke₃
  have free : ∀ h, m.Free h → m₃.Free h := fun h free =>
    spoke₃.free_of_free (spoke₂.free_of_free (spoke₁.free_of_free free))
  have grown₃ := spoke₃.grown spoke₂.sound
  have grown₂ := (spoke₂.grown spoke₁.sound).trans grown₃
  have grown := (spoke₁.grown hole.sound).trans grown₂
  -- The rings of the later corners wait unchanged.
  have ringB := spoke₁.ring_of_ne b _ xb.symm chain.ab.symm hole.ring₂
  have ringC := spoke₂.ring_of_ne c _ xc.symm chain.bc.symm
    (spoke₁.ring_of_ne c _ xc.symm chain.ca hole.ring₃)
  have loose₁ := spoke₃.loose_of_ne xa.symm chain.ca.symm
    (spoke₂.loose_of_ne xa.symm chain.ab (spoke₁.loose_end hole.sound hole.ring₁ hole.room))
  have loose₂ := spoke₃.loose_of_ne xb.symm chain.bc (spoke₂.loose_end spoke₁.sound ringB
    (hole.rotate.room.imp fun _ room => ⟨room.1, spoke₁.free_of_free room.2⟩))
  have loose₃ := spoke₃.loose_end spoke₂.sound ringC (hole.rotate.rotate.room.imp
    fun _ room => ⟨room.1, spoke₂.free_of_free (spoke₁.free_of_free room.2)⟩)
  refine ⟨⟨spoke₃.sound, grown₂.leads spoke₁.leads, grown₃.leads spoke₂.leads, spoke₃.leads,
    grown.chain chain, hub.ring⟩, loose₁, loose₂, loose₃, ?_, free _ hole.free₁, free _ hole.free₂,
    free _ hole.free₃⟩
  rintro h (new | new | new)
  · exact spoke₃.free_of_free (spoke₂.free_of_free (spoke₁.free_new new))
  · exact spoke₃.free_of_free (spoke₂.free_new new)
  · exact spoke₃.free_new new

variable (face₁ : m₃.AddedFace eA.first h₁ eB.second f₁ m₄)
  (face₂ : m₄.AddedFace eB.first h₂ eC.second f₂ m₅)
  (face₃ : m₅.AddedFace eC.first h₃ eA.second f₃ m₆)

include face₁ face₂ face₃

theorem fullWheel : m₆.FullWheel x a b c h₁ h₂ h₃ eA eB eC la lb lc :=
  (((hole.emptyWheel found isolated spoke₁ spoke₂ spoke₃).next hole.gaps face₁).next hole.gaps
    face₂).next hole.gaps face₃

theorem ring_of_ne {n : NodeId} {ring : Cycle HalfedgeId} (hub : n ≠ x) (otherA : n ≠ a)
    (otherB : n ≠ b) (otherC : n ≠ c) (around : m.Ring n ring) : m₆.Ring n ring := by
  have empty := hole.emptyWheel found isolated spoke₁ spoke₂ spoke₃
  have started := empty.next hole.gaps face₁
  have almost := started.next hole.gaps face₂
  have around₃ := spoke₃.ring_of_ne n _ hub otherC
    (spoke₂.ring_of_ne n _ hub otherB (spoke₁.ring_of_ne n _ hub otherA around))
  have around₄ := empty.wheel.wedge.ring_of_ne face₁ hub otherA otherB around₃
  have around₅ := started.wheel.rotate.wedge.ring_of_ne face₂ hub otherB otherC around₄
  exact almost.wheel.rotate.rotate.wedge.ring_of_ne face₃ hub otherC otherA around₅

/-- Apart from the sides of the hole, all half-edges keep what follows them. -/
theorem keeps : m.Keeps m₆ fun g => g.pair = h₁ ∨ g.pair = h₂ ∨ g.pair = h₃ := by
  intro g k still follows
  have full := hole.fullWheel found isolated spoke₁ spoke₂ spoke₃ face₁ face₂ face₃
  rcases containsHalfedge_iff_origin?.1 follows.live_left with ⟨n, start⟩
  have other : ∀ h : HalfedgeId, g.pair ≠ h → g ≠ h.pair := by
    rintro h differs rfl
    exact differs (HalfedgeId.pair_pair h)
  have hub : n ≠ x := by
    rintro rfl
    exact hole.sound.isolated n record found isolated g start
  by_cases atA : n = a
  · subst atA
    exact full.seated₁.follows_of_ne hole.ring₁ hole.gaps.last₁ start
      (other h₃ fun side => still (.inr (.inr side))) follows
  by_cases atB : n = b
  · subst atB
    exact full.seated₂.follows_of_ne hole.ring₂ hole.gaps.last₂ start
      (other h₁ fun side => still (.inl side)) follows
  by_cases atC : n = c
  · subst atC
    exact full.seated₃.follows_of_ne hole.ring₃ hole.gaps.last₃ start
      (other h₂ fun side => still (.inr (.inl side))) follows
  · rcases hole.sound.exists_ring n with ⟨ring, around⟩
    have around' := hole.ring_of_ne found isolated spoke₁ spoke₂ spoke₃ face₁ face₂ face₃ hub atA
      atB atC around
    have adjacent := (around.follows_iff ((around.mem_iff g).2 start)).1 follows
    exact around'.follows adjacent

omit found isolated in
theorem node?_of_ne {n : NodeId} (hub : n ≠ x) : m₆.node? n = m.node? n := by
  have grown := spoke₁.grown hole.sound
  have startB := grown.origin? _ _ hole.chain.side₂.start
  have startC := (grown.trans (spoke₂.grown spoke₁.sound)).origin? _ _ hole.chain.side₃.start
  rw [face₃.node?, face₂.node?, face₁.node?, spoke₃.node?_of_end spoke₂.sound startC hub,
    spoke₂.node?_of_end spoke₁.sound startB hub,
    spoke₁.node?_of_end hole.sound hole.chain.side₁.start hub]

omit hole found isolated in
theorem faceOf?_of_live {h : HalfedgeId} (live : m.containsHalfedge h = true) (other₁ : h ≠ h₁)
    (other₂ : h ≠ h₂) (other₃ : h ≠ h₃) : m₆.faceOf? h = m.faceOf? h := by
  have live₁ := spoke₁.live_of_live live
  have live₂ := spoke₂.live_of_live live₁
  rw [face₃.faceOf?_of_ne (spoke₃.ne_of_live live₂ rfl) other₃ (spoke₁.ne_of_live live rfl),
    face₂.faceOf?_of_ne (spoke₂.ne_of_live live₁ rfl) other₂ (spoke₃.ne_of_live live₂ rfl),
    face₁.faceOf?_of_ne (spoke₁.ne_of_live live rfl) other₁ (spoke₂.ne_of_live live₁ rfl),
    spoke₃.faceOf?_of_live live₂, spoke₂.faceOf?_of_live live₁, spoke₁.faceOf?_of_live live]

theorem filledHole : m.FilledHole x a b c h₁ h₂ h₃ f₁ f₂ f₃ m₆ := by
  have empty := hole.emptyWheel found isolated spoke₁ spoke₂ spoke₃
  have started := empty.next hole.gaps face₁
  have almost := started.next hole.gaps face₂
  have full := almost.next hole.gaps face₃
  have grown₃ := ((spoke₁.grown hole.sound).trans (spoke₂.grown spoke₁.sound)).trans
    (spoke₃.grown spoke₂.sound)
  have grown₄ := face₁.grown spoke₃.sound (empty.fits hole.gaps)
  have grown₅ := face₂.grown face₁.sound (started.fits hole.gaps)
  have grown₆ := face₃.grown face₂.sound (almost.fits hole.gaps)
  have same₃ : ∀ g, m₃.containsFace g = m.containsFace g := fun g => by
    simp only [containsFace, spoke₃.face?, spoke₂.face?, spoke₁.face?]
  constructor
  case sound => exact face₃.sound
  case grown => exact ((grown₃.trans grown₄).trans grown₅).trans grown₆
  case nodeCount =>
    rw [face₃.nodeCount, face₂.nodeCount, face₁.nodeCount, spoke₃.nodeCount, spoke₂.nodeCount,
      spoke₁.nodeCount]
  case edgeCount =>
    rw [face₃.edgeCount, face₂.edgeCount, face₁.edgeCount, spoke₃.edgeCount, spoke₂.edgeCount,
      spoke₁.edgeCount]
  case faceCount =>
    rw [face₃.faceCount, face₂.faceCount, face₁.faceCount, spoke₃.faceCount, spoke₂.faceCount,
      spoke₁.faceCount]
  case node? =>
    intro n hub
    exact hole.node?_of_ne spoke₁ spoke₂ spoke₃ face₁ face₂ face₃ hub
  case faceOf? =>
    intro h live other₁ other₂ other₃
    exact faceOf?_of_live spoke₁ spoke₂ spoke₃ face₁ face₂ face₃ live other₁ other₂ other₃
  case containsFace =>
    intro g
    rw [face₃.containsFace, face₂.containsFace, face₁.containsFace, same₃]
    tauto
  case faceNodes₁ =>
    have wheel := started.wheel
    exact (grown₅.trans grown₆).faceNodes_of_chain face₁.found face₁.triangle wheel.spoke₁.start
      wheel.chain.side₁.start wheel.spoke₂.finish
  case faceNodes₂ =>
    have wheel := almost.wheel
    exact grown₆.faceNodes_of_chain face₂.found face₂.triangle wheel.spoke₂.start
      wheel.chain.side₂.start wheel.spoke₃.finish
  case faceNodes₃ =>
    have wheel := full.wheel
    exact (Grown.refl _).faceNodes_of_chain face₃.found face₃.triangle wheel.spoke₃.start
      wheel.chain.side₃.start wheel.spoke₁.finish
  case hub =>
    have wheel := full.wheel
    exact ⟨_, wheel.hub, .cons wheel.spoke₁ (.cons wheel.spoke₃ (.cons wheel.spoke₂ .nil))⟩
  case keeps =>
    exact hole.keeps found isolated spoke₁ spoke₂ spoke₃ face₁ face₂ face₃

end Spokes

end Hole

end Mesh

end PlanarMesh
