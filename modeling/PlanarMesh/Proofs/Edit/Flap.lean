import PlanarMesh.Proofs.Edit.Hub
import PlanarMesh.Proofs.Edit.Wedge

/-!
# Flaps

When an edge with a face on one of its sides is split, two faces take the place of that face.
Both stand on a new spoke to its apex; with the spokes to the two ends of the edge they make up
a `Flap`.  Folding a flap in is never refused, however the spokes stand (`Folded`).

The first of the two faces lies in front of the gap of the end of the edge, and the second one
behind the gap of its start.  What was moved along with a spoke when the flap of the other side
was folded in comes back here, so after two flaps every spoke is in its gap.
-/

namespace PlanarMesh

namespace Mesh

/-! ## Corners and hub -/

/-- The spoke `p` can be brought in front of the gap. -/
inductive Leaving (m : Mesh) (n : NodeId) (l : List HalfedgeId) (p : HalfedgeId) : Prop
  | loose (loose : m.Loose n l p)
  | seated (seated : m.Seated n l p)

/-- The spoke `p` can be brought behind the gap. -/
inductive Arriving (m : Mesh) (n : NodeId) (l : List HalfedgeId) (p : HalfedgeId) : Prop
  | loose (loose : m.Loose n l p) (free : m.Free p.pair)
  | shifted (shifted : m.Shifted n l p) (faced : ¬ m.Free p.pair)

/-- The spokes `s`, `r` and `t` follow each other at the hub, before those of `l`, or they can be
brought into this order. -/
inductive Spread (m : Mesh) (x : NodeId) (s r t : HalfedgeId) : List HalfedgeId → Prop
  | ordered {l : List HalfedgeId} (around : m.Ring x ↑(s :: r :: t :: l)) : Spread m x s r t l
  | crossed (around : m.Ring x ↑[t, r, s]) (free : m.Free t.pair) : Spread m x s r t []

section Corners

variable {m m' : Mesh} {n : NodeId} {l : List HalfedgeId} {p q h : HalfedgeId}

theorem Leaving.joinable (leaving : m.Leaving n l p) (first : l.head? = some h) :
    m.Joinable p h := by
  cases leaving with
  | loose loose => exact loose.joinable_out first
  | seated seated => exact .inl (seated.follows_first first)

theorem Arriving.joinable (arriving : m.Arriving n l p) (last : l.getLast? = some q) :
    m.Joinable q p := by
  cases arriving with
  | loose loose free => exact loose.joinable_into last free
  | shifted shifted faced => exact shifted.joinable last faced

theorem Arriving.seated (arriving : m.Arriving n l p) (last : l.getLast? = some q)
    (corner : m.Corner q p m') : m'.Seated n l p := by
  cases arriving with
  | loose loose free => exact loose.seated last free corner
  | shifted shifted faced => exact shifted.seated last faced corner

variable {x : NodeId} {s r t : HalfedgeId}

theorem Spread.joinable (spread : m.Spread x s r t l) : m.Joinable r t := by
  cases spread with
  | ordered around => exact .inl (around.follows (Cycle.adjacent_cons_cons [s] l r t))
  | crossed around free => exact .inr ⟨x, [t], [s], around, rfl, t, by simp, free⟩

/-- The face between `t` and `r` brings the spokes into their order. -/
theorem Spread.ring_of_corner (spread : m.Spread x s r t l) (corner : m.Corner r t m') :
    m'.Ring x ↑(s :: r :: t :: l) := by
  cases spread with
  | ordered around =>
    exact corner.ring_of_rel around (around.follows (Cycle.adjacent_cons_cons [s] l r t)) (by simp)
  | crossed around free =>
    have moved := corner.ring x [t] [s] [] t [] around rfl ⟨rfl, by simp, free⟩
    rwa [show [] ++ t :: ([s] ++ [] ++ [r]) = [t] ++ [s, r] by simp, Cycle.coe_append_comm] at moved

end Corners

/-! ## Flaps -/

/-- `m'` is `m` with a flap folded in: a spoke `e` to the apex and the faces `f₁` and `f₂`. -/
structure Folded (m : Mesh) (x u v w : NodeId) (s t h₁ h₂ : HalfedgeId) (lu lv k : List HalfedgeId)
    (e : EdgeId) (f₁ f₂ : FaceId) (m' : Mesh) : Prop where
  sound : m'.Sound
  grown : m.Grown m'
  nodeCount : m'.nodeCount = m.nodeCount
  edgeCount : m'.edgeCount = m.edgeCount + 1
  faceCount : m'.faceCount = m.faceCount + 2
  containsFace : ∀ g, m'.containsFace g = true ↔ g = f₁ ∨ g = f₂ ∨ m.containsFace g = true
  faceNodes₁ : m'.faceNodes f₁ = .ok ⟨x, v, w⟩
  faceNodes₂ : m'.faceNodes f₂ = .ok ⟨x, w, u⟩
  spoke : m'.Leads e.first x w
  hub : m'.Ring x ↑(s :: e.first :: t :: k)
  seated_start : m'.Seated u lu s.pair
  shifted_end : m.Loose v lv t.pair → m'.Shifted v lv t.pair
  seated_end : m.Seated v lv t.pair → m'.Seated v lv t.pair
  follows : ∀ g g' n, m.origin? g = some n → n ≠ x → n ≠ u → n ≠ v → g ≠ h₁.pair →
    m.Follows g g' → m'.Follows g g'
  faceOf? : ∀ h, m.containsHalfedge h = true → h ≠ t → h ≠ h₁ → h ≠ h₂ → h ≠ s.pair →
    m'.faceOf? h = m.faceOf? h
  free_iff : ∀ h, m'.Free h ↔ m.Free h ∧ h ≠ t ∧ h ≠ h₁ ∧ h ≠ h₂ ∧ h ≠ s.pair
  faced : ¬ m'.Free e.second

section Folded

variable {m m' : Mesh} {x u v w : NodeId} {s t h₁ h₂ : HalfedgeId} {lu lv k : List HalfedgeId}
  {e : EdgeId} {f₁ f₂ : FaceId} (folded : m.Folded x u v w s t h₁ h₂ lu lv k e f₁ f₂ m')

include folded

theorem Folded.not_free_start : ¬ m'.Free s.pair := fun free =>
  ((folded.free_iff s.pair).1 free).2.2.2.2 rfl

theorem Folded.not_free_end : ¬ m'.Free t := fun free =>
  ((folded.free_iff t).1 free).2.1 rfl

end Folded

/-- The spokes `s` and `t` lead to the start `u` and the end `v` of the edge that is split; from
`v` the sides `h₁` and `h₂` of the old face lead over the apex `w` back to `u`. -/
structure Flap (m : Mesh) (x u v w : NodeId) (s t h₁ h₂ : HalfedgeId) (l : List HalfedgeId) :
    Prop where
  sound : m.Sound
  spoke₁ : m.Leads s x u
  spoke₂ : m.Leads t x v
  side₁ : m.Leads h₁ v w
  side₂ : m.Leads h₂ w u
  ends : u ≠ v
  hub : x ≠ w
  around : m.Ring w ↑l
  first : l.head? = some h₂
  last : l.getLast? = some h₁.pair
  free₁ : m.Free h₁
  free₂ : m.Free h₂
  free_back : m.Free s.pair
  free_end : m.Free t

namespace Flap

variable {m m' m₁ m₂ m₃ : Mesh} {x u v w n : NodeId} {s t h₁ h₂ : HalfedgeId}
  {l lu lv : List HalfedgeId} {e : EdgeId} {f₁ f₂ : FaceId} {k : List HalfedgeId}
  (flap : m.Flap x u v w s t h₁ h₂ l)

include flap

theorem hub_start : x ≠ u :=
  flap.sound.ends_ne_of_leads flap.spoke₁

theorem hub_end : x ≠ v :=
  flap.sound.ends_ne_of_leads flap.spoke₂

theorem end_apex : v ≠ w :=
  flap.sound.ends_ne_of_leads flap.side₁

theorem apex_start : w ≠ u :=
  flap.sound.ends_ne_of_leads flap.side₂

theorem connectable : m.Connectable x w where
  live₁ := flap.sound.origin_live s x flap.spoke₁.start
  live₂ := flap.sound.origin_live h₂ w flap.side₂.start
  ne := flap.hub
  room₁ := not_interior_of_free flap.spoke₁.start flap.free_back
  room₂ := not_interior_of_free flap.side₁.finish (by simpa using flap.free₁)

section Folding

variable (spoke : m.AddedEdge x w e m₁)

include spoke

/-- The first face lies between the spokes to the end and to the apex. -/
theorem wedge₁ : m₁.Wedge x v w t h₁ e.first where
  spoke := (spoke.grown flap.sound).leads flap.spoke₂
  side := (spoke.grown flap.sound).leads flap.side₁
  spoke' := spoke.leads
  hub_ne := flap.hub_end
  ne := flap.end_apex

theorem loose_apex : m₁.Loose w l e.second :=
  spoke.loose_end flap.sound flap.around
    ⟨h₁.pair, List.mem_of_getLast? flap.last, by simpa using flap.free₁⟩

theorem fits₁ (leaving : m.Leaving v lv t.pair) (first : lv.head? = some h₁)
    (spread : m₁.Spread x s e.first t k) : m₁.Fits t h₁ e.second := by
  have leaving₁ : m₁.Leaving v lv t.pair := by
    cases leaving with
    | loose loose => exact .loose (spoke.loose_of_ne flap.hub_end.symm flap.end_apex loose)
    | seated seated =>
      exact .seated (spoke.ring_of_ne v _ flap.hub_end.symm flap.end_apex seated)
  exact (flap.wedge₁ spoke).fits (spoke.free_of_free flap.free_end)
    (spoke.free_of_free flap.free₁) (spoke.free_new rfl) (leaving₁.joinable first)
    ((flap.loose_apex spoke).joinable_into flap.last (spoke.free_new rfl)) spread.joinable

variable (face₁ : m₁.AddedFace t h₁ e.second f₁ m₂)

include face₁

/-- The second face lies between the spokes to the apex and to the start. -/
theorem wedge₂ : m₂.Wedge x w u e.first h₂ s where
  spoke := (flap.wedge₁ spoke).spoke'.of_origin? face₁.origin?
  side := ((spoke.grown flap.sound).leads flap.side₂).of_origin? face₁.origin?
  spoke' := ((spoke.grown flap.sound).leads flap.spoke₁).of_origin? face₁.origin?
  hub_ne := flap.hub
  ne := flap.apex_start

theorem seated_apex₁ : m₂.Seated w l e.second := by
  have face : m₁.AddedFace t h₁ e.first.pair f₁ m₂ := face₁
  exact face.seated_end_of_loose (flap.loose_apex spoke) flap.last (spoke.free_new rfl)

omit flap spoke in
theorem ring_hub₁ (spread : m₁.Spread x s e.first t k) :
    m₂.Ring x ↑(s :: e.first :: t :: k) := by
  have corner : m₁.Corner e.second.pair t m₂ := face₁.corner₃
  exact spread.ring_of_corner corner

omit flap spoke in
theorem follows_hub (spread : m₁.Spread x s e.first t k) : m₂.Follows s e.first :=
  (ring_hub₁ face₁ spread).follows (Cycle.adjacent_cons_cons [] (t :: k) s e.first)

omit flap in
/-- Off the first face the same half-edges are free as before. -/
theorem free_iff₁ {h : HalfedgeId} (live : m.containsHalfedge h = true) (other₁ : h ≠ t)
    (other₂ : h ≠ h₁) : m₂.Free h ↔ m.Free h := by
  rw [face₁.free_iff other₁ other₂ (spoke.ne_of_live live rfl), spoke.free_iff (spoke.edge_ne live)]

theorem free_start₁ : m₂.Free s ↔ m.Free s :=
  free_iff₁ spoke face₁ flap.spoke₁.live (flap.spoke₁.ne_of_finish flap.spoke₂ flap.ends)
    (flap.spoke₁.ne_of_start flap.side₁ flap.hub_end)

theorem arriving₂ (arriving : m.Arriving u lu s.pair) : m₂.Arriving u lu s.pair := by
  have wedge₁ := flap.wedge₁ spoke
  have kept := flap.free_start₁ spoke face₁
  rw [← s.pair_pair] at kept
  cases arriving with
  | loose loose free =>
    have loose₁ := spoke.loose_of_ne flap.hub_start.symm flap.apex_start.symm loose
    exact .loose (wedge₁.loose_of_ne face₁ flap.hub_start.symm flap.ends flap.apex_start.symm
      loose₁) (kept.2 free)
  | shifted shifted faced =>
    have shifted₁ := spoke.shifted_of_ne flap.hub_start.symm flap.apex_start.symm shifted
    exact .shifted (wedge₁.shifted_of_ne face₁ flap.hub_start.symm flap.ends flap.apex_start.symm
      shifted₁) (mt kept.1 faced)

theorem fits₂ (spread : m₁.Spread x s e.first t k) (arriving : m.Arriving u lu s.pair)
    (last : lu.getLast? = some h₂.pair) : m₂.Fits e.first h₂ s.pair := by
  have free_spoke : m₂.Free e.first := by
    refine (face₁.free_iff ?_ ?_ (first_ne_second e)).2 (spoke.free_new rfl)
    · exact (spoke.ne_of_live flap.spoke₂.live rfl).symm
    · exact (spoke.ne_of_live flap.side₁.live rfl).symm
  have free_side : m₂.Free h₂ :=
    (free_iff₁ spoke face₁ flap.side₂.live (flap.side₂.ne_of_start flap.spoke₂ flap.hub.symm)
      (flap.side₂.ne_of_start flap.side₁ flap.end_apex.symm)).2 flap.free₂
  have free_back : m₂.Free s.pair :=
    (free_iff₁ spoke face₁ flap.spoke₁.pair.live
      (flap.spoke₁.pair.ne_of_start flap.spoke₂ flap.hub_start.symm)
      (flap.spoke₁.pair.ne_of_start flap.side₁ flap.ends)).2 flap.free_back
  exact (flap.wedge₂ spoke face₁).fits free_spoke free_side free_back
    (.inl ((flap.seated_apex₁ spoke face₁).follows_first flap.first))
    ((flap.arriving₂ spoke face₁ arriving).joinable last) (.inl (follows_hub face₁ spread))

variable (face₂ : m₂.AddedFace e.first h₂ s.pair f₂ m₃)

include face₂

theorem seated_apex : m₃.Seated w l e.second := by
  have seated : m₂.Seated w l e.first.pair := flap.seated_apex₁ spoke face₁
  exact face₂.seated_start seated flap.first

theorem ring_of_ne (hub : n ≠ x) (start : n ≠ u) (finish : n ≠ v) (apex : n ≠ w)
    {ring : Cycle HalfedgeId} (around : m.Ring n ring) : m₃.Ring n ring :=
  (flap.wedge₂ spoke face₁).ring_of_ne face₂ hub apex start
    ((flap.wedge₁ spoke).ring_of_ne face₁ hub finish apex (spoke.ring_of_ne n ring hub apex around))

theorem follows_of_ne {g g' : HalfedgeId} (start : m.origin? g = some n) (hub : n ≠ x)
    (other₁ : n ≠ u) (other₂ : n ≠ v) (other : g ≠ h₁.pair) (follows : m.Follows g g') :
    m₃.Follows g g' := by
  by_cases apex : n = w
  · subst apex
    exact (flap.seated_apex spoke face₁ face₂).follows_of_ne flap.around flap.last start other
      follows
  · rcases flap.sound.exists_ring n with ⟨ring, around⟩
    have around' := flap.ring_of_ne spoke face₁ face₂ hub other₁ other₂ apex around
    exact around'.follows ((around.follows_iff ((around.mem_iff g).2 start)).1 follows)

theorem shifted_end (first : lv.head? = some h₁) (loose : m.Loose v lv t.pair) :
    m₃.Shifted v lv t.pair := by
  have loose₁ := spoke.loose_of_ne flap.hub_end.symm flap.end_apex loose
  have shifted₂ := (flap.wedge₁ spoke).shifted_start face₁ loose₁ first
  exact (flap.wedge₂ spoke face₁).shifted_of_ne face₂ flap.hub_end.symm flap.end_apex
    flap.ends.symm shifted₂

theorem seated_end (first : lv.head? = some h₁) (seated : m.Seated v lv t.pair) :
    m₃.Seated v lv t.pair := by
  have face : m₁.AddedFace t h₁ e.first.pair f₁ m₂ := face₁
  have seated₁ : m₁.Seated v lv t.pair :=
    spoke.ring_of_ne v _ flap.hub_end.symm flap.end_apex seated
  have seated₂ := face.seated_start seated₁ first
  exact (flap.wedge₂ spoke face₁).ring_of_ne face₂ flap.hub_end.symm flap.end_apex flap.ends.symm
    seated₂

omit flap spoke in
/-- Folding in a flap puts faces on the new spoke, the sides of the flap and the inner sides of
the old spokes. -/
theorem not_free_of_side {h : HalfedgeId} (side : h = t ∨ h = h₁ ∨ h = h₂ ∨ h = s.pair ∨
    h.edge = e) : ¬ m₃.Free h := by
  intro free
  have free₂ : m₂.Free h := by
    by_contra faced
    have off : ¬ (h = e.first ∨ h = h₂ ∨ h = s.pair) := fun side => face₂.not_free side free
    rw [Free, face₂.faceOf?, if_neg off] at free
    exact faced free
  rcases side with rfl | rfl | rfl | rfl | new
  · exact face₁.not_free (.inl rfl) free₂
  · exact face₁.not_free (.inr (.inl rfl)) free₂
  · exact face₂.not_free (.inr (.inl rfl)) free
  · exact face₂.not_free (.inr (.inr rfl)) free
  · rcases edge_eq_iff.1 new with rfl | rfl
    · exact face₂.not_free (.inl rfl) free
    · exact face₁.not_free (.inr (.inr rfl)) free₂

omit flap in
theorem free_iff (h : HalfedgeId) :
    m₃.Free h ↔ m.Free h ∧ h ≠ t ∧ h ≠ h₁ ∧ h ≠ h₂ ∧ h ≠ s.pair := by
  by_cases side : h = t ∨ h = h₁ ∨ h = h₂ ∨ h = s.pair ∨ h.edge = e
  · constructor
    · exact fun free => absurd free (not_free_of_side face₁ face₂ side)
    · rintro ⟨free, ne₁, ne₂, ne₃, ne₄⟩
      rcases side with same | same | same | same | new
      · exact absurd same ne₁
      · exact absurd same ne₂
      · exact absurd same ne₃
      · exact absurd same ne₄
      · exact absurd new (spoke.edge_ne (containsHalfedge_iff_faceOf?.2 ⟨none, free⟩))
  · simp only [not_or] at side
    rcases side with ⟨ne₁, ne₂, ne₃, ne₄, old⟩
    have first : h ≠ e.first := fun same => old (same ▸ rfl)
    have second : h ≠ e.second := fun same => old (same ▸ rfl)
    rw [face₂.free_iff first ne₃ ne₄, face₁.free_iff ne₁ ne₂ second, spoke.free_iff old]
    simp [ne₁, ne₂, ne₃, ne₄]

theorem folded (leaving : m.Leaving v lv t.pair) (first : lv.head? = some h₁)
    (arriving : m.Arriving u lu s.pair) (last : lu.getLast? = some h₂.pair)
    (spread : m₁.Spread x s e.first t k) :
    m.Folded x u v w s t h₁ h₂ lu lv k e f₁ f₂ m₃ := by
  have wedge₂ := flap.wedge₂ spoke face₁
  have grown₁ := spoke.grown flap.sound
  have grown₂ := face₁.grown spoke.sound (flap.fits₁ spoke leaving first spread)
  have grown₃ := face₂.grown face₁.sound (flap.fits₂ spoke face₁ spread arriving last)
  constructor
  case sound => exact face₂.sound
  case grown => exact (grown₁.trans grown₂).trans grown₃
  case nodeCount => rw [face₂.nodeCount, face₁.nodeCount, spoke.nodeCount]
  case edgeCount => rw [face₂.edgeCount, face₁.edgeCount, spoke.edgeCount]
  case faceCount => rw [face₂.faceCount, face₁.faceCount, spoke.faceCount]
  case containsFace =>
    intro g
    rw [face₂.containsFace, face₁.containsFace, Mesh.containsFace, spoke.face?, ← Mesh.containsFace]
    tauto
  case faceNodes₁ =>
    exact grown₃.faceNodes_of_chain face₁.found face₁.triangle
      (grown₂.origin? _ _ (grown₁.origin? _ _ flap.spoke₂.start))
      (grown₂.origin? _ _ (grown₁.origin? _ _ flap.side₁.start)) wedge₂.spoke.finish
  case faceNodes₂ =>
    exact (Grown.refl _).faceNodes_of_chain face₂.found face₂.triangle
      (grown₃.origin? _ _ wedge₂.spoke.start) (grown₃.origin? _ _ wedge₂.side.start)
      (grown₃.origin? _ _ wedge₂.spoke'.finish)
  case spoke => exact grown₃.leads wedge₂.spoke
  case hub => exact wedge₂.ring_hub face₂ (follows_hub face₁ spread) (ring_hub₁ face₁ spread)
  case seated_start => exact (flap.arriving₂ spoke face₁ arriving).seated last face₂.corner₂
  case shifted_end => exact flap.shifted_end spoke face₁ face₂ first
  case seated_end => exact flap.seated_end spoke face₁ face₂ first
  case follows =>
    intro g g' n start hub other₁ other₂ other
    exact flap.follows_of_ne spoke face₁ face₂ start hub other₁ other₂ other
  case faceOf? =>
    intro h live other₁ other₂ other₃ other₄
    rw [face₂.faceOf?_of_ne (spoke.ne_of_live live rfl) other₃ other₄,
      face₁.faceOf?_of_ne other₁ other₂ (spoke.ne_of_live live rfl), spoke.faceOf?_of_live live]
  case free_iff => exact free_iff spoke face₁ face₂
  case faced => exact not_free_of_side face₁ face₂ (.inr (.inr (.inr (.inr rfl))))

end Folding

/-! ## The flap of the other side -/

/-- The sides of the spokes that do not belong to the flap are as before. -/
theorem faceOf?_spoke (folded : m.Folded x u v w s t h₁ h₂ lu lv k e f₁ f₂ m') {h : HalfedgeId}
    (side : h = s ∨ h = t.pair) : m'.faceOf? h = m.faceOf? h := by
  have spokeS := flap.spoke₁
  have spokeT := flap.spoke₂
  rcases side with rfl | rfl
  · exact folded.faceOf? _ spokeS.live (spokeS.ne_of_finish spokeT flap.ends)
      (spokeS.ne_of_start flap.side₁ flap.hub_end) (spokeS.ne_of_start flap.side₂ flap.hub)
      (spokeS.ne_of_start spokeS.pair flap.hub_start)
  · exact folded.faceOf? _ spokeT.pair.live (spokeT.pair.ne_of_start spokeT flap.hub_end.symm)
      (spokeT.pair.ne_of_finish flap.side₁ flap.hub)
      (spokeT.pair.ne_of_finish flap.side₂ flap.hub_start)
      (spokeT.pair.ne_of_start spokeS.pair flap.ends.symm)

/-- The sides of two flaps of one edge are different half-edges, and so are its spokes. -/
theorem faceOf?_other {w' : NodeId} {k₁ k₂ : HalfedgeId} {l' : List HalfedgeId}
    (other : m.Flap x v u w' t s k₁ k₂ l')
    (folded : m.Folded x u v w s t h₁ h₂ lu lv k e f₁ f₂ m') {h : HalfedgeId}
    (side : h = k₁ ∨ h = k₂ ∨ h = s ∨ h = t.pair) : m'.faceOf? h = m.faceOf? h := by
  have xv := flap.hub_end
  have wu := flap.apex_start
  rcases side with rfl | rfl | spoke
  · have side := other.side₁
    exact folded.faceOf? _ side.live (side.ne_of_start flap.spoke₂ flap.hub_start.symm)
      (side.ne_of_start flap.side₁ flap.ends) (side.ne_of_start flap.side₂ wu.symm)
      (side.ne_of_finish flap.spoke₁.pair other.hub.symm)
  · have side := other.side₂
    exact folded.faceOf? _ side.live (side.ne_of_start flap.spoke₂ other.hub.symm)
      (side.ne_of_finish flap.side₁ flap.end_apex) (side.ne_of_finish flap.side₂ flap.ends.symm)
      (side.ne_of_finish flap.spoke₁.pair xv.symm)
  · exact flap.faceOf?_spoke folded spoke

/-- Folding in one flap leaves the other one ready. -/
theorem exists_other {w' : NodeId} {k₁ k₂ : HalfedgeId} {l' : List HalfedgeId}
    (other : m.Flap x v u w' t s k₁ k₂ l')
    (folded : m.Folded x u v w s t h₁ h₂ lu lv k e f₁ f₂ m') :
    ∃ l'', m'.Flap x v u w' t s k₁ k₂ l'' := by
  have same : ∀ h, (h = k₁ ∨ h = k₂ ∨ h = s ∨ h = t.pair) → (m'.Free h ↔ m.Free h) := by
    intro h side
    rw [Free, flap.faceOf?_other other folded side, Free]
  have leads : ∀ {h a b}, m.Leads h a b → m'.Leads h a b := folded.grown.leads
  have apart : k₁.pair ≠ h₁.pair := fun equal =>
    other.side₁.ne_of_start flap.side₁ flap.ends (HalfedgeId.pair_injective equal)
  have before : m.Follows k₁.pair k₂ :=
    other.around.follows (Cycle.adjacent_of_ends other.last other.first)
  have after := folded.follows _ _ w' other.side₁.finish other.hub.symm other.end_apex.symm
    other.apex_start apart before
  rcases folded.sound.exists_gap after (leads other.side₂).start with ⟨l'', around, first, last⟩
  exact ⟨l'', folded.sound, leads other.spoke₁, leads other.spoke₂, leads other.side₁,
    leads other.side₂, other.ends, other.hub, around, first, last,
    (same _ (.inl rfl)).2 other.free₁, (same _ (.inr (.inl rfl))).2 other.free₂,
    (same _ (.inr (.inr (.inr rfl)))).2 other.free_back,
    (same _ (.inr (.inr (.inl rfl)))).2 other.free_end⟩

end Flap

end Mesh

end PlanarMesh
