import PlanarMesh.Proofs.Splice.Spoke

/-!
# Faces between spokes

A face between two spokes `s` and `s'` of a hub `x` has a half-edge `h`, from the end of `s` to
the end of `s'`, as its third side.  What adding it does is told corner by corner: the hub has
the spokes as neighbours already, or else gets them; at the start of `h` the spoke moves in front
of `h`, and at its end the other spoke moves behind `h`.
-/

namespace PlanarMesh

namespace Mesh

/-- Two spokes of a hub, and a half-edge between their ends. -/
structure Wedge (m : Mesh) (x v v' : NodeId) (s h s' : HalfedgeId) : Prop where
  spoke : m.Leads s x v
  side : m.Leads h v v'
  spoke' : m.Leads s' x v'
  hub_ne : x ≠ v
  ne : v ≠ v'

section Corners

variable {m m' : Mesh} {s h s' : HalfedgeId} {f : FaceId} {n : NodeId} {l : List HalfedgeId}
  (added : m.AddedFace s h s'.pair f m')

include added

theorem AddedFace.seated_start (seated : m.Seated n l s.pair) (first : l.head? = some h) :
    m'.Seated n l s.pair :=
  seated.of_corner first added.corner₁

theorem AddedFace.seated_end_of_loose (loose : m.Loose n l s'.pair)
    (last : l.getLast? = some h.pair) (free : m.Free s') : m'.Seated n l s'.pair :=
  loose.seated last (by rwa [HalfedgeId.pair_pair]) added.corner₂

theorem AddedFace.seated_end_of_shifted (shifted : m.Shifted n l s'.pair)
    (last : l.getLast? = some h.pair) (faced : ¬ m.Free s') : m'.Seated n l s'.pair :=
  shifted.seated last (by rwa [HalfedgeId.pair_pair]) added.corner₂

end Corners

namespace Wedge

variable {m m' : Mesh} {x v v' : NodeId} {s h s' : HalfedgeId} {f : FaceId}
  (wedge : m.Wedge x v v' s h s')

include wedge

theorem fits (free_s : m.Free s) (free_h : m.Free h) (free_s' : m.Free s'.pair)
    (joinable : m.Joinable s.pair h) (joinable' : m.Joinable h.pair s'.pair)
    (hub : m.Joinable s' s) : m.Fits s h s'.pair where
  free₁ := free_s
  free₂ := free_h
  free₃ := free_s'
  chained₁ := wedge.spoke.finish.trans wedge.side.start.symm
  chained₂ := wedge.side.finish.trans wedge.spoke'.finish.symm
  chained₃ := by rw [HalfedgeId.pair_pair, wedge.spoke'.start, wedge.spoke.start]
  joinable₁ := joinable
  joinable₂ := joinable'
  joinable₃ := by
    rwa [HalfedgeId.pair_pair]

variable (added : m.AddedFace s h s'.pair f m')

include added

/-- Spokes that are neighbours at the hub already stay where they are. -/
theorem ring_hub {ring : Cycle HalfedgeId} (hub : m.Follows s' s) (around : m.Ring x ring) :
    m'.Ring x ring := by
  have corner := added.corner₃
  rw [HalfedgeId.pair_pair] at corner
  exact corner.ring_of_follows hub x ring wedge.spoke.start around

theorem ring_of_ne {n : NodeId} {ring : Cycle HalfedgeId} (hub : n ≠ x) (other : n ≠ v)
    (other' : n ≠ v') (around : m.Ring n ring) : m'.Ring n ring := by
  refine added.ring_of_ne n ring ?_ ?_ ?_ around
  · rw [wedge.spoke.start]
    exact fun same => hub (Option.some.inj same).symm
  · rw [wedge.side.start]
    exact fun same => other (Option.some.inj same).symm
  · rw [wedge.spoke'.finish]
    exact fun same => other' (Option.some.inj same).symm

/-- Of the half-edges that arrive at corners, only the sides of the face stop to be free. -/
theorem free_iff_of_ne {a : HalfedgeId} {n : NodeId} (start : m.origin? a = some n)
    (hub : n ≠ x) (other : a ≠ s.pair) (other' : n ≠ v') : m'.Free a.pair ↔ m.Free a.pair := by
  apply added.free_iff
  · rintro rfl
    exact other (HalfedgeId.pair_pair a).symm
  · rintro rfl
    have finish := wedge.side.finish
    rw [HalfedgeId.pair_pair, start] at finish
    exact other' (Option.some.inj finish)
  · intro same
    have equal := HalfedgeId.pair_injective same
    subst equal
    exact hub (Option.some.inj (start.symm.trans wedge.spoke'.start))

section Corners

variable {n : NodeId} {l : List HalfedgeId} {p : HalfedgeId}

/-- At other nodes, the same half-edges that arrive are free. -/
theorem free_pair_iff {a : HalfedgeId} (start : m.origin? a = some n) (hub : n ≠ x) (other : n ≠ v)
    (other' : n ≠ v') : m'.Free a.pair ↔ m.Free a.pair := by
  refine wedge.free_iff_of_ne added start hub ?_ other'
  rintro rfl
  exact other (wedge.spoke.eq_finish start).symm

theorem loose_of_ne (hub : n ≠ x) (other : n ≠ v) (other' : n ≠ v') (loose : m.Loose n l p) :
    m'.Loose n l p :=
  loose.of_ring (fun _ => wedge.ring_of_ne added hub other other')
    fun _ mem => wedge.free_pair_iff added (loose.starts mem) hub other other'

theorem shifted_of_ne (hub : n ≠ x) (other : n ≠ v) (other' : n ≠ v') (shifted : m.Shifted n l p) :
    m'.Shifted n l p :=
  shifted.of_ring (fun _ => wedge.ring_of_ne added hub other other')
    fun _ mem => wedge.free_pair_iff added (shifted.starts mem) hub other other'

theorem shifted_start (loose : m.Loose v l s.pair) (first : l.head? = some h) :
    m'.Shifted v l s.pair := by
  apply loose.shifted first added.corner₁
  intro a mem
  refine wedge.free_iff_of_ne added (loose.starts mem) wedge.hub_ne.symm ?_ wedge.ne
  rintro rfl
  exact loose.notMem mem

end Corners

end Wedge

end Mesh

end PlanarMesh
