import PlanarMesh.Edit.Basic

/-!
# Splices

The half-edges at a node form a cycle: after `h` comes `next (pair h)`.  The splices put a
half-edge into such a cycle, take one out, and reorder one so that two half-edges become
neighbours on a loop.  They neither store nor drop records.

A half-edge can be put into a cycle only where a half-edge without a face arrives; such a
place is found by walking the half-edges that arrive at the node.  The walks are bounded by
the number of half-edges, so that a damaged cycle is reported instead of walked for ever.
-/

namespace PlanarMesh

namespace Mesh

/-- The first half-edge without a face among those that arrive at `node`, from `h` on and
before `stop`. -/
def freeSlotFrom (m : Mesh) (node : NodeId) (stop : HalfedgeId) :
    Nat → HalfedgeId → Except MeshError HalfedgeId
  | 0, _ => violated (.searchOpen node)
  | fuel + 1, h => do
    if ← m.isBoundary h then return h
    let following := (← m.next h).pair
    if following = stop then throw (.topology (.noFreeSlot node))
    freeSlotFrom m node stop fuel following

/-- A half-edge without a face that arrives at `n`. -/
def freeIncident (m : Mesh) (n : NodeId) : Except MeshError HalfedgeId := do
  match (← m.node n).halfedge with
  | none => violated (.searchAtIsolated n)
  | some h => m.freeSlotFrom n h.pair (m.halfedgeCount + 1) h.pair

/-- The first half-edge without a face from `h` on and before `stop`, among those that arrive
where `h` does. -/
def freeBetween (m : Mesh) (h stop : HalfedgeId) : Except MeshError HalfedgeId := do
  m.freeSlotFrom (← m.target h) stop (m.halfedgeCount + 1) h

end Mesh

namespace Edit

/-- Put `h` into the cycle of `n` and let it start there.  The twin of `h` must be followed
by `h` alone, as it is for a fresh edge. -/
def attach (h : HalfedgeId) (n : NodeId) : Edit Unit := do
  let representative := (← query fun m => m.node n).halfedge
  setOrigin h n
  match representative with
  | none =>
    setRepresentative n (some h)
    link h.pair h
    record (.attachIsolated h n)
  | some _ =>
    let freeIn ← query fun m => m.freeIncident n
    let freeOut ← query fun m => m.next freeIn
    link freeIn h
    link h.pair freeOut
    record (.attach h n freeIn)

/-- Reorder the cycle at the start of `out` so that `out` follows `incoming`, which must end
there.  What lay between the two moves to a free place. -/
def mergeAdjacent (incoming out : HalfedgeId) : Edit Unit := do
  let b ← query fun m => m.next incoming
  if b = out then return
  let d ← query fun m => m.prev out
  let g ← query fun m => m.freeBetween out.pair incoming
  let h ← query fun m => m.next g
  link incoming out
  link g b
  link d h
  record (.mergeAdjacent incoming out g)

/-- Take `h` out of the cycle of the node at which it starts.  If it represents the node, the
next half-edge of the cycle takes over, or none if `h` was the only one. -/
def detach (h : HalfedgeId) : Edit Unit := do
  let n ← query fun m => m.origin h
  let after ← query fun m => m.next h.pair
  if (← query fun m => m.node n).halfedge = some h then
    setRepresentative n (if after = h then none else some after)
  let before ← query fun m => m.prev h
  link before after
  record (.detach h n)

end Edit

end PlanarMesh
