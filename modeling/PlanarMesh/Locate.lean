import PlanarMesh.Edit.Journal
import PlanarMesh.Mesh.Incidence

/-!
# Point location

A walk finds where a point lies.  It keeps a half-edge of a face and asks on which side of it
the point is: to the left it goes on along the face, and a full round means that the point is
inside; to the right it crosses to the face on the other side, or stops at the boundary; on
the line it has found the edge or a node, or the point is beyond the ends and the walk
crosses as well.

A walk may be given a budget of steps.  Without one it may go round for ever.  The walk
depends on nothing but the half-edge it looks at and the half-edge where its round started,
so after more steps than there are pairs of half-edges it has repeated itself: `locate` then
answers `none`.
-/

namespace PlanarMesh

/-- Where a walk is: the half-edge it looks at and the one where its round around the present
face began. -/
structure WalkState where
  roundStart : HalfedgeId
  current : HalfedgeId
deriving DecidableEq

/-- How to locate. -/
structure LocateOptions where
  /-- The budget of steps; none to walk until done. -/
  maxSteps : Option Nat := none
deriving DecidableEq

/-- Whether `v` lies strictly between `a` and `b`, in either order. -/
def strictlyBetween (a b v : Float) : Bool :=
  decide (lesser a b < v) && decide (v < greater a b)

namespace Mesh

/-- What to do at a half-edge on whose line the point lies. -/
def collinearTransition (e : EdgeId) (origin target : NodeId) (p₁ p₂ p : Point) : Transition :=
  if strictlyBetween p₁.x p₂.x p.x || strictlyBetween p₁.y p₂.y p.y then
    .found (.onEdge e)
  else if p.coincides p₁ then .found (.onNode origin)
  else if p.coincides p₂ then .found (.onNode target)
  else .collinearOutside

/-- What to do at the half-edge `h` when looking for `p`. -/
def transition (m : Mesh) (kernel : Kernel) (p : Point) (h : HalfedgeId) :
    Except MeshError Transition := do
  let origin ← m.origin h
  let target ← m.target h
  let p₁ ← m.position origin
  let p₂ ← m.position target
  return match kernel.orientedSide p₁ p₂ p with
    | .positive => .advance
    | .negative => .cross
    | .onBoundary => collinearTransition h.edge origin target p₁ p₂ p

/-- Carry out a transition: the walk ends with a location, or goes on. -/
def follow (m : Mesh) (s : WalkState) :
    Transition → Except MeshError (PointLocation ⊕ WalkState)
  | .found location => return .inl location
  | .advance => do
    let following ← m.next s.current
    if following = s.roundStart then
      match ← m.faceOf following with
      | some f => return .inl (.inFace f)
      | none => .error (.invariantViolation (.walkAtBoundary following))
    else return .inr { s with current := following }
  | .cross | .collinearOutside => do
    let twin := s.current.pair
    if ← m.isBoundary twin then return .inl (.outsideMesh s.current.edge)
    return .inr ⟨twin, ← m.next twin⟩

/-- One step of a walk. -/
def walkStep (m : Mesh) (kernel : Kernel) (p : Point) (s : WalkState) :
    Except MeshError (PointLocation ⊕ WalkState) := do
  m.follow s (← m.transition kernel p s.current)

/-- Walk at most so many steps; `none` when they do not suffice. -/
def walk (m : Mesh) (kernel : Kernel) (p : Point) :
    Nat → WalkState → Option (Except MeshError PointLocation)
  | 0, _ => none
  | steps + 1, s =>
    match m.walkStep kernel p s with
    | .error error => some (.error error)
    | .ok (.inl location) => some (.ok location)
    | .ok (.inr t) => walk m kernel p steps t

/-- The half-edges that a walk looks at, with what it does at each. -/
def walkTrace (m : Mesh) (kernel : Kernel) (p : Point) :
    Nat → WalkState → List (HalfedgeId × Transition)
  | 0, _ => []
  | steps + 1, s =>
    match m.transition kernel p s.current with
    | .error _ => []
    | .ok transition =>
      (s.current, transition) ::
        match m.follow s transition with
        | .ok (.inr t) => walkTrace m kernel p steps t
        | _ => []

/-- Where a walk starts: at the half-edge of the given face, or else of the first one. -/
def walkStart (m : Mesh) (start : Option FaceId) : Except MeshError WalkState := do
  let f ← match start with
    | some f => pure f
    | none => orInvalid .noFaces m.faceIds.head?
  let h := (← m.face f).halfedge
  return ⟨h, h⟩

/-- A number of steps that a walk which ends at all does not exceed. -/
def sufficientSteps (m : Mesh) : Nat :=
  m.halfedgeCount * m.halfedgeCount + 1

/-- Find out where a point lies, within a budget of steps. -/
def locateWithin (m : Mesh) (kernel : Kernel) (p : Point) (start : Option FaceId)
    (budget : Nat) : Except MeshError PointLocation := do
  let s ← m.walkStart start
  (m.walk kernel p budget s).getD (.error (.walkExhausted budget))

/-- Find out where a point lies, without a budget; `none` when the walk never ends. -/
def locate (m : Mesh) (kernel : Kernel) (p : Point) (start : Option FaceId) :
    Option (Except MeshError PointLocation) :=
  match m.walkStart start with
  | .error error => some (.error error)
  | .ok s => m.walk kernel p m.sufficientSteps s

/-- Find out where a point lies; `none` when there is no budget and the walk never ends. -/
def locateWith (m : Mesh) (kernel : Kernel) (p : Point) (start : Option FaceId)
    (options : LocateOptions) : Option (Except MeshError PointLocation) :=
  match options.maxSteps with
  | none => m.locate kernel p start
  | some budget => some (m.locateWithin kernel p start budget)

/-- What a walk within a budget enters into the journal. -/
def locateEntries (m : Mesh) (kernel : Kernel) (p : Point) (start : Option FaceId)
    (budget : Nat) : List JournalEntry :=
  match m.walkStart start with
  | .error _ => []
  | .ok s =>
    let steps := (m.walkTrace kernel p budget s).zipIdx.map fun entry =>
      .locateStep (entry.2 + 1) entry.1.1 entry.1.2
    match m.walk kernel p budget s with
    | some _ => steps
    | none => steps ++ [.locateGaveUp budget]

end Mesh

end PlanarMesh
