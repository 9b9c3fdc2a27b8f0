import PlanarMesh.Mesh.Incidence

/-!
# Floods over faces

A flood starts at seed faces and spreads from face to neighbouring face, across edges or
around corners.  The faces that were discovered and not yet expanded form a worklist; a
flood in depth takes its latest entry next, a flood in breadth its earliest.  A face enters
the worklist when it is first discovered, with the number of steps that led to it, and a
depth limit keeps faces at that depth from being expanded.

No flood takes longer than it takes to discover every face that some half-edge reports,
which bounds the number of rounds.
-/

namespace PlanarMesh

/-- Which faces count as neighbours. -/
inductive Adjacency where
  /-- Faces with a common edge. -/
  | edge
  /-- Faces with a common node. -/
  | vertex
deriving DecidableEq

/-- Which discovered face is expanded next. -/
inductive FloodOrder where
  | depthFirst
  | breadthFirst
deriving DecidableEq

/-- How to flood. -/
structure FloodOptions where
  adjacency : Adjacency := .edge
  order : FloodOrder := .depthFirst
  maxDepth : Option Nat := none
  /-- Stop as soon as such a face is taken from the worklist. -/
  stop : FaceId → Bool := fun _ => false

/-- Put a key into an increasing list of keys, unless it is there already. -/
def insertKey {kind : RecordKind} (k : Key kind) : List (Key kind) → List (Key kind)
  | [] => [k]
  | l :: rest =>
    if k < l then k :: l :: rest
    else if k = l then l :: rest
    else l :: insertKey k rest

/-- The keys of a list in increasing order, each once. -/
def sortKeys {kind : RecordKind} (keys : List (Key kind)) : List (Key kind) :=
  keys.foldr insertKey []

/-- The state of a flood. -/
structure FloodState where
  /-- The faces discovered so far. -/
  seen : List FaceId
  /-- The faces to expand, with their depths; the earliest discovered first. -/
  work : List (FaceId × Nat)
  /-- The faces taken from the worklist so far, in order. -/
  visited : List FaceId

namespace FloodState

/-- The next entry of the worklist, and the rest of it. -/
def take? (order : FloodOrder) (work : List (FaceId × Nat)) :
    Option ((FaceId × Nat) × List (FaceId × Nat)) :=
  match order with
  | .breadthFirst =>
    match work with
    | [] => none
    | entry :: rest => some (entry, rest)
  | .depthFirst =>
    match work.getLast? with
    | none => none
    | some entry => some (entry, work.dropLast)

/-- Enter a face at the end of the worklist, unless it was discovered before. -/
def discover (depth : Nat) (s : FloodState) (f : FaceId) : FloodState :=
  if f ∈ s.seen then s
  else { s with seen := f :: s.seen, work := s.work ++ [(f, depth)] }

end FloodState

namespace Mesh

/-- The neighbours of a face. -/
def adjacentFaces (m : Mesh) (adjacency : Adjacency) (f : FaceId) :
    Except MeshError (List FaceId) :=
  match adjacency with
  | .edge => m.faceNeighbors f
  | .vertex => do
    let corners ← m.faceNodes f
    let around ← corners.mapM m.incidentFaces
    return (sortKeys around.toList.flatten).filter (· ≠ f)

/-- Flood until the worklist is empty or the stop condition holds. -/
def floodFrom (m : Mesh) (options : FloodOptions) :
    Nat → FloodState → Except MeshError FloodState
  | 0, s => return s
  | rounds + 1, s =>
    match FloodState.take? options.order s.work with
    | none => return s
    | some ((f, depth), rest) => do
      let s := { s with work := rest, visited := s.visited ++ [f] }
      if options.stop f then return s
      if options.maxDepth.any (· ≤ depth) then floodFrom m options rounds s
      else
        let neighbors ← m.adjacentFaces options.adjacency f
        floodFrom m options rounds (neighbors.foldl (FloodState.discover (depth + 1)) s)

/-- The state in which a flood from the seeds ends. -/
def flood (m : Mesh) (seeds : List FaceId) (options : FloodOptions) :
    Except MeshError FloodState := do
  seeds.forM fun f => do
    let _ ← m.face f
  let rounds := seeds.length + m.halfedgeCount + 1
  m.floodFrom options rounds ⟨seeds, seeds.map fun f => (f, 0), []⟩

/-- The faces that a flood from the seeds reaches, in increasing order. -/
def reachedFaces (m : Mesh) (seeds : List FaceId) (options : FloodOptions) :
    Except MeshError (List FaceId) :=
  return sortKeys (← m.flood seeds options).seen

/-! ## Components -/

/-- The components of those of the given faces that are on no earlier component. -/
def componentsFrom (m : Mesh) (assigned : List FaceId) :
    List FaceId → Except MeshError (List (List FaceId))
  | [] => return []
  | f :: rest =>
    if f ∈ assigned then componentsFrom m assigned rest
    else do
      let component ← m.reachedFaces [f] { order := .breadthFirst }
      return component :: (← componentsFrom m (component ++ assigned) rest)

/-- The parts of the mesh that are connected across edges, each in increasing order. -/
def components (m : Mesh) : Except MeshError (List (List FaceId)) :=
  m.componentsFrom [] m.faceIds

/-! ## Depths -/

/-- Spread from the front of the queue; a face keeps the depth with which it first came
out. -/
def depthsFrom (m : Mesh) :
    Nat → List (FaceId × Nat) → List (FaceId × Nat) → Except MeshError (List (FaceId × Nat))
  | 0, _, depths => return depths
  | _ + 1, [], depths => return depths
  | rounds + 1, (f, depth) :: queue, depths =>
    if depths.any fun entry => entry.1 = f then depthsFrom m rounds queue depths
    else do
      let depths := (f, depth) :: depths
      let neighbors ← m.faceNeighbors f
      let fresh := neighbors.filter fun g => !depths.any fun entry => entry.1 = g
      depthsFrom m rounds (queue ++ fresh.map fun g => (g, depth + 1)) depths

/-- The faces that are connected to the seed across edges, in increasing order, each with the
least number of edges to cross. -/
def depthMap (m : Mesh) (seed : FaceId) : Except MeshError (List (FaceId × Nat)) := do
  let _ ← m.face seed
  -- Every face comes out with its neighbours once, and it has at most three.
  let rounds := 3 * (m.halfedgeCount + 1) + 1
  let depths ← m.depthsFrom rounds [(seed, 0)] []
  return (sortKeys (depths.map Prod.fst)).filterMap fun f =>
    depths.find? fun entry => entry.1 = f

end Mesh

end PlanarMesh
