import PlanarMesh.Boundary
import PlanarMesh.Edit.Operation
import PlanarMesh.Edit.Reports
import PlanarMesh.Flood
import PlanarMesh.Geometry.Adaptive
import PlanarMesh.Snapshot.Load
import PlanarMesh.Proofs.CyclicOrder
import PlanarMesh.Proofs.Ring
import PlanarMesh.Proofs.Sound
import PlanarMesh.Proofs.Validity
import PlanarMesh.Proofs.Outcome
import PlanarMesh.Proofs.Splice.Relink
import PlanarMesh.Proofs.Splice.Visits
import PlanarMesh.Proofs.Splice.Search
import PlanarMesh.Proofs.Splice.Merge
import PlanarMesh.Proofs.Edit.Face
import PlanarMesh.Proofs.Splice.Attach
import PlanarMesh.Proofs.Edit.AddEdge
import PlanarMesh.Proofs.Edit.RemoveEdge
import PlanarMesh.Proofs.Edit.Node
import PlanarMesh.Proofs.Incidence
import PlanarMesh.Proofs.Edit.Rollback
import PlanarMesh.Proofs.Edit.Triangle
import PlanarMesh.Proofs.Splice.Spoke
import PlanarMesh.Proofs.Edit.Wedge
import PlanarMesh.Proofs.Locality
import PlanarMesh.Proofs.Edit.SplitFace
import PlanarMesh.Proofs.Edit.Growth
import PlanarMesh.Proofs.Edit.Hub
import PlanarMesh.Proofs.Edit.Wheel
import PlanarMesh.Proofs.Edit.Flap
import PlanarMesh.Proofs.Edit.Bridge
import PlanarMesh.Proofs.Edit.SplitEdge
import PlanarMesh.Proofs.Flood.Sorting
import PlanarMesh.Proofs.Adjacency
import PlanarMesh.Proofs.Reachability
import PlanarMesh.Proofs.Refinement
import PlanarMesh.Proofs.Build.Sides
import PlanarMesh.Proofs.Build.Ground
import PlanarMesh.Proofs.Build.Drawing
import PlanarMesh.Proofs.Build.Fan
import PlanarMesh.Proofs.Building
import PlanarMesh.Proofs.Number.Comparison
import PlanarMesh.Proofs.Geometry.Plane
import PlanarMesh.Proofs.Locate.Corners
import PlanarMesh.Proofs.Locate.Rounds
import PlanarMesh.Proofs.Locate.Endless
import PlanarMesh.Proofs.Locate.Soundness
import PlanarMesh.Proofs.Geometry.Triangle
import PlanarMesh.Proofs.Locate.Tiling
import PlanarMesh.Proofs.Geometry.Circle
import PlanarMesh.Proofs.Locate.Delaunay
import PlanarMesh.Proofs.Intact
import PlanarMesh.Proofs.FaceLoops
import PlanarMesh.Proofs.Loading
import PlanarMesh.Proofs.Atomicity
import PlanarMesh.Proofs.Handles
import PlanarMesh.Proofs.Boundary.Loops
import PlanarMesh.Proofs.Boundary.Classes
import PlanarMesh.Proofs.FaceOutcome
import PlanarMesh.Proofs.Snapshot.Records
import PlanarMesh.Proofs.Snapshot.Reading
import PlanarMesh.Proofs.Snapshot.RoundTrip
import PlanarMesh.Proofs.Composition
import PlanarMesh.Proofs.Storage.History
import PlanarMesh.Proofs.History
import PlanarMesh.Proofs.StaleHandles
import PlanarMesh.Proofs.Undoing
import PlanarMesh.Proofs.Edit.Fringe
import PlanarMesh.Proofs.Boundary.Splitting
import PlanarMesh.Proofs.EdgeOutcome
import PlanarMesh.Proofs.TriangleOutcome
import PlanarMesh.Proofs.Edit.Pruned
import PlanarMesh.Proofs.Removal
import PlanarMesh.Proofs.Flood.Rounds
import PlanarMesh.Proofs.Flood.Reach
import PlanarMesh.Proofs.Flood.DepthFirst
import PlanarMesh.Proofs.Flood.Depths
import PlanarMesh.Proofs.Flood.Components
import PlanarMesh.Proofs.ParallelEdges
import PlanarMesh.Proofs.Locate.StartFace
import PlanarMesh.Proofs.Winding
import PlanarMesh.Proofs.Build.Grid
import PlanarMesh.Proofs.Build.Border
import PlanarMesh.Proofs.Rectangle
import PlanarMesh.Proofs.Refilling
import PlanarMesh.Proofs.LocalWalks
import PlanarMesh.Proofs.Number.Order
import PlanarMesh.Proofs.Geometry.BoundingBox
import PlanarMesh.Proofs.BoxCache
import PlanarMesh.Proofs.Locate.Budget
import PlanarMesh.Proofs.FreeSlots
import PlanarMesh.Proofs.Joining
