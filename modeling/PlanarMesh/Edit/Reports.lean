import PlanarMesh.Edit.Basic
import PlanarMesh.Locate

/-!
# Queries that report

Locating a point and checking the winding of faces leave the mesh alone but report what they
see.  Here they enter their reports into the journal of a session.
-/

namespace PlanarMesh

namespace Edit

/-- Locate a point and report every step; no answer when the walk never ends. -/
def locate (kernel : Kernel) (p : Point) (start : Option FaceId) (options : LocateOptions) :
    Edit (Option PointLocation) := do
  let m := (← get).mesh
  (m.locateEntries kernel p start (options.maxSteps.getD m.sufficientSteps)).forM record
  match m.locateWith kernel p start options with
  | none => return none
  | some (.ok location) => return some location
  | some (.error error) => refuse error

/-- Check the mesh, and report the faces that are not counter-clockwise if that is the
policy. -/
def check (kernel : Kernel) (options : ValidationOptions) : Edit Unit := do
  query fun m => m.checkTopology options
  if options.winding = .warn then
    ((← get).mesh.misorientedFaces kernel).forM fun entry =>
      record (.misoriented entry.1 entry.2)
  query fun m => m.checkWinding kernel options.winding

end Edit

end PlanarMesh
