import PlanarMesh.Proofs.Composition
import PlanarMesh.Proofs.Geometry.BoundingBox
import PlanarMesh.Proofs.Snapshot.RoundTrip

/-!
# The cached bounding box

The bounding box is collected when it is asked for, and then kept.  Storing or dropping a node
forgets it, and nothing else moves, stores or drops nodes.  So whatever was called in the meantime,
and however it ended, the box that is kept is the box of the nodes that are there
(`Fresh`), and the next query answers that box (`boundingBox_of_calls`).
-/

namespace PlanarMesh

/-- A call on a mesh: an operation, a mesh in place of the one that is there, or a question that
leaves its answer behind. -/
inductive Call where
  | edit (operation : Operation)
  | rebuild (list : TriangleList)
  | rebuildRectangle (nx ny : Nat) (min max : Point)
  | load (document : Document)
  | boundingBox
  | invalidateCache

/-- The mesh after a call, whether or not it succeeded. -/
def Call.result (m : Mesh) : Call → Mesh
  | edit operation => operation.result m
  | rebuild list => (Edit.rebuild list).leaves (Session.on m)
  | rebuildRectangle nx ny min max => (Edit.rebuildRectangle nx ny min max).leaves (Session.on m)
  | load document =>
    match Mesh.load document with
    | .ok m' => m'
    | .error _ => m
  | boundingBox => Edit.boundingBox.leaves (Session.on m)
  | invalidateCache => Edit.invalidateCache.leaves (Session.on m)

namespace Mesh

/-- The mesh after a sequence of calls. -/
def runCalls (m : Mesh) (calls : List Call) : Mesh :=
  calls.foldl Call.result m

/-- The bounding box is not kept, or it is the one of the nodes that are there. -/
def Fresh (m : Mesh) : Prop :=
  ∀ box ∈ m.cachedBox, box = m.collectBox

variable {m : Mesh}

/-! ## What a call leaves -/

/-- No building block of an edit leaves a box that is out of date. -/
theorem stepwise_fresh : Stepwise fun m m' => m.Fresh → m'.Fresh where
  refl _ := id
  trans first second := second ∘ first
  modifyHalfedge _ _ _ := id
  setRepresentative m n h fresh box kept := by
    have unmoved := SlotStore.map_toList_modify (g := Node.position)
      (f := fun record => { record with halfedge := h }) (fun _ => rfl) m.nodes n
    rw [fresh box kept]
    exact congrArg BoundingBox.ofPoints unmoved.symm
  insertEdge _ _ := id
  dropEdge _ _ := id
  insertFace _ _ := id
  dropFace _ _ := id
  storeNode _ _ _ _ kept := by cases kept
  removeNode _ _ _ _ kept := by cases kept

theorem fresh_empty : empty.Fresh := by
  rintro box ⟨⟩

theorem fresh_of_load {document : Document} (loaded : load document = .ok m) : m.Fresh := by
  rcases readRecords?_eq_some (load_eq_ok_iff.1 loaded).1 with ⟨_, _, _, -, -, -, -, unfilled⟩
  intro box kept
  rw [unfilled] at kept
  cases kept

/-- A mesh that is built beside the one that is there has a box of its own. -/
theorem Fresh.rebuild (fresh : m.Fresh) (list : TriangleList) :
    ((Edit.rebuild list).leaves (Session.on m)).Fresh := by
  have built := stepwise_fresh.composed
    ((Edit.composed_build list).map fun _ => PUnit.unit) (Session.on empty) fresh_empty
  rcases Edit.leaves_replacing (do let _ ← Edit.build list) (Session.on m) with new | same
  · rw [Edit.rebuild, new]
    exact built
  · rw [Edit.rebuild, same]
    exact fresh

theorem Fresh.boundingBox_eq (fresh : m.Fresh) : m.boundingBox = m.collectBox := by
  unfold boundingBox
  cases kept : m.cachedBox with
  | none => rfl
  | some box => exact fresh box kept

theorem Fresh.cacheBox (fresh : m.Fresh) : m.cacheBox.Fresh := by
  intro box kept
  cases kept
  exact fresh.boundingBox_eq

theorem Fresh.call_result (fresh : m.Fresh) (call : Call) : (call.result m).Fresh := by
  cases call with
  | edit operation => exact stepwise_fresh.operation operation m fresh
  | rebuild list => exact fresh.rebuild list
  | rebuildRectangle nx ny min max =>
    simp only [Call.result, Edit.rebuildRectangle]
    cases TriangleList.rectangle nx ny min max with
    | ok list => exact fresh.rebuild list
    | error cause => exact fresh
  | load document =>
    simp only [Call.result]
    cases loaded : Mesh.load document with
    | ok m' => exact fresh_of_load loaded
    | error error => exact fresh
  | boundingBox => exact fresh.cacheBox
  | invalidateCache =>
    rintro box ⟨⟩

theorem Fresh.runCalls (fresh : m.Fresh) (calls : List Call) : (m.runCalls calls).Fresh := by
  induction calls generalizing m with
  | nil => exact fresh
  | cons call calls inductionHypothesis => exact inductionHypothesis (fresh.call_result call)

/-! ## The box of the nodes -/

/-- The positions of the live nodes, in slot order. -/
def positions (m : Mesh) : List Point :=
  m.nodes.toList.map fun entry => entry.2.position

theorem mem_positions {p : Point} : p ∈ m.positions ↔ ∃ n, m.position n = .ok p := by
  simp only [positions, List.mem_map, Prod.exists, position_eq_orInvalid, orInvalid_eq_ok_iff,
    Option.map_eq_some_iff]
  exact exists_congr fun n => exists_congr fun record => and_congr_left fun _ =>
    SlotStore.mem_toList

theorem length_positions : m.positions.length = m.nodeCount := by
  rw [positions, List.length_map, nodeCount, ← SlotStore.length_keys, SlotStore.keys,
    List.length_map]

theorem positions_eq_nil_iff : m.positions = [] ↔ m.nodeCount = 0 := by
  rw [← length_positions, List.length_eq_zero_iff]

theorem FinitePositions.positions (finite : m.FinitePositions) :
    ∀ p ∈ m.positions, p.isFinite = true := by
  intro p mem
  rcases mem_positions.1 mem with ⟨n, placed⟩
  exact finite n p placed

/-- The box contains the positions of all nodes. -/
def BoundedBy (m : Mesh) (box : BoundingBox) : Prop :=
  ∀ n p, m.position n = .ok p → box.contains p = true

theorem boundedBy_iff {box : BoundingBox} :
    m.BoundedBy box ↔ ∀ p ∈ m.positions, box.contains p = true := by
  constructor
  · intro bounded p mem
    rcases mem_positions.1 mem with ⟨n, placed⟩
    exact bounded n p placed
  · intro covers n p placed
    exact covers p (mem_positions.2 ⟨n, placed⟩)

/-- Whatever was called, the next question for the bounding box is answered with the box of the
nodes that are there.  If all nodes lie at finite places, this is the least box that contains their
positions, and it is empty if and only if there are no nodes. -/
theorem boundingBox_of_calls (calls : List Call) :
    let m := empty.runCalls calls
    (∀ journal, Edit.boundingBox ⟨m, journal⟩ = .ok m.collectBox ⟨m.cacheBox, journal⟩) ∧
      (m.FinitePositions →
        m.BoundedBy m.collectBox ∧
        (∀ box, m.BoundedBy box → ∀ p, m.collectBox.contains p = true → box.contains p = true) ∧
        (m.collectBox.isEmpty = true ↔ m.nodeCount = 0)) := by
  intro m
  have fresh : m.Fresh := fresh_empty.runCalls calls
  constructor
  · intro journal
    show EStateM.Result.ok m.cacheBox.boundingBox _ = _
    rw [← fresh.boundingBox_eq]
    rfl
  · intro finite
    refine ⟨?_, ?_, ?_⟩
    · exact boundedBy_iff.2 fun p mem => BoundingBox.contains_ofPoints finite.positions mem
    · intro box bounded p mem
      exact BoundingBox.contains_of_ofPoints finite.positions (boundedBy_iff.1 bounded) mem
    · exact (BoundingBox.isEmpty_ofPoints finite.positions).trans positions_eq_nil_iff

/-- The box that is kept for one node does not outlive the next. -/
example :
    let one := empty.runCalls [.edit (.addNode ⟨0, 0⟩), .boundingBox]
    let two := one.runCalls [.edit (.addNode ⟨2, 3⟩)]
    one.cachedBox.isSome ∧ one.boundingBox.contains ⟨2, 3⟩ = false ∧
      two.boundingBox.contains ⟨2, 3⟩ = true := by
  decide +kernel

end Mesh

end PlanarMesh
