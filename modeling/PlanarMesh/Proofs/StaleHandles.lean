import PlanarMesh.Boundary
import PlanarMesh.Flood
import PlanarMesh.Locate
import PlanarMesh.Proofs.Atomicity
import PlanarMesh.Proofs.History

/-!
# Stale handles

A handle does not resolve after its record was dropped, until its slot was filled again as often
as there are generations.  Until then questions about it are answered by the error that it
is invalid, and every operation that is given it is refused and changes no record.  So a handle is
never mistaken for one of a later record, whatever was done to the mesh in between
(`stale_of_steps`).

There is one exception.  The question which half-edge leads from one node to another asks for the
record of the first node only.  If the second one is stale it is not answered by an error, although
both are handles that the caller gives: the answer is that there is no such half-edge
(`findHalfedge_of_stale_end`).
-/

namespace PlanarMesh

namespace Operation

/-- The nodes that an operation is given. -/
def nodes : Operation → List NodeId
  | removeNode n => [n]
  | addEdge n₁ n₂ => [n₁, n₂]
  | addTriangle a b c => [a, b, c]
  | _ => []

/-- The edges that an operation is given. -/
def edges : Operation → List EdgeId
  | removeEdge e => [e]
  | splitEdge e _ => [e]
  | _ => []

/-- The half-edges that an operation is given. -/
def halfedges : Operation → List HalfedgeId
  | addFace h₁ h₂ h₃ => [h₁, h₂, h₃]
  | _ => []

/-- The faces that an operation is given. -/
def faces : Operation → List FaceId
  | removeFace f => [f]
  | splitFace f _ => [f]
  | _ => []

end Operation

namespace Mesh

/-- The operation is refused and leaves every record as it is. -/
def Declines (m : Mesh) (operation : Operation) : Prop :=
  ∃ error, (operation.outcome m).1 = .error (.refused error) ∧
    m.SameRecords (operation.result m)

/-- All questions about the node tell that it is invalid, except for the question which half-edge
leads to it from another one: that finds none. -/
structure DeniesNode (m : Mesh) (n : NodeId) : Prop where
  containsNode : m.containsNode n = false
  node : m.node n = .error (.invalidNode n)
  position : m.position n = .error (.invalidNode n)
  isIsolated : m.isIsolated n = .error (.invalidNode n)
  outgoing : m.outgoing n = .error (.invalidNode n)
  incoming : m.incoming n = .error (.invalidNode n)
  degree : m.degree n = .error (.invalidNode n)
  neighbors : m.neighbors n = .error (.invalidNode n)
  incidentFaces : m.incidentFaces n = .error (.invalidNode n)
  isOnBoundary : m.isOnBoundary n = .error (.invalidNode n)
  findHalfedge : ∀ n', m.findHalfedge n n' = .error (.invalidNode n)
  findHalfedge_to : ∀ n', m.containsNode n' = true → m.findHalfedge n' n = .ok none

/-- All questions about the edge tell that it is invalid. -/
structure DeniesEdge (m : Mesh) (e : EdgeId) : Prop where
  containsEdge : m.containsEdge e = false
  edge : m.edge e = .error (.invalidEdge e)
  isBoundaryEdge : m.isBoundaryEdge e = .error (.invalidEdge e)

/-- All questions about the half-edge tell that it is invalid, or its twin is, which is asked for
the end. -/
structure DeniesHalfedge (m : Mesh) (h : HalfedgeId) : Prop where
  containsHalfedge : m.containsHalfedge h = false
  halfedge : m.halfedge h = .error (.invalidHalfedge h)
  next : m.next h = .error (.invalidHalfedge h)
  prev : m.prev h = .error (.invalidHalfedge h)
  origin : m.origin h = .error (.invalidHalfedge h)
  target : m.target h = .error (.invalidHalfedge h.pair)
  faceOf : m.faceOf h = .error (.invalidHalfedge h)
  isBoundary : m.isBoundary h = .error (.invalidHalfedge h)
  segment : m.segment h = .error (.invalidHalfedge h)
  loop : m.loop h = .error (.invalidHalfedge h)
  boundaryLoop : m.boundaryLoop h = .error (.invalidHalfedge h)

/-- All questions about the face tell that it is invalid, also those that only start at it.  A flood
from several faces names the first one that is invalid. -/
structure DeniesFace (m : Mesh) (f : FaceId) : Prop where
  containsFace : m.containsFace f = false
  face : m.face f = .error (.invalidFace f)
  faceHalfedges : m.faceHalfedges f = .error (.invalidFace f)
  faceNodes : m.faceNodes f = .error (.invalidFace f)
  facePositions : m.facePositions f = .error (.invalidFace f)
  faceNeighbors : m.faceNeighbors f = .error (.invalidFace f)
  faceCentroid : m.faceCentroid f = .error (.invalidFace f)
  depthMap : m.depthMap f = .error (.invalidFace f)
  reachedFaces : ∀ seeds options, f ∈ seeds →
    ∃ g ∈ seeds, m.containsFace g = false ∧ m.reachedFaces seeds options = .error (.invalidFace g)
  locateWith : ∀ kernel p options,
    m.locateWith kernel p (some f) options = some (.error (.invalidFace f))

variable {m : Mesh}

/-! ## Questions -/

theorem Sound.deniesNode (sound : m.Sound) {n : NodeId} (dead : m.containsNode n = false) :
    m.DeniesNode n := by
  have node := node_of_dead dead
  have outgoing : m.outgoing n = .error (.invalidNode n) := by rw [Mesh.outgoing, node]; rfl
  constructor
  case containsNode => exact dead
  case node => exact node
  case position => rw [position, node]; rfl
  case isIsolated => rw [isIsolated, node]; rfl
  case outgoing => exact outgoing
  case incoming => rw [incoming, outgoing]; rfl
  case degree => rw [degree, outgoing]; rfl
  case neighbors => rw [neighbors, outgoing]; rfl
  case incidentFaces => rw [incidentFaces, outgoing]; rfl
  case isOnBoundary => rw [isOnBoundary, outgoing]; rfl
  case findHalfedge =>
    intro n'
    rw [findHalfedge, outgoing]
    rfl
  case findHalfedge_to =>
    intro n' live
    rcases sound.exists_findHalfedge live n with ⟨found, answers, leads, -⟩
    cases found with
    | none => exact answers
    | some h =>
      have alive := sound.origin_live h.pair n (leads h rfl).finish
      cases alive.symm.trans dead

theorem deniesEdge_of_dead {e : EdgeId} (dead : m.containsEdge e = false) : m.DeniesEdge e := by
  have edge := edge_of_dead dead
  constructor
  case containsEdge => exact dead
  case edge => exact edge
  case isBoundaryEdge => rw [isBoundaryEdge, edge]; rfl

theorem deniesHalfedge_of_dead {h : HalfedgeId} (dead : m.containsHalfedge h = false) :
    m.DeniesHalfedge h := by
  have halfedge := halfedge_of_dead dead
  have origin : m.origin h = .error (.invalidHalfedge h) := by rw [Mesh.origin, halfedge]; rfl
  have isBoundary : m.isBoundary h = .error (.invalidHalfedge h) := by
    rw [Mesh.isBoundary, halfedge]
    rfl
  constructor
  case containsHalfedge => exact dead
  case halfedge => exact halfedge
  case next => rw [next, halfedge]; rfl
  case prev => rw [prev, halfedge]; rfl
  case origin => exact origin
  case target =>
    rw [target, Mesh.origin, halfedge_of_dead ((m.containsHalfedge_pair h).trans dead)]
    rfl
  case faceOf => rw [faceOf, halfedge]; rfl
  case isBoundary => exact isBoundary
  case segment => rw [segment, origin]; rfl
  case loop => rw [loop, halfedge]; rfl
  case boundaryLoop => rw [boundaryLoop, isBoundary]; rfl

/-- The first seed that is not live ends a flood before it starts. -/
theorem forM_face_of_dead {f : FaceId} {seeds : List FaceId} (mem : f ∈ seeds)
    (dead : m.containsFace f = false) : ∃ g ∈ seeds, m.containsFace g = false ∧
      (seeds.forM fun f => do let _ ← m.face f : Except MeshError PUnit) =
        .error (.invalidFace g) := by
  induction seeds with
  | nil => cases mem
  | cons g seeds inductionHypothesis =>
    cases live : m.containsFace g with
    | false =>
      refine ⟨g, List.mem_cons_self, live, ?_⟩
      rw [List.forM_eq_forM, List.forM_cons, face_of_dead live]
      rfl
    | true =>
      have other : f ≠ g := by
        rintro rfl
        cases live.symm.trans dead
      rcases Option.isSome_iff_exists.1 live with ⟨record, found⟩
      rcases inductionHypothesis ((List.mem_cons.1 mem).resolve_left other) with
        ⟨g', mem', dead', ended⟩
      refine ⟨g', List.mem_cons_of_mem g mem', dead', ?_⟩
      rw [List.forM_eq_forM, List.forM_cons, face_eq_ok_iff.2 found]
      exact ended

theorem deniesFace_of_dead {f : FaceId} (dead : m.containsFace f = false) : m.DeniesFace f := by
  have face := face_of_dead dead
  have sides : m.faceHalfedges f = .error (.invalidFace f) := by rw [faceHalfedges, face]; rfl
  have corners : m.faceNodes f = .error (.invalidFace f) := by rw [faceNodes, sides]; rfl
  have positions : m.facePositions f = .error (.invalidFace f) := by
    rw [facePositions, corners]
    rfl
  constructor
  case containsFace => exact dead
  case face => exact face
  case faceHalfedges => exact sides
  case faceNodes => exact corners
  case facePositions => exact positions
  case faceNeighbors => rw [faceNeighbors, sides]; rfl
  case faceCentroid => rw [faceCentroid, positions]; rfl
  case depthMap => rw [depthMap, face]; rfl
  case reachedFaces =>
    intro seeds options mem
    rcases forM_face_of_dead mem dead with ⟨g, mem', dead', ended⟩
    refine ⟨g, mem', dead', ?_⟩
    rw [reachedFaces, flood, ended]
    rfl
  case locateWith =>
    intro kernel p options
    have start : m.walkStart (some f) = .error (.invalidFace f) := by
      rw [walkStart]
      simp only [face, bind, Except.bind, pure, Except.pure]
    unfold locateWith
    split
    · rw [locate, start]
    · rw [locateWithin, start]
      rfl

/-! ## Operations -/

/-- An edit that cannot return, and leaves all records as they are when it is refused. -/
theorem declines_of_ends {operation : Operation} (ends : operation.edit.Ends (Session.on m)
    (fun _ _ => False) fun _ m' => m.SameRecords m') : m.Declines operation := by
  rcases Operation.outcome_of_ends ends with ⟨_, _, _, impossible⟩ | ⟨error, m', ended, same⟩
  · exact impossible.elim
  · refine ⟨error, by rw [ended], ?_⟩
    rwa [Operation.result, ended]

namespace Sound

variable (sound : m.Sound) {operation : Operation}

include sound

theorem declines_of_dead_node {n : NodeId} (dead : m.containsNode n = false)
    (given : n ∈ operation.nodes) : m.Declines operation := by
  have absent {n' : NodeId} (live : m.containsNode n' = true) : n ≠ n' := by
    rintro rfl
    cases live.symm.trans dead
  apply declines_of_ends
  cases operation with
  | removeNode n' =>
    apply (Edit.removeNode_ends (s := Session.on m) sound).bind
    · rintro - t ⟨live, -⟩
      exact absent live (List.mem_singleton.1 given)
    · rintro error m' ⟨-, rfl, -⟩
      exact .refl _
  | addEdge n₁ n₂ =>
    apply (Edit.addEdge_ends (s := Session.on m) sound).bind
    · rintro h t ⟨able, -⟩
      simp only [Operation.nodes, List.mem_cons, List.not_mem_nil, or_false] at given
      exact given.elim (absent able.live₁) (absent able.live₂)
    · exact fun _ _ refused => refused.2
  | addTriangle a b c =>
    apply (Edit.addTriangle_ends (s := Session.on m) sound).bind
    · rintro f t ⟨h₁, h₂, h₃, m₁, m₂, m₃, outlined, -⟩
      exact absent (outlined.live sound n given) rfl
    · rintro error m' ⟨-, -, rolledBack⟩
      exact rolledBack.sameRecords sound fun live => absurd rfl (absent (live n given))
  | _ => cases given

theorem declines_of_dead_edge {e : EdgeId} (dead : m.containsEdge e = false)
    (given : e ∈ operation.edges) : m.Declines operation := by
  apply declines_of_ends
  cases operation with
  | removeEdge e' =>
    cases List.mem_singleton.1 given
    apply (Edit.removeEdge_ends (s := Session.on m) sound).bind
    · rintro - t ⟨live, -⟩
      cases live.symm.trans dead
    · rintro error m' ⟨-, rfl, -⟩
      exact .refl _
  | splitEdge e' position =>
    cases List.mem_singleton.1 given
    apply (Edit.splitEdge_ends (s := Session.on m) sound).bind
    · rintro x t ⟨-, n₁, n₂, k₁, k₂, leads, -⟩
      have live := leads.live
      rw [containsHalfedge_eq_containsEdge] at live
      cases live.symm.trans dead
    · rintro error m' ⟨-, rfl, -⟩
      exact .refl _
  | _ => cases given

theorem declines_of_dead_halfedge {h : HalfedgeId} (dead : m.containsHalfedge h = false)
    (given : h ∈ operation.halfedges) : m.Declines operation := by
  apply declines_of_ends
  cases operation with
  | addFace h₁ h₂ h₃ =>
    have absent {g : HalfedgeId} (free : m.Free g) : h ≠ g := by
      rintro rfl
      cases (containsHalfedge_iff_faceOf?.2 ⟨none, free⟩).symm.trans dead
    apply (Edit.addFace_ends (s := Session.on m) sound).bind
    · rintro f t ⟨fits, -⟩
      exact absent (fits.free h given) rfl
    · rintro error m' ⟨misfit, -, -, rfl | rfl⟩
      · cases misfit with
        | blocked free₁ free₂ free₃ =>
          simp [Operation.halfedges, absent free₁, absent free₂, absent free₃] at given
      · exact .refl _
  | _ => cases given

theorem declines_of_dead_face {f : FaceId} (dead : m.containsFace f = false)
    (given : f ∈ operation.faces) : m.Declines operation := by
  apply declines_of_ends
  cases operation with
  | removeFace f' =>
    cases List.mem_singleton.1 given
    apply (Edit.removeFace_ends (s := Session.on m) sound).bind
    · rintro - t ⟨t', removed⟩
      cases (sound.face_live _ f removed.triangle.faceOf?_a).symm.trans dead
    · rintro error m' ⟨-, rfl, -⟩
      exact .refl _
  | splitFace f' position =>
    cases List.mem_singleton.1 given
    apply (Edit.splitFace_ends (s := Session.on m) sound).bind
    · rintro x t ⟨-, a, b, c, corners, -⟩
      cases corners.symm.trans (deniesFace_of_dead dead).faceNodes
    · rintro error m' ⟨-, rfl, -⟩
      exact .refl _
  | _ => cases given

end Sound

/-! ## Along runs -/

theorem dead_of_stale {kind : RecordKind} {α : Type} {s t : SlotStore kind α} {k : Key kind}
    {log : List (SlotEvent kind)} (evolves : s.Evolves log t) (stale : Stale k log) :
    (t.get? k).isSome = false := by
  rw [evolves.get?_of_stale stale]
  rfl

/-- Every run of operations and round trips has a log, and whatever its log: about what is stale,
all questions are denied, and all operations on it are declined. -/
theorem stale_of_steps (steps : List Step) :
    let m := empty.runSteps steps
    (∃ log, empty.Chronicle steps log) ∧ ∀ log, empty.Chronicle steps log →
      (∀ n, Stale n log.nodes →
        m.DeniesNode n ∧ ∀ operation : Operation, n ∈ operation.nodes → m.Declines operation) ∧
      (∀ e, Stale e log.edges →
        m.DeniesEdge e ∧ ∀ operation : Operation, e ∈ operation.edges → m.Declines operation) ∧
      (∀ h : HalfedgeId, Stale h.edge log.edges →
        m.DeniesHalfedge h ∧
          ∀ operation : Operation, h ∈ operation.halfedges → m.Declines operation) ∧
      ∀ f, Stale f log.faces →
        m.DeniesFace f ∧ ∀ operation : Operation, f ∈ operation.faces → m.Declines operation := by
  intro m
  have sound : m.Sound := sound_empty.runSteps steps
  constructor
  · exact sound_empty.exists_chronicle steps
  intro log chronicle
  have evolves := chronicle.evolves
  constructor
  · intro n stale
    have dead : m.containsNode n = false := dead_of_stale evolves.nodes stale
    exact ⟨sound.deniesNode dead, fun _ => sound.declines_of_dead_node dead⟩
  constructor
  · intro e stale
    have dead : m.containsEdge e = false := dead_of_stale evolves.edges stale
    exact ⟨deniesEdge_of_dead dead, fun _ => sound.declines_of_dead_edge dead⟩
  constructor
  · intro h stale
    have dead : m.containsHalfedge h = false := by
      rw [containsHalfedge_eq_containsEdge]
      exact dead_of_stale evolves.edges stale
    exact ⟨deniesHalfedge_of_dead dead, fun _ => sound.declines_of_dead_halfedge dead⟩
  · intro f stale
    have dead : m.containsFace f = false := dead_of_stale evolves.faces stale
    exact ⟨deniesFace_of_dead dead, fun _ => sound.declines_of_dead_face dead⟩

/-- A triangle of which one corner is removed.  After a round trip its slot is filled again. -/
def reuse : List Step :=
  [.edit (.build ⟨[⟨0, 0⟩, ⟨1, 0⟩, ⟨0, 1⟩], [⟨0, 1, 2⟩]⟩), .edit (.removeNode ⟨1, 0⟩), .roundTrip,
    .edit (.addNode ⟨2, 2⟩)]

/-- What happened in the course of this. -/
def reuseLog : Log where
  nodes := [.filled ⟨1, 1⟩, .vacated ⟨1, 0⟩, .filled ⟨3, 0⟩, .filled ⟨2, 0⟩, .filled ⟨1, 0⟩]
  edges := [.vacated ⟨3, 0⟩, .vacated ⟨1, 0⟩, .filled ⟨3, 0⟩, .filled ⟨2, 0⟩, .filled ⟨1, 0⟩]
  faces := [.vacated ⟨1, 0⟩, .filled ⟨1, 0⟩]

theorem restored_reuse : let m := empty.runSteps (reuse.take 2)
    m.restored = m.reloaded := by
  have sound : (empty.runSteps (reuse.take 2)).Sound := sound_empty.runSteps _
  exact sound.restored_eq ⟨by decide +kernel, by decide +kernel, by decide +kernel⟩
    (by decide +kernel)

theorem runSteps_reuse : empty.runSteps reuse =
    (Operation.addNode ⟨2, 2⟩).result (empty.runSteps (reuse.take 2)).reloaded := by
  rw [← restored_reuse]
  rfl

theorem chronicle_reuse : empty.Chronicle reuse reuseLog := by
  let m₁ := (reuse[0]).result empty
  let m₂ := (reuse[1]).result m₁
  let node (m : Mesh) (i : Nat) : Node := (m.node? ⟨i, 0⟩).getD ⟨⟨0, 0⟩, none⟩
  let edge (m : Mesh) (i : Nat) : Edge := (m.edge? ⟨i, 0⟩).getD (.between ⟨i, 0⟩ ⟨1, 0⟩ ⟨1, 0⟩)
  let three {kind : RecordKind} : List (SlotEvent kind) :=
    [.filled ⟨3, 0⟩, .filled ⟨2, 0⟩, .filled ⟨1, 0⟩]
  have built : empty.Evolves ⟨three, three, [.filled ⟨1, 0⟩]⟩ m₁ := by
    constructor
    · exact .reorder (((SlotStore.Evolves.refl.insert (node m₁ 1)).insert (node m₁ 2)).insert
        (node m₁ 3)) (by decide +kernel)
    · exact .reorder (((SlotStore.Evolves.refl.insert (edge m₁ 1)).insert (edge m₁ 2)).insert
        (edge m₁ 3)) (by decide +kernel)
    · exact .reorder (SlotStore.Evolves.refl.insert ⟨Key.first ⟨1, 0⟩⟩) (by decide +kernel)
  have removed : m₁.Evolves
      ⟨[.vacated ⟨1, 0⟩], [.vacated ⟨3, 0⟩, .vacated ⟨1, 0⟩], [.vacated ⟨1, 0⟩]⟩ m₂ := by
    constructor
    · exact .reorder (((SlotStore.Evolves.refl.erase (by decide +kernel)).modify ⟨2, 0⟩
        fun _ => node m₂ 2).modify ⟨3, 0⟩ fun _ => node m₂ 3) (by decide +kernel)
    · exact .reorder (((SlotStore.Evolves.refl.erase (by decide +kernel)).erase
        (by decide +kernel)).modify ⟨2, 0⟩ fun _ => edge m₂ 2) (by decide +kernel)
    · exact .reorder (SlotStore.Evolves.refl.erase (by decide +kernel)) (by decide +kernel)
  have sound : m₂.Sound := sound_empty.runSteps (reuse.take 2)
  have key : m₂.restored.nodes.nextKey = ⟨1, 1⟩ := by
    rw [show m₂.restored = m₂.reloaded from restored_reuse]
    decide +kernel
  have last {m : Mesh} (key : m.nodes.nextKey = ⟨1, 1⟩) :
      m.Chronicle [.edit (.addNode ⟨2, 2⟩)] ⟨[.filled ⟨1, 1⟩], [], []⟩ := by
    rw [← key]
    exact .step (.edit (.addNode ⟨2, 2⟩)) (Operation.evolves_addNode m ⟨2, 2⟩) (.start _)
  have rest : m₂.Chronicle [.roundTrip, .edit (.addNode ⟨2, 2⟩)] ⟨[.filled ⟨1, 1⟩], [], []⟩ :=
    .step .roundTrip sound.sameSlots_restored.evolves (last key)
  exact .step _ built (.step _ removed rest)

/-- The slot of the corner has a new record, and its former handle is still denied, as are those of
an edge, its sides and the face that went with it. -/
theorem stale_of_steps_reuse :
    let m := empty.runSteps reuse
    let h : HalfedgeId := Key.first ⟨1, 0⟩
    empty.Chronicle reuse reuseLog ∧ m.containsNode ⟨1, 1⟩ = true ∧
      (Stale ⟨1, 0⟩ reuseLog.nodes ∧ m.DeniesNode ⟨1, 0⟩ ∧
        m.Declines (.addTriangle ⟨2, 0⟩ ⟨1, 1⟩ ⟨1, 0⟩)) ∧
      (Stale ⟨1, 0⟩ reuseLog.edges ∧ m.DeniesEdge ⟨1, 0⟩ ∧ m.Declines (.removeEdge ⟨1, 0⟩)) ∧
      (m.DeniesHalfedge h ∧ m.Declines (.addFace (Key.first ⟨2, 0⟩) h (Key.second ⟨2, 0⟩))) ∧
      Stale ⟨1, 0⟩ reuseLog.faces ∧ m.DeniesFace ⟨1, 0⟩ ∧
        m.Declines (.splitFace ⟨1, 0⟩ ⟨0, 0⟩) := by
  intro m h
  have again : m.containsNode ⟨1, 1⟩ = true := by
    rw [show m = _ from runSteps_reuse]
    decide +kernel
  have node : Stale ⟨1, 0⟩ reuseLog.nodes := ⟨[.filled ⟨1, 1⟩], _, rfl, by decide⟩
  have edge : Stale ⟨1, 0⟩ reuseLog.edges := ⟨[.vacated ⟨3, 0⟩], _, rfl, by decide⟩
  have face : Stale ⟨1, 0⟩ reuseLog.faces := ⟨[], _, rfl, by decide⟩
  have stale := (stale_of_steps reuse).2 reuseLog chronicle_reuse
  have nodes := stale.1 ⟨1, 0⟩ node
  have edges := stale.2.1 ⟨1, 0⟩ edge
  have halfedges := stale.2.2.1 h edge
  have faces := stale.2.2.2 ⟨1, 0⟩ face
  exact ⟨chronicle_reuse, again, ⟨node, nodes.1, nodes.2 _ (by decide)⟩,
    ⟨edge, edges.1, edges.2 _ (by decide)⟩, ⟨halfedges.1, halfedges.2 _ (by decide)⟩, face, faces.1,
    faces.2 _ (by decide)⟩

/-- The former handle of the corner is stale, and still it is no error to ask which half-edge leads
there from a live node. -/
theorem findHalfedge_of_stale_end :
    let m := empty.runSteps reuse
    empty.Chronicle reuse reuseLog ∧ Stale ⟨1, 0⟩ reuseLog.nodes ∧
      m.findHalfedge ⟨2, 0⟩ ⟨1, 0⟩ = .ok none ∧
      m.findHalfedge ⟨2, 0⟩ ⟨1, 0⟩ ≠ .error (.invalidNode ⟨1, 0⟩) := by
  intro m
  have stale : Stale ⟨1, 0⟩ reuseLog.nodes := ⟨[.filled ⟨1, 1⟩], _, rfl, by decide⟩
  have answer : m.findHalfedge ⟨2, 0⟩ ⟨1, 0⟩ = .ok none := by
    rw [show m = _ from runSteps_reuse]
    decide +kernel
  refine ⟨chronicle_reuse, stale, answer, ?_⟩
  rw [answer]
  nofun

end Mesh

end PlanarMesh
