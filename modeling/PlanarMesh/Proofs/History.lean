import PlanarMesh.Proofs.Composition
import PlanarMesh.Proofs.Reachability
import PlanarMesh.Proofs.Snapshot.RoundTrip
import PlanarMesh.Proofs.Storage.History

/-!
# Histories of meshes

Whatever an edit does to the stores of a mesh, it does by storing, dropping and changing single
records.  So every operation has a log (`Operation.evolved_result`), also one that is refused or
takes back what it did: then the log lists what was stored for a while, and that slots were vacated
again.

A mesh that is saved and loaded again has the same slots.  So runs of operations and round trips
have a log as well (`exists_chronicle`).
-/

namespace PlanarMesh

/-- What happened in the stores of a mesh, the latest events first. -/
structure Log where
  nodes : List (SlotEvent .node)
  edges : List (SlotEvent .edge)
  faces : List (SlotEvent .face)

namespace Log

/-- Nothing happened. -/
def nothing : Log :=
  ⟨[], [], []⟩

/-- What is listed in `later` happened after what is listed in `earlier`. -/
def after (later earlier : Log) : Log :=
  ⟨later.nodes ++ earlier.nodes, later.edges ++ earlier.edges, later.faces ++ earlier.faces⟩

end Log

namespace Mesh

/-- What the log lists led from `m` to `m'`. -/
structure Evolves (m : Mesh) (log : Log) (m' : Mesh) : Prop where
  nodes : m.nodes.Evolves log.nodes m'.nodes
  edges : m.edges.Evolves log.edges m'.edges
  faces : m.faces.Evolves log.faces m'.faces

/-- Single records were stored, dropped or changed. -/
def Evolved (m m' : Mesh) : Prop :=
  ∃ log, m.Evolves log m'

variable {m m' m'' : Mesh} {log later : Log}

theorem Evolves.refl (m : Mesh) : m.Evolves .nothing m :=
  ⟨.refl, .refl, .refl⟩

theorem Evolves.trans (first : m.Evolves log m') (second : m'.Evolves later m'') :
    m.Evolves (later.after log) m'' where
  nodes := first.nodes.trans second.nodes
  edges := first.edges.trans second.edges
  faces := first.faces.trans second.faces

theorem SameSlots.evolves (same : m.SameSlots m') : m.Evolves .nothing m' where
  nodes := .reorder .refl same.nodes
  edges := .reorder .refl same.edges
  faces := .reorder .refl same.faces

namespace Evolved

theorem refl (m : Mesh) : m.Evolved m :=
  ⟨.nothing, .refl m⟩

theorem trans (first : m.Evolved m') (second : m'.Evolved m'') : m.Evolved m'' := by
  rcases first with ⟨log, first⟩
  rcases second with ⟨later, second⟩
  exact ⟨later.after log, first.trans second⟩

theorem of_nodes {events : List (SlotEvent .node)} (nodes : m.nodes.Evolves events m'.nodes)
    (edges : m'.edges = m.edges) (faces : m'.faces = m.faces) : m.Evolved m' :=
  ⟨⟨events, [], []⟩, nodes, edges ▸ .refl, faces ▸ .refl⟩

theorem of_edges {events : List (SlotEvent .edge)} (edges : m.edges.Evolves events m'.edges)
    (nodes : m'.nodes = m.nodes) (faces : m'.faces = m.faces) : m.Evolved m' :=
  ⟨⟨[], events, []⟩, nodes ▸ .refl, edges, faces ▸ .refl⟩

theorem of_faces {events : List (SlotEvent .face)} (faces : m.faces.Evolves events m'.faces)
    (nodes : m'.nodes = m.nodes) (edges : m'.edges = m.edges) : m.Evolved m' :=
  ⟨⟨[], [], events⟩, nodes ▸ .refl, edges ▸ .refl, faces⟩

end Evolved

end Mesh

/-- Every building block has a log. -/
theorem Mesh.stepwise_evolved : Stepwise Evolved where
  refl := .refl
  trans := .trans
  modifyHalfedge m h f := .of_edges (.modify h.edge _ .refl) rfl rfl
  setRepresentative m n h := .of_nodes (.modify n _ .refl) rfl rfl
  insertEdge m record := .of_edges (.insert record .refl) rfl rfl
  dropEdge m e := by
    rcases m.edges.exists_evolves_erase e with ⟨events, evolves⟩
    exact .of_edges evolves rfl rfl
  insertFace m record := .of_faces (.insert record .refl) rfl rfl
  dropFace m f := by
    rcases m.faces.exists_evolves_erase f with ⟨events, evolves⟩
    exact .of_faces evolves rfl rfl
  storeNode m record := .of_nodes (.insert record .refl) rfl rfl
  removeNode m n := by
    rcases m.nodes.exists_evolves_erase n with ⟨events, evolves⟩
    exact .of_nodes evolves rfl rfl

namespace Operation

theorem evolves_addNode (m : Mesh) (position : Point) :
    m.Evolves ⟨[.filled m.nodes.nextKey], [], []⟩ ((addNode position).result m) where
  nodes := .insert (Node.mk position none) .refl
  edges := .refl
  faces := .refl

theorem evolved_result (operation : Operation) (m : Mesh) : m.Evolved (operation.result m) :=
  Mesh.stepwise_evolved.operation operation m

end Operation

/-! ## Runs -/

/-- The mesh after it was saved.  What was saved is loaded, and replaces it if that succeeds. -/
def Mesh.restored (m : Mesh) : Mesh :=
  match load m.save with
  | .ok m' => m'
  | .error _ => m

/-- A step of a run. -/
inductive Step where
  | edit (operation : Operation)
  | roundTrip

/-- The mesh after a step. -/
def Step.result (m : Mesh) : Step → Mesh
  | edit operation => operation.result m
  | roundTrip => m.restored

namespace Mesh

/-- The mesh after a sequence of steps. -/
def runSteps (m : Mesh) (steps : List Step) : Mesh :=
  steps.foldl Step.result m

/-- The log of a sequence of steps: a log of each step, one after the other. -/
inductive Chronicle : Mesh → List Step → Log → Prop
  | start (m : Mesh) : Chronicle m [] .nothing
  | step {m : Mesh} {steps : List Step} {log later : Log} (step : Step) :
    m.Evolves log (step.result m) → Chronicle (step.result m) steps later →
    Chronicle m (step :: steps) (later.after log)

variable {m : Mesh}

theorem Chronicle.evolves {steps : List Step} {log : Log} (chronicle : m.Chronicle steps log) :
    m.Evolves log (m.runSteps steps) := by
  induction chronicle with
  | start m => exact .refl m
  | step _ evolves _ inductionHypothesis => exact evolves.trans inductionHypothesis

theorem Sound.restored_eq (sound : m.Sound) (addressable : m.Addressable)
    (finite : m.FinitePositions) : m.restored = m.reloaded := by
  have intact := checkTopology_tells.eq_ok_iff.1 sound.checkInvariants
  rw [restored, load_save addressable intact finite]

/-- Saving and loading leaves the slots of a sound mesh as they are. -/
theorem Sound.sameSlots_restored (sound : m.Sound) : m.SameSlots m.restored := by
  cases loaded : load m.save with
  | ok m' =>
    rcases load_save_of_ok loaded with ⟨finite, addressable⟩
    rw [sound.restored_eq addressable finite]
    exact m.sameSlots_reloaded
  | error error =>
    rw [restored, loaded]
    exact ⟨rfl, rfl, rfl⟩

theorem Sound.step_result (sound : m.Sound) (step : Step) : (step.result m).Sound := by
  cases step with
  | edit operation => exact operation.sound_result sound
  | roundTrip => exact sound.sameSlots_restored.sameRecords.sound sound

theorem Sound.runSteps (sound : m.Sound) (steps : List Step) : (m.runSteps steps).Sound := by
  induction steps generalizing m with
  | nil => exact sound
  | cons step steps inductionHypothesis => exact inductionHypothesis (sound.step_result step)

/-- Every run has a log. -/
theorem Sound.exists_chronicle (sound : m.Sound) (steps : List Step) :
    ∃ log, m.Chronicle steps log := by
  induction steps generalizing m with
  | nil => exact ⟨.nothing, .start m⟩
  | cons step steps inductionHypothesis =>
    rcases inductionHypothesis (sound.step_result step) with ⟨later, rest⟩
    have evolved : m.Evolved (step.result m) := by
      cases step with
      | edit operation => exact operation.evolved_result m
      | roundTrip => exact ⟨.nothing, sound.sameSlots_restored.evolves⟩
    rcases evolved with ⟨log, evolves⟩
    exact ⟨later.after log, .step step evolves rest⟩

end Mesh

end PlanarMesh
