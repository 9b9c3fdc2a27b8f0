import PlanarMesh.Edit.Operation
import PlanarMesh.Proofs.Intact
import PlanarMesh.Proofs.Snapshot.Reading

/-!
# Saved meshes are loaded again

A valid mesh with finite positions is loaded as it was saved, slot by slot (`load_save`): all keys
in its records name live records, hence slots that 32-bit indices reach, and the checks at the end
see the same records.  Only a mesh with more slots than 32-bit indices can tell apart is refused.

What loading makes of a document is a mesh whose vacant slots are in the order of a loaded mesh, so
saving and loading it again gives that very mesh.  The document need not be the one that saving
writes: records may be given as lists, fields in any order and numbers of either kind.  But its
numbers have to be finite, as all written numbers are.
-/

namespace PlanarMesh

open Storable

namespace Mesh

/-! ## The same slots -/

/-- The slots hold the same records and have reached the same generations, vacant ones too. -/
structure SameSlots (m m' : Mesh) : Prop where
  nodes : m'.nodes.slots = m.nodes.slots
  edges : m'.edges.slots = m.edges.slots
  faces : m'.faces.slots = m.faces.slots

/-- Every store has fewer slots than 32-bit indices tell apart. -/
structure Addressable (m : Mesh) : Prop where
  nodes : m.nodes.slots.size < Key.nullIndex
  edges : m.edges.slots.size < Key.nullIndex
  faces : m.faces.slots.size < Key.nullIndex

/-- The mesh with the same slots, in which vacant slots are filled in the order of a loaded one. -/
def reloaded (m : Mesh) : Mesh :=
  ⟨m.nodes.reloaded, m.edges.reloaded, m.faces.reloaded, none⟩

variable {m m' : Mesh}

theorem sameSlots_reloaded (m : Mesh) : m.SameSlots m.reloaded :=
  ⟨m.nodes.slots_reloaded, m.edges.slots_reloaded, m.faces.slots_reloaded⟩

theorem SameSlots.sameRecords (same : m.SameSlots m') : m.SameRecords m' where
  node? := SlotStore.get?_congr same.nodes
  halfedge? h := by rw [halfedge?, halfedge?, edge?, edge?, SlotStore.get?_congr same.edges]
  face? := SlotStore.get?_congr same.faces

namespace SameRecords

variable (same : m.SameRecords m')

include same

theorem containsNode (n : NodeId) : m'.containsNode n = m.containsNode n := by
  rw [Mesh.containsNode, Mesh.containsNode, same.node?]

theorem containsHalfedge (h : HalfedgeId) : m'.containsHalfedge h = m.containsHalfedge h := by
  rw [Mesh.containsHalfedge, Mesh.containsHalfedge, same.halfedge?]

theorem containsFace (f : FaceId) : m'.containsFace f = m.containsFace f := by
  rw [Mesh.containsFace, Mesh.containsFace, same.face?]

theorem around? (h : HalfedgeId) : m'.around? h = m.around? h :=
  same.next? h.pair

theorem represents {n : NodeId} {r : HalfedgeId} (represents : m'.Represents n r) :
    m.Represents n r := by
  rcases represents with ⟨record, found, chosen⟩
  exact ⟨record, (same.node? n).symm.trans found, chosen⟩

/-- Whether records fit together does not depend on where they are kept. -/
theorem intact (intact : m.Intact) : m'.Intact where
  represented n r represents :=
    (same.origin? r).trans (intact.represented n r (same.represents represents))
  fits h record found := by
    have fits := intact.fits h record ((same.halfedge? h).symm.trans found)
    exact
      { origin_live := (same.containsNode _).trans fits.origin_live
        next_live := (same.containsHalfedge _).trans fits.next_live
        prev_live := (same.containsHalfedge _).trans fits.prev_live
        next_of_prev := (same.next? _).trans fits.next_of_prev
        prev_of_next := (same.prev? _).trans fits.prev_of_next
        next_starts := by rw [same.origin?, same.origin?, fits.next_starts]
        face_live := fun f reported => (same.containsFace f).trans (fits.face_live f reported) }
  covered h n start := by
    rcases intact.covered h n ((same.origin? h).symm.trans start) with
      ⟨r, ⟨record, found, chosen⟩, around⟩
    refine ⟨r, ⟨record, (same.node? n).trans found, chosen⟩, ?_⟩
    exact Relation.ReflTransGen.mono (fun g _ next => (same.around? g).trans next) r h around
  enclosed f record found := by
    rcases intact.enclosed f record ((same.face? f).symm.trans found) with
      ⟨h₂, h₃, reports₁, next₁, reports₂, next₂, reports₃, next₃⟩
    exact ⟨h₂, h₃, (same.faceOf? _).trans reports₁, (same.next? _).trans next₁,
      (same.faceOf? _).trans reports₂, (same.next? _).trans next₂,
      (same.faceOf? _).trans reports₃, (same.next? _).trans next₃⟩
  faced := by
    have count : m'.faceCount = m.faceCount := SlotStore.size_eq_of_contains same.containsFace
    simp only [same.faceOf?, count]
    exact intact.faced

end SameRecords

/-! ## Saving and loading -/

theorem load_eq_ok_iff {document : Document} :
    load document = .ok m ↔ readRecords? document = some m ∧ m.checkTopology {} = .ok () := by
  unfold load
  split
  · next malformed => simp [malformed]
  · next m' read =>
    rw [read]
    split
    · next checks =>
      simp only [Except.ok.injEq, Option.some.injEq]
      constructor
      · rintro rfl
        exact ⟨rfl, checks⟩
      · exact And.left
    · next error checks =>
      simp only [reduceCtorEq, Option.some.injEq, false_iff, not_and]
      rintro rfl passes
      cases checks.symm.trans passes

theorem readRecords?_save (m : Mesh) :
    readRecords? m.save = (return ⟨← read? (write m.nodes), ← read? (write m.edges),
      ← read? (write m.faces), none⟩) := by
  have fields : m.save.fields? ["nodes", "edges", "faces"] =
      some [some (write m.nodes), some (write m.edges), some (write m.faces)] :=
    Document.fields?_record (by simp)
  simp only [readRecords?, fields, bind, Option.bind_some, pure, readField?]

end Mesh

/-- A record in a slot is named by the key of the slot's generation. -/
theorem SlotStore.exists_get? {kind : RecordKind} {α : Type} {s : SlotStore kind α} {slot : Slot α}
    (mem : slot ∈ s.slots.toList) {value : α} (holds : slot.value = some value) :
    ∃ k, s.get? k = some value := by
  rcases List.getElem?_of_mem mem with ⟨i, found⟩
  cases slot with
  | mk generation content =>
    cases holds
    rw [Array.getElem?_toList] at found
    exact ⟨⟨i, generation⟩, get?_eq_some_iff.2 found⟩

namespace Mesh

variable {m : Mesh}

section Live

variable (addressable : m.Addressable)

include addressable

theorem Addressable.node {n : NodeId} (live : m.containsNode n = true) : n.Addressed := by
  rcases Option.isSome_iff_exists.1 live with ⟨record, found⟩
  exact Nat.lt_trans (SlotStore.lt_size_of_get? found) addressable.nodes

theorem Addressable.halfedge {h : HalfedgeId} (live : m.containsHalfedge h = true) :
    h.edge.Addressed := by
  rw [containsHalfedge_eq_containsEdge] at live
  rcases Option.isSome_iff_exists.1 live with ⟨record, found⟩
  exact Nat.lt_trans (SlotStore.lt_size_of_get? found) addressable.edges

theorem Addressable.face {f : FaceId} (live : m.containsFace f = true) : f.Addressed := by
  rcases Option.isSome_iff_exists.1 live with ⟨record, found⟩
  exact Nat.lt_trans (SlotStore.lt_size_of_get? found) addressable.faces

variable (intact : m.Intact)

include intact

theorem recovers_nodes (finite : m.FinitePositions) :
    ∀ slot ∈ m.nodes.slots.toList, Recovers slot := by
  intro slot mem
  have apparent : ∀ node : Node, write node ≠ .null := fun _ => nofun
  apply recovers_slot _ apparent
  intro node holds
  rcases SlotStore.exists_get? mem holds with ⟨n, found⟩
  apply recovers_node
  · exact finite n _ (by rw [position_eq_orInvalid, show m.node? n = some node from found]; rfl)
  · intro h chosen
    exact addressable.halfedge
      (containsHalfedge_of_origin? (intact.represented n h ⟨node, found, chosen⟩))

theorem addressed_of_intact {h : HalfedgeId} {record : Halfedge}
    (found : m.halfedge? h = some record) : record.Addressed where
  origin := addressable.node (intact.fits h record found).origin_live
  next := addressable.halfedge (intact.fits h record found).next_live
  prev := addressable.halfedge (intact.fits h record found).prev_live
  face f reported := addressable.face ((intact.fits h record found).face_live f reported)

theorem recovers_edges : ∀ slot ∈ m.edges.slots.toList, Recovers slot := by
  intro slot mem
  have apparent : ∀ edge : Edge, write edge ≠ .null := fun _ => nofun
  apply recovers_slot _ apparent
  intro edge holds
  rcases SlotStore.exists_get? mem holds with ⟨e, found⟩
  have sides (side : Side) : m.halfedge? ⟨e, side⟩ = some (edge.halfedge side) := by
    rw [halfedge?, show m.edge? e = some edge from found]
    rfl
  exact recovers_edge (addressed_of_intact addressable intact (sides .first))
    (addressed_of_intact addressable intact (sides .second))

theorem recovers_faces : ∀ slot ∈ m.faces.slots.toList, Recovers slot := by
  intro slot mem
  have apparent : ∀ face : Face, write face ≠ .null := fun _ => nofun
  apply recovers_slot _ apparent
  intro face holds
  rcases SlotStore.exists_get? mem holds with ⟨f, found⟩
  rcases intact.enclosed f face found with ⟨h₂, h₃, reports, -⟩
  exact recovers_face (addressable.halfedge (containsHalfedge_iff_faceOf?.2 ⟨_, reports⟩))

/-- A valid mesh is loaded as it was saved, but for the order in which vacant slots are filled. -/
theorem load_save (finite : m.FinitePositions) : load m.save = .ok m.reloaded := by
  have nodes := SlotStore.read?_write addressable.nodes (recovers_nodes addressable intact finite)
  have edges := SlotStore.read?_write addressable.edges (recovers_edges addressable intact)
  have faces := SlotStore.read?_write addressable.faces (recovers_faces addressable intact)
  rw [load_eq_ok_iff, readRecords?_save, nodes, edges, faces]
  exact ⟨rfl, checkTopology_tells.eq_ok_iff.2 ((sameSlots_reloaded m).sameRecords.intact intact)⟩

end Live

theorem load_save_of_not_addressable (large : ¬ m.Addressable) :
    load m.save = .error .malformed := by
  have malformed : readRecords? m.save = none := by
    rw [readRecords?_save]
    by_cases nodes : m.nodes.slots.size < Key.nullIndex
    · by_cases edges : m.edges.slots.size < Key.nullIndex
      · have faces : ¬ m.faces.slots.size < Key.nullIndex := fun faces =>
          large ⟨nodes, edges, faces⟩
        simp only [SlotStore.read?_write_of_large faces, bind, Option.bind_none,
          Option.bind_fun_none]
      · simp only [SlotStore.read?_write_of_large edges, bind, Option.bind_none,
          Option.bind_fun_none]
    · simp only [SlotStore.read?_write_of_large nodes, bind, Option.bind_none]
  rw [load, malformed]

/-! ## Loading what was loaded -/

theorem readRecords?_eq_some {document : Document} (read : readRecords? document = some m) :
    ∃ nodes edges faces, document.fields? ["nodes", "edges", "faces"] =
        some [some nodes, some edges, some faces] ∧ read? nodes = some m.nodes ∧
      read? edges = some m.edges ∧ read? faces = some m.faces ∧ m.cachedBox = none := by
  simp only [readRecords?, bind, Option.bind_eq_some_iff] at read
  rcases read with ⟨fields, split, read⟩
  split at read
  · simp only [Option.bind_eq_some_iff, pure, Option.some.injEq, readField?] at read
    rcases read with ⟨_, ⟨nodes, rfl, readNodes⟩, _, ⟨edges, rfl, readEdges⟩, _,
      ⟨faces, rfl, readFaces⟩, rfl⟩
    exact ⟨nodes, edges, faces, split, readNodes, readEdges, readFaces, rfl⟩
  · cases read

/-- A loaded mesh has its vacant slots in order, and no more slots than can be addressed. -/
theorem reloaded_of_readRecords? {document : Document} (read : readRecords? document = some m) :
    m.reloaded = m ∧ m.Addressable := by
  rcases readRecords?_eq_some read with ⟨_, _, _, -, nodes, edges, faces, box⟩
  constructor
  · rw [reloaded, SlotStore.reloaded_of_read? nodes, SlotStore.reloaded_of_read? edges,
      SlotStore.reloaded_of_read? faces, ← box]
  · exact ⟨SlotStore.size_of_read? nodes, SlotStore.size_of_read? edges,
      SlotStore.size_of_read? faces⟩

theorem finitePositions_of_nodes
    (finite : ∀ n node, m.node? n = some node → node.position.isFinite = true) :
    m.FinitePositions := by
  intro n p placed
  rw [position_eq_orInvalid, orInvalid_eq_ok_iff] at placed
  rcases Option.map_eq_some_iff.1 placed with ⟨node, found, rfl⟩
  exact finite n node found

theorem finitePositions_of_readRecords? {document : Document} (finite : document.FiniteNumbers)
    (read : readRecords? document = some m) : m.FinitePositions := by
  rcases readRecords?_eq_some read with ⟨nodes, _, _, split, readNodes, -⟩
  exact finitePositions_of_nodes fun n node found =>
    (finite.field split List.mem_cons_self).nodes readNodes found

/-- Only meshes with finite positions and few enough slots are loaded from what they are saved
as. -/
theorem load_save_of_ok {m' : Mesh} (loaded : load m.save = .ok m') :
    m.FinitePositions ∧ m.Addressable := by
  have read := (load_eq_ok_iff.1 loaded).1
  rw [readRecords?_save] at read
  simp only [bind, Option.bind_eq_some_iff] at read
  rcases read with ⟨nodes, readNodes, -⟩
  constructor
  · exact finitePositions_of_nodes fun n node found =>
      SlotStore.isFinite_of_read?_write readNodes found
  · by_contra large
    rw [load_save_of_not_addressable large] at loaded
    cases loaded

/-- A valid mesh with finite positions is saved and loaded slot by slot, and every handle resolves
as before, provided that 32-bit indices reach all slots.  What was loaded from any document is
saved and loaded as the same mesh. -/
theorem snapshot_roundTrip :
    (∀ m : Mesh, m.checkTopology {} = .ok () → m.FinitePositions →
      (m.Addressable → ∃ m', load m.save = .ok m' ∧ m.SameSlots m' ∧ m.SameRecords m') ∧
        (¬ m.Addressable → load m.save = .error .malformed)) ∧
      ∀ (document : Document) (m : Mesh), document.FiniteNumbers → load document = .ok m →
        load m.save = .ok m := by
  constructor
  · intro m checks finite
    have intact := checkTopology_tells.eq_ok_iff.1 checks
    have same := sameSlots_reloaded m
    constructor
    · intro addressable
      exact ⟨m.reloaded, load_save addressable intact finite, same, same.sameRecords⟩
    · exact load_save_of_not_addressable
  · intro document m finite loaded
    rcases load_eq_ok_iff.1 loaded with ⟨read, checks⟩
    rcases reloaded_of_readRecords? read with ⟨same, addressable⟩
    have intact := checkTopology_tells.eq_ok_iff.1 checks
    have again := load_save addressable intact (finitePositions_of_readRecords? finite read)
    rwa [same] at again

/-- After a node with its edges and its face was removed, and one of two later nodes as well. -/
def patched : List Operation :=
  [.build ⟨[⟨0, 0⟩, ⟨1, 0⟩, ⟨0, 1⟩, ⟨1, 1⟩], [⟨0, 1, 2⟩, ⟨2, 1, 3⟩]⟩, .removeNode ⟨4, 0⟩,
    .addNode ⟨2, 2⟩, .addNode ⟨3, 3⟩, .removeNode ⟨5, 0⟩]

/-- One node, its slots and records written as lists. -/
def listed : Document :=
  .list [.list [.list [.null, .integer 0],
      .list [.list [.list [.real 1, .real 2], .null], .integer 1]],
    .list [.list [.null, .integer 0]], .list [.list [.null, .integer 0]]]

/-- A mesh with vacant slots, and one that was given in another form than the written one. -/
theorem snapshot_roundTrip_patched :
    let m := empty.run patched
    let m' := empty.run [.addNode ⟨1, 2⟩]
    m.checkTopology {} = .ok () ∧ m.FinitePositions ∧ m.Addressable ∧
      (∃ m', load m.save = .ok m' ∧ m.SameSlots m' ∧ m.SameRecords m') ∧
      listed.FiniteNumbers ∧ load listed = .ok m' ∧ load m'.save = .ok m' := by
  intro m m'
  have checks : m.checkTopology {} = .ok () := by decide +kernel
  have finite : m.FinitePositions := by decide +kernel
  have addressable : m.Addressable := ⟨by decide +kernel, by decide +kernel, by decide +kernel⟩
  have zero : (nearestDouble 0).isFinite = true := by decide +kernel
  have one : (nearestDouble 1).isFinite = true := by decide +kernel
  have x : (1 : Float).isFinite = true := by decide +kernel
  have y : (2 : Float).isFinite = true := by decide +kernel
  have numbers : listed.FiniteNumbers := by
    simp [listed, zero, one, x, y, Document.FiniteNumbers.null]
  have loaded : load listed = .ok m' := rfl
  exact ⟨checks, finite, addressable, (snapshot_roundTrip.1 m checks finite).1 addressable,
    numbers, loaded, snapshot_roundTrip.2 listed m' numbers loaded⟩

end Mesh

end PlanarMesh
