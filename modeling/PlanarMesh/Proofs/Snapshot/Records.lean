import PlanarMesh.Proofs.Storage.Generations
import PlanarMesh.Snapshot.Records

/-!
# Records read back

What is written for a record is read back as the record (`Recovers`), as long as the words of the
written form can hold it: a key has to name a slot that a 32-bit index reaches, and the
coordinates of a position have to be finite.  Versions always fit.

Each reader is first put as an equation about a record with the right fields, whatever stands in
them (`read?_key`, `read?_node` and so on).  What stands in them is then a smaller written form.

A store is read back slot by slot (`read?_write_store`).  The order in which vacant slots are
filled again is not written, so it is the slots that are the same, and not the store.
-/

namespace PlanarMesh

open Storable

/-! ## Documents -/

namespace Document

theorem lookup_of_mem {fields : List (String × Document)} (nodup : (fields.map Prod.fst).Nodup)
    {field : String × Document} (mem : field ∈ fields) :
    lookup field.1 fields = some field.2 := by
  induction fields with
  | nil => cases mem
  | cons first fields inductionHypothesis =>
    rcases List.nodup_cons.1 nodup with ⟨fresh, nodup⟩
    rcases List.mem_cons.1 mem with rfl | mem
    · simp [lookup]
    · have other : first.1 ≠ field.1 := fun same =>
        fresh (same ▸ List.mem_map_of_mem mem)
      rw [← inductionHypothesis nodup mem, lookup, lookup,
        List.find?_cons_of_neg (by simpa using other)]

/-- A record that is asked for its own fields has them all. -/
theorem fields?_record {fields : List (String × Document)}
    (nodup : (fields.map Prod.fst).Nodup) :
    (record fields).fields? (fields.map Prod.fst) =
      some (fields.map fun field => some field.2) := by
  rw [fields?, List.map_map]
  congr 1
  exact List.map_congr_left fun field mem => lookup_of_mem nodup mem

end Document

namespace Storable

variable {α : Type} [Storable α]

/-- What is written for the value is read back as the value. -/
def Recovers (a : α) : Prop :=
  read? (write a) = some a

/-- A value that may be missing is read back if what is written for it is not mistaken for a
missing one. -/
theorem readOptional?_writeOptional {a : Option α} (recovers : ∀ x ∈ a, Recovers x)
    (apparent : ∀ x ∈ a, write x ≠ .null) : readOptional? (some (writeOptional a)) = some a := by
  cases a with
  | none => rfl
  | some x =>
    have readBack : read? (write x) = some x := recovers x rfl
    have written : write x ≠ .null := apparent x rfl
    rw [writeOptional]
    unfold readOptional?
    split
    · next empty => cases empty
    · next empty => exact absurd (Option.some.inj empty) written
    · next document same =>
      cases same
      rw [readBack]
      rfl

/-- A list is read back if its members are. -/
theorem mapM_read?_write {l : List α} (recovers : ∀ a ∈ l, Recovers a) :
    (l.map write).mapM read? = some l := by
  induction l with
  | nil => rfl
  | cons a l inductionHypothesis =>
    rcases List.forall_mem_cons.1 recovers with ⟨here, rest⟩
    rw [List.map_cons, List.mapM_cons, show read? (write a) = some a from here,
      inductionHypothesis rest]
    rfl

end Storable

/-! ## Handles -/

/-- A 32-bit word can name the slot of the key. -/
def Key.Addressed {kind : RecordKind} (k : Key kind) : Prop :=
  k.index < Key.nullIndex

theorem Key.version_lt {kind : RecordKind} (k : Key kind) : k.version < UInt32.size := by
  have bound := k.generation.isLt
  have size : UInt32.size = 2 * (1 <<< 31) := by decide
  rw [Key.version, size]
  omega

theorem read?_key {kind : RecordKind} (a b : Document) :
    (read? (.record [("idx", a), ("version", b)]) : Option (Key kind)) = (do
      let index ← readBelow? UInt32.size a
      let version ← readBelow? UInt32.size b
      return if index = Key.nullIndex then Key.null else Key.ofVersion index version) := by
  have fields : (Document.record [("idx", a), ("version", b)]).fields? ["idx", "version"] =
      some [some a, some b] := Document.fields?_record (by simp)
  simp only [read?, fields, bind, Option.bind_some, pure, apply_ite]

theorem recovers_key {kind : RecordKind} {k : Key kind} (addressed : k.Addressed) :
    Recovers k := by
  have small : k.index < UInt32.size := Nat.lt_of_lt_of_le addressed (Nat.sub_le _ _)
  have notNull : k.index ≠ Key.nullIndex := Nat.ne_of_lt addressed
  simp only [Recovers, write]
  rw [read?_key, readBelow?_integer small, readBelow?_integer k.version_lt]
  simp only [bind, Option.bind_some, if_neg notNull, Key.ofVersion_version, pure]

theorem recovers_side (side : Side) : Recovers side := by
  cases side <;> rfl

theorem read?_halfedgeId (a b : Document) :
    (read? (.record [("edge", a), ("side", b)]) : Option HalfedgeId) =
      (return ⟨← read? a, ← read? b⟩) := by
  have fields : (Document.record [("edge", a), ("side", b)]).fields? ["edge", "side"] =
      some [some a, some b] := Document.fields?_record (by simp)
  simp only [read?, fields, bind, Option.bind_some, pure, readField?]

theorem recovers_halfedgeId {h : HalfedgeId} (addressed : h.edge.Addressed) : Recovers h := by
  have edge : read? (write h.edge) = some h.edge := recovers_key addressed
  have side : read? (write h.side) = some h.side := recovers_side h.side
  rw [Recovers, write, instStorableHalfedgeId, read?_halfedgeId, edge, side]
  rfl

/-! ## Records -/

theorem readFloat?_ofFloat {x : Float} (finite : x.isFinite = true) :
    readFloat? (.ofFloat x) = some x := by
  rw [Document.ofFloat, if_pos finite]
  rfl

theorem recovers_point {p : Point} (finite : p.isFinite = true) : Recovers p := by
  rcases Bool.and_eq_true_iff.1 finite with ⟨xFinite, yFinite⟩
  have x := readFloat?_ofFloat xFinite
  have y := readFloat?_ofFloat yFinite
  simp only [Recovers, read?, write, x, y]
  rfl

theorem read?_node (a b : Document) :
    (read? (.record [("position", a), ("halfedge", b)]) : Option Node) =
      (return ⟨← read? a, ← readOptional? (some b)⟩) := by
  have fields : (Document.record [("position", a), ("halfedge", b)]).fields?
      ["position", "halfedge"] = some [some a, some b] := Document.fields?_record (by simp)
  simp only [read?, fields, bind, Option.bind_some, pure, readField?]

theorem recovers_node {node : Node} (finite : node.position.isFinite = true)
    (addressed : ∀ h ∈ node.halfedge, h.edge.Addressed) : Recovers node := by
  have position : read? (write node.position) = some node.position := recovers_point finite
  have halfedge := readOptional?_writeOptional
    (fun h mem => recovers_halfedgeId (addressed h mem)) (fun _ _ => nofun)
  rw [Recovers, write, instStorableNode, read?_node, position, halfedge]
  rfl

/-- All handles in the record of a half-edge are addressed. -/
structure Halfedge.Addressed (record : Halfedge) : Prop where
  origin : record.origin.Addressed
  next : record.next.edge.Addressed
  prev : record.prev.edge.Addressed
  face : ∀ f ∈ record.face, f.Addressed

theorem read?_halfedge (a b c d : Document) :
    (read? (.record [("origin", a), ("next", b), ("prev", c), ("face", d)]) : Option Halfedge) =
      (return ⟨← read? a, ← read? b, ← read? c, ← readOptional? (some d)⟩) := by
  have fields : (Document.record [("origin", a), ("next", b), ("prev", c), ("face", d)]).fields?
      ["origin", "next", "prev", "face"] = some [some a, some b, some c, some d] :=
    Document.fields?_record (by simp)
  simp only [read?, fields, bind, Option.bind_some, pure, readField?]

theorem recovers_halfedge {record : Halfedge} (addressed : record.Addressed) :
    Recovers record := by
  have origin : read? (write record.origin) = some record.origin := recovers_key addressed.origin
  have next : read? (write record.next) = some record.next := recovers_halfedgeId addressed.next
  have prev : read? (write record.prev) = some record.prev := recovers_halfedgeId addressed.prev
  have face := readOptional?_writeOptional (fun f mem => recovers_key (addressed.face f mem))
    (fun _ _ => nofun)
  rw [Recovers, write, instStorableHalfedge, read?_halfedge, origin, next, prev, face]
  rfl

theorem read?_edge (a b : Document) :
    (read? (.record [("halfedges", .list [a, b])]) : Option Edge) =
      (return ⟨← read? a, ← read? b⟩) := by
  have fields : (Document.record [("halfedges", .list [a, b])]).fields? ["halfedges"] =
      some [some (.list [a, b])] := Document.fields?_record (by simp)
  simp only [read?, fields, bind, Option.bind_some, pure]

theorem recovers_edge {edge : Edge} (first : edge.first.Addressed)
    (second : edge.second.Addressed) : Recovers edge := by
  have first' : read? (write edge.first) = some edge.first := recovers_halfedge first
  have second' : read? (write edge.second) = some edge.second := recovers_halfedge second
  rw [Recovers, write, instStorableEdge, read?_edge, first', second']
  rfl

theorem read?_face (a : Document) :
    (read? (.record [("halfedge", a)]) : Option Face) = (return ⟨← read? a⟩) := by
  have fields : (Document.record [("halfedge", a)]).fields? ["halfedge"] = some [some a] :=
    Document.fields?_record (by simp)
  simp only [read?, fields, bind, Option.bind_some, pure, readField?]

theorem recovers_face {face : Face} (addressed : face.halfedge.edge.Addressed) :
    Recovers face := by
  have halfedge : read? (write face.halfedge) = some face.halfedge := recovers_halfedgeId addressed
  rw [Recovers, write, instStorableFace, read?_face, halfedge]
  rfl

/-! ## Slots -/

namespace Slot

variable {α : Type}

theorem version_lt (slot : Slot α) : slot.version < UInt32.size := by
  have bound := slot.generation.isLt
  have size : UInt32.size = 2 * (1 <<< 31) := by decide
  rw [version, size]
  split <;> omega

theorem ofVersion_version (slot : Slot α) :
    Generation.ofVersion slot.version = slot.generation := by
  have bound := slot.generation.isLt
  have halved : slot.version / 2 = slot.generation.val := by
    rw [version]
    split <;> omega
  rw [Generation.ofVersion, halved]
  exact Fin.ext (Nat.mod_eq_of_lt bound)

/-- The version tells whether the slot holds a record. -/
theorem isSome_value_eq (slot : Slot α) : slot.value.isSome = (slot.version % 2 == 1) := by
  cases slot with
  | mk generation value =>
    have odd : (2 * generation.val + 1) % 2 = 1 := by omega
    cases value <;> simp [version, isVacant, odd]

end Slot

section Slots

variable {α : Type} [Storable α]

theorem read?_slot (a b : Document) :
    (read? (.record [("value", a), ("version", b)]) : Option (Slot α)) = (do
      let value ← readOptional? (some a)
      let version ← readBelow? UInt32.size b
      if value.isSome == (version % 2 == 1) then some ⟨Generation.ofVersion version, value⟩
      else none) := by
  have fields : (Document.record [("value", a), ("version", b)]).fields? ["value", "version"] =
      some [some a, some b] := Document.fields?_record (by simp)
  simp only [read?, fields, bind, Option.bind_some, pure]

theorem recovers_slot {slot : Slot α} (recovers : ∀ value ∈ slot.value, Recovers value)
    (apparent : ∀ value : α, write value ≠ .null) : Recovers slot := by
  have value := readOptional?_writeOptional recovers fun x _ => apparent x
  have version := readBelow?_integer slot.version_lt
  simp only [Recovers, write]
  rw [read?_slot, value, version]
  simp only [bind, Option.bind_some, slot.isSome_value_eq, beq_self_eq_true, if_true,
    slot.ofVersion_version]

end Slots

/-! ## Stores -/

namespace SlotStore

variable {kind : RecordKind} {α : Type}

theorem cons_tail_slots (s : SlotStore kind α) :
    Slot.fresh :: s.slots.toList.tail = s.slots.toList := by
  have first := s.slots_zero
  rw [← Array.getElem?_toList] at first
  cases listed : s.slots.toList with
  | nil => simp [listed] at first
  | cons slot rest =>
    rw [listed] at first
    cases first
    rfl

/-- The store with the same slots, in which vacant slots are filled in the order of a loaded
store. -/
def reloaded (s : SlotStore kind α) : SlotStore kind α :=
  .ofSlots s.slots.toList.tail

@[simp]
theorem slots_reloaded (s : SlotStore kind α) : s.reloaded.slots = s.slots := by
  rw [reloaded, ofSlots]
  simp only [s.cons_tail_slots]

@[simp]
theorem reloaded_ofSlots (slots : List (Slot α)) :
    (ofSlots slots : SlotStore kind α).reloaded = ofSlots slots :=
  rfl

variable [Storable α]

theorem read?_list (items : List Document) :
    (read? (.list items) : Option (SlotStore kind α)) = (do
      match ← items.mapM (read? (α := Slot α)) with
      | [] => none
      | first :: rest =>
        if first.isVacant ∧ items.length < Key.nullIndex then return ofSlots rest
        none) :=
  rfl

theorem write_eq (s : SlotStore kind α) : write s = .list (s.slots.toList.map write) :=
  rfl

/-- A store is read back slot by slot. -/
theorem read?_write {s : SlotStore kind α} (small : s.slots.size < Key.nullIndex)
    (recovers : ∀ slot ∈ s.slots.toList, Recovers slot) : read? (write s) = some s.reloaded := by
  have first : (Slot.fresh : Slot α).isVacant = true := rfl
  rw [write_eq, read?_list, mapM_read?_write recovers, List.length_map, Array.length_toList,
    ← s.cons_tail_slots]
  simp only [bind, Option.bind_some, first, small, and_self, if_true]
  rfl

/-- A store that 32-bit indices do not reach is not read. -/
theorem read?_write_of_large {s : SlotStore kind α} (large : ¬ s.slots.size < Key.nullIndex) :
    (read? (write s) : Option (SlotStore kind α)) = none := by
  rw [write_eq, read?_list, List.length_map, Array.length_toList]
  simp only [large, and_false, if_false, bind]
  rw [Option.bind_eq_none_iff]
  intro slots _
  cases slots <;> rfl

end SlotStore

end PlanarMesh
