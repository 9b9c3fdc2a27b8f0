import PlanarMesh.Proofs.Locate.Corners
import PlanarMesh.Proofs.Snapshot.Records
import PlanarMesh.Snapshot.Load

/-!
# What readers return

Documents may be given in more ways than they are written: records as lists, fields in any order
and numbers of either kind.  Whatever the way, a store that was read has no more slots than 32-bit
indices tell apart, and its vacant slots are in the order of a loaded store.  Positions are finite
if the numbers of the document are (`Document.FiniteNumbers`), and positions that are not finite
are never read from what is written for them.
-/

namespace PlanarMesh

open Storable

/-- All numbers in the document are finite, those too that are rounded to a double. -/
inductive Document.FiniteNumbers : Document → Prop
  | null : FiniteNumbers .null
  | truth (value : Bool) : FiniteNumbers (.truth value)
  | integer {value : Int} : (nearestDouble value).isFinite = true → FiniteNumbers (.integer value)
  | real {value : Float} : value.isFinite = true → FiniteNumbers (.real value)
  | text (value : String) : FiniteNumbers (.text value)
  | list {items : List Document} : (∀ item ∈ items, FiniteNumbers item) →
    FiniteNumbers (.list items)
  | record {fields : List (String × Document)} : (∀ field ∈ fields, FiniteNumbers field.2) →
    FiniteNumbers (.record fields)

namespace Document

@[simp]
theorem finiteNumbers_integer {value : Int} :
    (integer value).FiniteNumbers ↔ (nearestDouble value).isFinite = true :=
  ⟨fun | .integer finite => finite, .integer⟩

@[simp]
theorem finiteNumbers_real {value : Float} :
    (real value).FiniteNumbers ↔ value.isFinite = true :=
  ⟨fun | .real finite => finite, .real⟩

@[simp]
theorem finiteNumbers_list {items : List Document} :
    (list items).FiniteNumbers ↔ ∀ item ∈ items, item.FiniteNumbers :=
  ⟨fun | .list all => all, .list⟩

end Document

namespace Document.FiniteNumbers

variable {document : Document}

/-- What stands in a field of a document is part of the document. -/
theorem field (finite : document.FiniteNumbers) {names : List String}
    {fields : List (Option Document)} (split : document.fields? names = some fields)
    {item : Document} (mem : some item ∈ fields) : item.FiniteNumbers := by
  cases finite with
  | @list items all =>
    rw [fields?] at split
    split at split
    · cases split
      rcases List.mem_map.1 mem with ⟨item', listed, same⟩
      exact Option.some.inj same ▸ all item' listed
    · cases split
  | @record fields' all =>
    cases split
    rcases List.mem_map.1 mem with ⟨name, -, found⟩
    rw [lookup] at found
    rcases Option.map_eq_some_iff.1 found with ⟨field, first, rfl⟩
    exact all field (List.mem_of_find?_eq_some first)
  | null => cases split
  | truth => cases split
  | integer => cases split
  | real => cases split
  | text => cases split

theorem readFloat? (finite : document.FiniteNumbers) {x : Float}
    (read : Storable.readFloat? document = some x) : x.isFinite = true := by
  cases finite with
  | integer finite => exact Option.some.inj read ▸ finite
  | real finite => exact Option.some.inj read ▸ finite
  | null => cases read
  | truth => cases read
  | text => cases read
  | list => cases read
  | record => cases read

theorem point (finite : document.FiniteNumbers) {p : Point} (read : read? document = some p) :
    p.isFinite = true := by
  simp only [read?] at read
  split at read
  · next first second =>
    simp only [bind, Option.bind_eq_some_iff, pure, Option.some.injEq] at read
    rcases read with ⟨x, readX, y, readY, rfl⟩
    cases finite with
    | list all =>
      simp only [List.forall_mem_cons] at all
      exact Bool.and_eq_true_iff.2 ⟨all.1.readFloat? readX, all.2.1.readFloat? readY⟩
  · cases read

theorem node (finite : document.FiniteNumbers) {node : Node} (read : read? document = some node) :
    node.position.isFinite = true := by
  simp only [read?, bind, Option.bind_eq_some_iff] at read
  rcases read with ⟨fields, split, read⟩
  split at read
  · next first second =>
    simp only [Option.bind_eq_some_iff, pure, Option.some.injEq, readField?] at read
    rcases read with ⟨p, ⟨item, rfl, readP⟩, _, -, rfl⟩
    exact (finite.field split List.mem_cons_self).point readP
  · cases read

theorem slot (finite : document.FiniteNumbers) {slot : Slot Node}
    (read : read? document = some slot) : ∀ node ∈ slot.value, node.position.isFinite = true := by
  simp only [read?, bind, Option.bind_eq_some_iff] at read
  rcases read with ⟨fields, split, read⟩
  split at read
  · next first second =>
    simp only [Option.bind_eq_some_iff, pure] at read
    rcases read with ⟨value, readValue, _, -, _, -, read⟩
    split at read
    · cases read
      rintro node rfl
      unfold readOptional? at readValue
      split at readValue
      · cases readValue
      · cases readValue
      · next item =>
        rcases Option.map_eq_some_iff.1 readValue with ⟨node', readNode, same⟩
        cases same
        exact (finite.field split List.mem_cons_self).node readNode
    · cases read
  · cases read

end Document.FiniteNumbers

/-! ## Stores -/

/-- Collecting succeeds only with an answer for every element. -/
theorem forall₂_of_mapM {α β : Type} {f : α → Option β} {l : List α} {results : List β}
    (collected : l.mapM f = some results) : List.Forall₂ (fun x y => f x = some y) l results := by
  induction l generalizing results with
  | nil =>
    cases collected
    exact .nil
  | cons x l inductionHypothesis =>
    simp only [List.mapM_cons, bind, Option.bind_eq_some_iff, pure, Option.some.injEq] at collected
    rcases collected with ⟨y, here, rest, collected, rfl⟩
    exact .cons here (inductionHypothesis collected)

namespace SlotStore

variable {kind : RecordKind} {α : Type} [Storable α] {document : Document}

/-- A store is read from a list of slots, and keeps those after the first. -/
theorem exists_slots_of_read? {s : SlotStore kind α} (read : read? document = some s) :
    ∃ items first rest, document = .list items ∧ items.length < Key.nullIndex ∧
      List.Forall₂ (fun item slot => read? item = some slot) items (first :: rest) ∧
      s = ofSlots rest := by
  cases document with
  | list items =>
    rw [read?_list] at read
    simp only [bind, Option.bind_eq_some_iff] at read
    rcases read with ⟨slots, collected, read⟩
    cases slots with
    | nil => cases read
    | cons first rest =>
      simp only at read
      split at read
      · next fits =>
        cases read
        exact ⟨items, first, rest, rfl, fits.2, forall₂_of_mapM collected, rfl⟩
      · cases read
  | null => cases read
  | truth => cases read
  | integer => cases read
  | real => cases read
  | text => cases read
  | record => cases read

theorem reloaded_of_read? {s : SlotStore kind α} (read : read? document = some s) :
    s.reloaded = s := by
  rcases exists_slots_of_read? read with ⟨_, _, rest, -, -, -, rfl⟩
  exact reloaded_ofSlots rest

theorem size_of_read? {s : SlotStore kind α} (read : read? document = some s) :
    s.slots.size < Key.nullIndex := by
  rcases exists_slots_of_read? read with ⟨items, first, rest, -, small, slots, rfl⟩
  rw [slots.length_eq] at small
  simpa [ofSlots] using small

end SlotStore

/-- The positions in a store that was read from finite numbers are finite. -/
theorem Document.FiniteNumbers.nodes {document : Document} (finite : document.FiniteNumbers)
    {s : SlotStore .node Node} (read : read? document = some s) {n : NodeId} {node : Node}
    (found : s.get? n = some node) : node.position.isFinite = true := by
  rcases SlotStore.exists_slots_of_read? read with ⟨items, first, rest, rfl, -, slots, rfl⟩
  have occupied := SlotStore.get?_eq_some_iff.1 found
  have mem : ⟨n.generation, some node⟩ ∈ rest := by
    have listed := List.mem_of_getElem? (Array.getElem?_toList.trans occupied)
    apply (List.mem_cons.1 listed).resolve_left
    intro same
    cases congrArg Slot.value same
  rcases exists_related slots (List.mem_cons_of_mem first mem) with ⟨item, listed, readSlot⟩
  cases finite with
  | list all => exact (all item listed).slot readSlot node rfl

/-! ## What is not read -/

/-- A position that is not finite is not read from what is written for it. -/
theorem isFinite_of_read?_write {p q : Point} (read : read? (write p) = some q) :
    p.isFinite = true := by
  have written (x : Float) {y : Float} (read : readFloat? (.ofFloat x) = some y) :
      x.isFinite = true := by
    rw [Document.ofFloat] at read
    split at read
    · assumption
    · cases read
  simp only [read?, write, bind, Option.bind_eq_some_iff] at read
  rcases read with ⟨x, readX, y, readY, -⟩
  exact Bool.and_eq_true_iff.2 ⟨written p.x readX, written p.y readY⟩

/-- A store of nodes is read from what is written for it only if all positions are finite. -/
theorem SlotStore.isFinite_of_read?_write {s t : SlotStore .node Node}
    (read : read? (write s) = some t) {n : NodeId} {node : Node}
    (found : s.get? n = some node) : node.position.isFinite = true := by
  rcases exists_slots_of_read? read with ⟨items, first, rest, written, -, slots, -⟩
  rw [write_eq] at written
  cases written
  have occupied := get?_eq_some_iff.1 found
  have listed := List.mem_of_getElem? (Array.getElem?_toList.trans occupied)
  rcases exists_related slots.flip (List.mem_map_of_mem listed) with ⟨slot, -, readSlot⟩
  simp only [write] at readSlot
  rw [read?_slot] at readSlot
  simp only [bind, Option.bind_eq_some_iff] at readSlot
  rcases readSlot with ⟨value, readValue, -⟩
  rcases Option.map_eq_some_iff.1 readValue with ⟨node', readNode, -⟩
  simp only [writeOptional, write] at readNode
  rw [read?_node] at readNode
  simp only [bind, Option.bind_eq_some_iff] at readNode
  rcases readNode with ⟨p, readPosition, -⟩
  exact PlanarMesh.isFinite_of_read?_write readPosition

end PlanarMesh
