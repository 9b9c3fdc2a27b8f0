import PlanarMesh.Locate
import PlanarMesh.Snapshot.Document

/-!
# Written forms of records

How handles, points, records and whole slots are written and read.
-/

namespace PlanarMesh

open Storable

/-- A key is written as slot and version.  On reading, an even version is raised to the odd
one above it, and every key of the null index is the null key. -/
instance {kind : RecordKind} : Storable (Key kind) where
  write k := .record [("idx", .integer k.index), ("version", .integer k.version)]
  read? document := do
    match ← document.fields? ["idx", "version"] with
    | [index, version] =>
      let index ← readBelow? UInt32.size (← index)
      let version ← readBelow? UInt32.size (← version)
      if index = Key.nullIndex then return Key.null
      return Key.ofVersion index version
    | _ => none

instance : Storable Side where
  write side := .text side.name
  read? document := do
    match ← document.variant? with
    | ("First", none) | ("First", some .null) => return .first
    | ("Second", none) | ("Second", some .null) => return .second
    | _ => none

instance : Storable OrientedSide where
  write side := .text side.name
  read? document := do
    match ← document.variant? with
    | ("Positive", none) | ("Positive", some .null) => return .positive
    | ("Negative", none) | ("Negative", some .null) => return .negative
    | ("OnBoundary", none) | ("OnBoundary", some .null) => return .onBoundary
    | _ => none

instance : Storable HalfedgeId where
  write h := .record [("edge", write h.edge), ("side", write h.side)]
  read? document := do
    match ← document.fields? ["edge", "side"] with
    | [edge, side] => return ⟨← readField? edge, ← readField? side⟩
    | _ => none

instance : Storable PointLocation where
  write
    | .inFace f => .record [("InFace", write f)]
    | .onEdge e => .record [("OnEdge", write e)]
    | .onNode n => .record [("OnNode", write n)]
    | .outsideMesh e => .record [("OutsideMesh", write e)]
  read? document := do
    match ← document.variant? with
    | ("InFace", key) => return .inFace (← readField? key)
    | ("OnEdge", key) => return .onEdge (← readField? key)
    | ("OnNode", key) => return .onNode (← readField? key)
    | ("OutsideMesh", key) => return .outsideMesh (← readField? key)
    | _ => none

instance : Storable LocateOptions where
  write options := .record [("max_steps",
    match options.maxSteps with
    | none => .null
    | some steps => .integer steps)]
  read? document := do
    match ← document.fields? ["max_steps"] with
    | [none] | [some .null] => return ⟨none⟩
    | [some steps] => return ⟨some (← readBelow? UInt64.size steps)⟩
    | _ => none

instance : Storable Point where
  write p := .list [.ofFloat p.x, .ofFloat p.y]
  read?
    | .list [x, y] => return ⟨← readFloat? x, ← readFloat? y⟩
    | _ => none

instance : Storable BoundingBox where
  write box := .record [("min", write box.min), ("max", write box.max)]
  read? document := do
    match ← document.fields? ["min", "max"] with
    | [min, max] => return ⟨← readField? min, ← readField? max⟩
    | _ => none

instance : Storable Node where
  write node := .record
    [("position", write node.position), ("halfedge", writeOptional node.halfedge)]
  read? document := do
    match ← document.fields? ["position", "halfedge"] with
    | [position, halfedge] => return ⟨← readField? position, ← readOptional? halfedge⟩
    | _ => none

instance : Storable Halfedge where
  write halfedge := .record
    [("origin", write halfedge.origin), ("next", write halfedge.next),
      ("prev", write halfedge.prev), ("face", writeOptional halfedge.face)]
  read? document := do
    match ← document.fields? ["origin", "next", "prev", "face"] with
    | [origin, next, prev, face] =>
      return ⟨← readField? origin, ← readField? next, ← readField? prev, ← readOptional? face⟩
    | _ => none

/-- An edge is written as the list of its two sides. -/
instance : Storable Edge where
  write edge := .record [("halfedges", .list [write edge.first, write edge.second])]
  read? document := do
    match ← document.fields? ["halfedges"] with
    | [some (.list [first, second])] => return ⟨← read? first, ← read? second⟩
    | _ => none

instance : Storable Face where
  write face := .record [("halfedge", write face.halfedge)]
  read? document := do
    match ← document.fields? ["halfedge"] with
    | [halfedge] => return ⟨← readField? halfedge⟩
    | _ => none

/-- A slot is written with its version, which must be odd exactly if there is a record. -/
instance {α : Type} [Storable α] : Storable (Slot α) where
  write slot := .record
    [("value", writeOptional slot.value), ("version", .integer slot.version)]
  read? document := do
    match ← document.fields? ["value", "version"] with
    | [value, version] =>
      let value ← readOptional? value
      let version ← readBelow? UInt32.size (← version)
      if value.isSome == (version % 2 == 1) then
        return ⟨Generation.ofVersion version, value⟩
      none
    | _ => none

/-- A store is written as the list of its slots.  The list is not empty and starts with the
slot that is never filled, whose version does not matter. -/
instance {kind : RecordKind} {α : Type} [Storable α] : Storable (SlotStore kind α) where
  write store := .list (store.slots.toList.map write)
  read?
    | .list items => do
      match ← items.mapM (read? (α := Slot α)) with
      | [] => none
      | first :: rest =>
        if first.isVacant ∧ items.length < Key.nullIndex then return SlotStore.ofSlots rest
        none
    | _ => none

end PlanarMesh
