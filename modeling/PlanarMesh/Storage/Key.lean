/-!
# Keys

A key names one record of a slot store: it says which slot holds the record and which
occupant of that slot is meant.  The occupants of a slot are numbered by generation, and
a key of an earlier generation never resolves to a later occupant.

Keys are written as slot and version, `3v1`.  Versions count both fillings and vacatings
of a slot, so that the version of an occupied slot is always odd: the `g`-th generation
has version `2 * g + 1`.  A key is for occupied slots only, hence it stores the
generation and has no even version to exclude.
-/

namespace PlanarMesh

/-- The kinds of record that a mesh stores. -/
inductive RecordKind where
  | node
  | edge
  | face
deriving DecidableEq

/-- The type name that a key of this kind carries in diagnostic text. -/
def RecordKind.keyName : RecordKind → String
  | node => "NodeId"
  | edge => "EdgeId"
  | face => "FaceId"

/-- The number of an occupant of a slot.  A version is a 32-bit word and spends its
lowest bit on "occupied or vacant", so generations repeat after `2 ^ 31` of them. -/
abbrev Generation := Fin (1 <<< 31)

instance Generation.instNeZero : @NeZero Nat Zero.ofOfNat0 (1 <<< 31) :=
  ⟨by decide⟩

/-- The generation to which a version belongs, occupied or vacant. -/
def Generation.ofVersion (version : Nat) : Generation :=
  Fin.ofNat (1 <<< 31) (version / 2)

/-- A handle of a record of the given kind. -/
structure Key (kind : RecordKind) where
  /-- The slot that holds the record. -/
  index : Nat
  /-- Which occupant of the slot is meant. -/
  generation : Generation
deriving DecidableEq

namespace Key

variable {kind : RecordKind}

/-- The version of the slot while it holds the record of this key. -/
def version (k : Key kind) : Nat :=
  2 * k.generation.val + 1

/-- The slot index that no store ever reaches; keys with this index name nothing. -/
def nullIndex : Nat :=
  UInt32.size - 1

/-- The key that names no record. -/
def null : Key kind :=
  ⟨nullIndex, 0⟩

/-- A key that can never have been issued. -/
def isNull (k : Key kind) : Bool :=
  k.index == nullIndex

/-- The key with the given slot and version; an even version is raised to the odd one
above it. -/
def ofVersion (index version : Nat) : Key kind :=
  ⟨index, Generation.ofVersion version⟩

/-- Slot and version packed into one 64-bit number, the version in the upper half. -/
def packed (k : Key kind) : Nat :=
  k.version * UInt32.size + k.index

/-- Keys are ordered by slot, and within a slot by generation. -/
instance : LE (Key kind) :=
  ⟨fun a b => a.index < b.index ∨ a.index = b.index ∧ a.generation ≤ b.generation⟩

instance : LT (Key kind) :=
  ⟨fun a b => a.index < b.index ∨ a.index = b.index ∧ a.generation < b.generation⟩

instance (a b : Key kind) : Decidable (a ≤ b) :=
  inferInstanceAs (Decidable (a.index < b.index ∨ a.index = b.index ∧ a.generation ≤ b.generation))

instance (a b : Key kind) : Decidable (a < b) :=
  inferInstanceAs (Decidable (a.index < b.index ∨ a.index = b.index ∧ a.generation < b.generation))

theorem lt_def {a b : Key kind} :
    a < b ↔ a.index < b.index ∨ a.index = b.index ∧ a.generation < b.generation :=
  Iff.rfl

/-- Slot and version, `3v1`; every key of the null index is written `null`. -/
instance : ToString (Key kind) :=
  ⟨fun k => if k.isNull then "null" else s!"{k.index}v{k.version}"⟩

/-- The key with the name of its type, `NodeId(3v1)`. -/
def tagged (k : Key kind) : String :=
  s!"{kind.keyName}({k})"

@[simp]
theorem ofVersion_version (k : Key kind) : ofVersion k.index k.version = k := by
  have bound := k.generation.isLt
  have halved : (2 * k.generation.val + 1) / 2 = k.generation.val := by omega
  cases k with
  | mk index generation =>
    simp only [ofVersion, version, Generation.ofVersion] at *
    rw [halved]
    congr 1
    exact Fin.ext (Nat.mod_eq_of_lt bound)

end Key

end PlanarMesh
