/-!
# Documents

The values that snapshots are made of: numbers, text, lists and records with named fields.
Whole numbers and doubles are told apart.  A double that is not finite has no written form
and is left out.

A record is read by field names.  It may also be given as the list of its fields in order,
and fields beyond those asked for are ignored.
-/

namespace PlanarMesh

/-- A value of which a snapshot is made. -/
inductive Document where
  | null
  | truth (value : Bool)
  | integer (value : Int)
  | real (value : Float)
  | text (value : String)
  | list (items : List Document)
  | record (fields : List (String × Document))
deriving Inhabited

namespace Document

/-- The document of a double. -/
def ofFloat (x : Float) : Document :=
  if x.isFinite then real x else null

/-- The value of a named field. -/
def lookup (name : String) (fields : List (String × Document)) : Option Document :=
  (fields.find? fun field => field.1 == name).map Prod.snd

/-- The values of the named fields of a record. -/
def fields? (names : List String) : Document → Option (List (Option Document))
  | record fields => some (names.map fun name => lookup name fields)
  | list items => if items.length = names.length then some (items.map some) else none
  | _ => none

/-- A choice by name, alone or with a value. -/
def variant? : Document → Option (String × Option Document)
  | text name => some (name, none)
  | record [(name, value)] => some (name, some value)
  | _ => none

end Document

/-- Values with a written form.  Reading accepts more than writing produces. -/
class Storable (α : Type) where
  write : α → Document
  read? : Document → Option α

namespace Storable

variable {α : Type} [Storable α]

/-- A field that has to be there. -/
def readField? (field : Option Document) : Option α :=
  field.bind read?

/-- A field that may be left out or null. -/
def readOptional? : Option Document → Option (Option α)
  | none | some .null => some none
  | some document => (read? document).map some

/-- A value or null. -/
def writeOptional : Option α → Document
  | none => .null
  | some value => write value

/-- A whole number from zero up to but not including the bound. -/
def readBelow? (bound : Nat) : Document → Option Nat
  | .integer value => if 0 ≤ value ∧ value < bound then some value.toNat else none
  | _ => none

/-- The double nearest to a whole number. -/
def nearestDouble (value : Int) : Float :=
  let magnitude := Float.ofScientific value.natAbs false 0
  if value < 0 then -magnitude else magnitude

/-- A double, or a whole number rounded to the nearest double. -/
def readFloat? : Document → Option Float
  | .real value => some value
  | .integer value => some (nearestDouble value)
  | _ => none

@[simp]
theorem readOptional?_writeOptional_none :
    (readOptional? (some (writeOptional (none : Option α))) : Option (Option α)) = some none :=
  rfl

theorem readBelow?_integer {bound n : Nat} (small : n < bound) :
    readBelow? bound (.integer n) = some n := by
  simp [readBelow?, small]

end Storable

end PlanarMesh
