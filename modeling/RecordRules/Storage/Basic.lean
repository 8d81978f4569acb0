import RecordRules.Schema

set_option autoImplicit false

namespace RecordRules

inductive Scalar where
  | bool
  | int8 | int16 | int32 | int64
  | uint8 | uint16 | uint32 | uint64
  | single | double
  | text
  | time
  | collection
deriving DecidableEq, Repr

inductive Storage (n : Nat) where
  | scalar (kind : Scalar)
  | record (id : Fin n)
  | optional (inner : Storage n)
  | link (inner : Storage n)
deriving DecidableEq, Repr

namespace Storage

variable {n : Nat}

def scalarType : Scalar → FieldType n
  | .bool => .bool
  | .int8 | .int16 | .int32 | .int64 => .int
  | .uint8 | .uint16 | .uint32 | .uint64 => .uint
  | .single | .double => .float
  | .text => .str
  | .time => .time
  | .collection => .seq

-- The declared type that rules see. Only links that may be unset show.
def type : Storage n → FieldType n
  | scalar kind => scalarType kind
  | record id => .record id
  | optional inner => .optional inner.type
  | link inner => inner.type

end Storage

structure StoredField (n : Nat) where
  name : String
  storage : Storage n
  rules : String
  exported : Bool
deriving DecidableEq, Repr

structure StoredRecord (n : Nat) where
  name : String
  fields : List (StoredField n)
  checks : List RecordCheck
deriving DecidableEq, Repr

abbrev Declarations (n : Nat) := Fin n → StoredRecord n

namespace Declarations

variable {n : Nat}

def storages (D : Declarations n) (id : Fin n) : List (Storage n) :=
  (D id).fields.map StoredField.storage

def schema (D : Declarations n) : Schema n := fun id =>
  { name := (D id).name
    fields := (D id).fields.map fun field =>
      ⟨field.name, field.storage.type, field.rules, field.exported⟩
    checks := (D id).checks }

end Declarations

end RecordRules
