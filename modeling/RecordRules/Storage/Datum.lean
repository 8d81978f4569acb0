import RecordRules.Storage.Basic

set_option autoImplicit false

namespace RecordRules

abbrev Scalar.Content : Scalar → Type
  | .bool => Bool
  | .int8 => Int8
  | .int16 => Int16
  | .int32 => Int32
  | .int64 => Int64
  | .uint8 => UInt8
  | .uint16 => UInt16
  | .uint32 => UInt32
  | .uint64 => UInt64
  | .single => UInt32
  | .double => Binary64
  | .text => String
  | .time => Moment
  | .collection => Nat

mutual

inductive Datum {n : Nat} (D : Declarations n) : Storage n → Type where
  | scalar (kind : Scalar) (content : kind.Content) : Datum D (.scalar kind)
  | record (id : Fin n) (fields : Data D (D.storages id)) : Datum D (.record id)
  | unset (inner : Storage n) : Datum D (.optional inner)
  | set (inner : Storage n) (datum : Datum D inner) : Datum D (.optional inner)
  | link (inner : Storage n) (datum : Datum D inner) : Datum D (.link inner)

inductive Data {n : Nat} (D : Declarations n) : List (Storage n) → Type where
  | nil : Data D []
  | cons (storage : Storage n) (rest : List (Storage n)) (datum : Datum D storage)
      (data : Data D rest) : Data D (storage :: rest)

end

variable {n : Nat}

def Scalar.value : (kind : Scalar) → kind.Content → Value n
  | .bool, content => .bool content
  | .int8, content => .int content.toInt64
  | .int16, content => .int content.toInt64
  | .int32, content => .int content.toInt64
  | .int64, content => .int content
  | .uint8, content => .uint content.toUInt64
  | .uint16, content => .uint content.toUInt64
  | .uint32, content => .uint content.toUInt64
  | .uint64, content => .uint content
  | .single, content => .float (.ofSingle content)
  | .double, content => .float content
  | .text, content => .str content
  | .time, content => .time content
  | .collection, content => .seq content

-- Rules see numbers without their width, and links only where they are unset.
mutual

def Datum.value {D : Declarations n} {storage : Storage n} : Datum D storage → Value n
  | .scalar kind content => kind.value content
  | .record id fields => .record id fields.values
  | .unset _ => .nil
  | .set _ datum => datum.value
  | .link _ datum => datum.value

def Data.values {D : Declarations n} {storages : List (Storage n)} :
    Data D storages → List (Value n)
  | .nil => []
  | .cons _ _ datum data => datum.value :: data.values

end

def Data.toInstance {D : Declarations n} {id : Fin n} (data : Data D (D.storages id)) : Instance n :=
  ⟨id, data.values⟩

end RecordRules
