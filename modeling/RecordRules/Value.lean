import RecordRules.Moment
import RecordRules.Numeric.Number

set_option autoImplicit false

namespace RecordRules

inductive Value (n : Nat) where
  | nil
  | bool (value : Bool)
  | int (value : Int64)
  | uint (value : UInt64)
  | float (value : Binary64)
  | str (value : String)
  | time (value : Moment)
  | seq (length : Nat)
  | record (type : Fin n) (fields : List (Value n))

-- A field past the end of the list reads as nil.
structure Instance (n : Nat) where
  type : Fin n
  fields : List (Value n)

def Instance.field {n : Nat} (record : Instance n) (index : Nat) : Value n :=
  record.fields[index]?.getD .nil

inductive ValueKind where
  | nil | bool | int | uint | float | str | time | seq | record
deriving DecidableEq, Repr

namespace ValueKind

def name : ValueKind → String
  | nil => "nil"
  | bool => "bool"
  | int => "integer"
  | uint => "unsigned integer"
  | float => "float"
  | str => "string"
  | time => "timestamp"
  | seq => "sequence"
  | record => "record"

def isNumeric : ValueKind → Bool
  | int | uint | float => true
  | _ => false

end ValueKind

namespace Value

variable {n : Nat}

def kind : Value n → ValueKind
  | nil => .nil
  | bool _ => .bool
  | int _ => .int
  | uint _ => .uint
  | float _ => .float
  | str _ => .str
  | time _ => .time
  | seq _ => .seq
  | record _ _ => .record

def isNil : Value n → Bool
  | nil => true
  | _ => false

def isEmpty : Value n → Bool
  | nil => true
  | bool value => !value
  | int value => value.toInt = 0
  | uint value => value.toNat = 0
  | float value => value.isZero
  | str value => value.isEmpty
  | time value => value = Moment.epoch
  | seq length => length = 0
  | record _ _ => false

def form? : Value n → Option String
  | nil | record _ _ => none
  | bool value => some (if value then "true" else "false")
  | int value => some (toString value.toInt)
  | uint value => some (toString value.toNat)
  | float value => some value.text
  | str value => some value
  | time value => some value.text
  | seq length => some (toString length)

def text? : Value n → Option String
  | str value => some value
  | _ => none

def record? : Value n → Option (Instance n)
  | record type fields => some ⟨type, fields⟩
  | _ => none

def number? : Value n → Option Number
  | int value => some (.integer value.toInt)
  | uint value => some (.integer value.toNat)
  | float value => some (.float value)
  | _ => none

end Value

end RecordRules
