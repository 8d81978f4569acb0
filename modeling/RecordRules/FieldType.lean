set_option autoImplicit false

namespace RecordRules

inductive FieldKind where
  | bool | number | text | timestamp | sequence | record
deriving DecidableEq, Repr

def FieldKind.name : FieldKind → String
  | bool => "bool"
  | number => "number"
  | text => "text"
  | timestamp => "timestamp"
  | sequence => "sequence"
  | record => "record"

inductive FieldType (n : Nat) where
  | bool | int | uint | float | str | time | seq
  | record (id : Fin n)
  | optional (inner : FieldType n)
deriving DecidableEq, Repr

namespace FieldType

variable {n : Nat}

def target : FieldType n → FieldType n
  | optional inner => inner.target
  | scalar => scalar

def links : FieldType n → Nat
  | optional inner => inner.links + 1
  | _ => 0

def isOptional : FieldType n → Bool
  | optional _ => true
  | _ => false

def record? : FieldType n → Option (Fin n)
  | optional inner => inner.record?
  | record id => some id
  | _ => none

def kind : FieldType n → FieldKind
  | bool => .bool
  | int | uint | float => .number
  | str => .text
  | time => .timestamp
  | seq => .sequence
  | record _ => .record
  | optional inner => inner.kind

def describe (nameOf : Fin n → String) : FieldType n → String
  | bool => "Bool"
  | int => "Int"
  | uint => "Uint"
  | float => "Float"
  | str => "Str"
  | time => "Time"
  | seq => "Seq"
  | record id => "Record(" ++ nameOf id ++ ")"
  | optional inner => "Optional(" ++ inner.describe nameOf ++ ")"

theorem kind_target (type : FieldType n) : type.target.kind = type.kind := by
  induction type <;> simp_all [target, kind]

end FieldType

end RecordRules
