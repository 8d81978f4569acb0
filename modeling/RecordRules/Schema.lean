import RecordRules.FieldType
import RecordRules.Value

set_option autoImplicit false

namespace RecordRules

structure FieldDef (n : Nat) where
  name : String
  type : FieldType n
  rules : String
  exported : Bool
deriving DecidableEq, Repr

structure RecordCheck where
  anchor : String
  rules : String
deriving DecidableEq, Repr

structure RecordType (n : Nat) where
  name : String
  fields : List (FieldDef n)
  checks : List RecordCheck
deriving DecidableEq, Repr

-- A type is known by its position, so that two types with the same name stay apart.
abbrev Schema (n : Nat) := Fin n → RecordType n

def findField {n : Nat} (name : String) : List (FieldDef n) → Nat → Option (Nat × FieldDef n)
  | [], _ => none
  | field :: rest, index =>
      if field.name = name then some (index, field) else findField name rest (index + 1)

def RecordType.field? {n : Nat} (type : RecordType n) (name : String) : Option (Nat × FieldDef n) :=
  findField name type.fields 0

def Schema.nameOf {n : Nat} (S : Schema n) (type : Fin n) : String := (S type).name

end RecordRules
