import RecordRules.Check.Basic
import RecordRules.Text.Blank

set_option autoImplicit false

namespace RecordRules.Check

variable {n : Nat}

def required : Check n := ofTest (!·.isEmpty) .required

def isDefault : Check n := ofTest Value.isEmpty (.ofCode "isdefault" "Must be the default value")

def equal (literal : String) : Check n :=
  ofTest (·.form? = some literal) (.ofCode "eq" s!"Must be '{literal}'")

def notEqual (literal : String) : Check n :=
  ofTest (·.form? ≠ some literal) (.ofCode "ne" s!"Must not be '{literal}'")

def options (param : String) : List String := (Text.words param.toList).map String.ofList

def oneOf (param : String) : Check n :=
  let choices := options param
  let listed := ", ".intercalate choices
  ofTest (fun value => choices.any (fun choice => value.form? = some choice))
    (.ofCode "oneof" s!"Must be one of [{listed}]")

def booleanSpellings : List String :=
  ["1", "t", "T", "true", "TRUE", "True", "0", "f", "F", "false", "FALSE", "False"]

def boolean : Check n
  | .bool _ => none
  | .str text => if booleanSpellings.contains text then none else some (.invalidFormat "boolean")
  | value => some (.typeMismatch "bool or string" value.kind.name)

end RecordRules.Check
