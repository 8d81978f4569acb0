import RecordRules.Rule.Error
import RecordRules.Value
import RecordRules.Violation

set_option autoImplicit false

namespace RecordRules

abbrev Check (n : Nat) := Value n → Option Violation

abbrev CheckFactory (n : Nat) := Option String → Except RuleError (Check n)

namespace Check

variable {n : Nat}

def ofTest (test : Value n → Bool) (violation : Violation) : Check n :=
  fun value => if test value then none else some violation

def ofText (test : String → Bool) (violation : Violation) : Check n
  | .str text => if test text then none else some violation
  | value => some (.typeMismatch "string" value.kind.name)

def fixed (name : String) (check : Check n) : CheckFactory n
  | some _ => .error (.unexpectedParameter name)
  | none => .ok check

def withParam (name : String) (build : String → Except RuleError (Check n)) : CheckFactory n
  | some param => if param.isEmpty then .error (.missingParameter name) else build param
  | none => .error (.missingParameter name)

end Check

end RecordRules
