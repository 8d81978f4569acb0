import RecordRules.Check.Basic
import RecordRules.Numeric.Decimal

set_option autoImplicit false

namespace RecordRules.Check

variable {n : Nat}

def readStep? (text : List Char) : Option Nat :=
  let (negative, places) := Decimal.readSign text
  if negative || places.isEmpty || !places.all Char.isDigit then none
  else some (Decimal.ofDigits places) |>.filter (· < UInt64.size)

def isMultiple (step : Nat) : Value n → Bool
  | .uint value => step ≠ 0 && value.toNat % step = 0
  | _ => false

-- Not a check of the standard catalog; a program can add it to a catalog of its own.
def multipleOf : CheckFactory n
  | none => .error (.missingParameter "multiple_of")
  | some param =>
      match readStep? param.toList with
      | some step =>
          .ok (ofTest (isMultiple step) (.ofCode "multiple_of" s!"Must be a multiple of {step}"))
      | none => .error (.invalidParameter "multiple_of" param "expected a positive integer")

end RecordRules.Check
