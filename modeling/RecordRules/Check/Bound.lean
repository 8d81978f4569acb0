import RecordRules.Check.Basic
import RecordRules.Comparison
import RecordRules.Numeric.Number

set_option autoImplicit false

namespace RecordRules

structure Bound where
  op : Comparison
  limit : Number
deriving DecidableEq, Repr

namespace Bound

variable {n : Nat}

def read (rule : String) (op : Comparison) (param : String) : Except RuleError Bound :=
  match Number.read? param.toList with
  | some limit => .ok ⟨op, limit⟩
  | none => .error (.invalidParameter rule param "expected a number")

-- The length of a text is its number of characters, not of bytes.
def measure? : Value n → Option (String × Number)
  | .str text => some ("Length", .integer text.length)
  | .seq length => some ("Length", .integer length)
  | value => value.number?.map (fun number => ("Value", number))

-- A measure that is no number is within no bound.
def admits (bound : Bound) (measure : Number) : Bool :=
  match measure.compare? bound.limit with
  | some outcome => bound.op.holds outcome
  | none => false

def check (bound : Bound) (value : Value n) : Option Violation :=
  match measure? value with
  | none => some (.typeMismatch "string, sequence or number" value.kind.name)
  | some (subject, measure) =>
      if bound.admits measure then none
      else
        let violation := Violation.ofCode "bound"
          s!"{subject} must be {bound.op.bound} {bound.limit.text}"
        some ((violation.withParam "limit" bound.limit.text).withParam "actual" measure.text)

end Bound

end RecordRules
