import RecordRules.Comparison
import RecordRules.Value

set_option autoImplicit false

namespace RecordRules

inductive CompareError where
  | unknownOperator (name : String)
  | nilOperand (other : ValueKind)
  | incompatible (left right : ValueKind)
  | unordered (kind : ValueKind)
deriving DecidableEq, Repr

def CompareError.message : CompareError → String
  | unknownOperator name => s!"unknown comparison operator `{name}`"
  | nilOperand other => s!"cannot compare nil with a {other.name} value"
  | incompatible left right => s!"cannot compare a {left.name} value with a {right.name} value"
  | unordered kind => s!"{kind.name} values have no ordering"

def Comparison.read (name : String) : Except CompareError Comparison :=
  match ofName? name with
  | some op => .ok op
  | none => .error (.unknownOperator name)

namespace Value

variable {n : Nat}

-- A number that is none differs from every number.
def compareNumbers (op : Comparison) (a b : Number) : Bool :=
  match a.compare? b with
  | some outcome => op.holds outcome
  | none => op = .ne

-- Numbers of all kinds form one domain. Two domains do not compare, nor does nil with anything but
-- nil.
def compare (op : Comparison) : Value n → Value n → Except CompareError Bool
  | nil, nil => .ok (op = .eq)
  | nil, other => .error (.nilOperand other.kind)
  | other, nil => .error (.nilOperand other.kind)
  | bool a, bool b =>
      if op.needsOrder then .error (.unordered .bool) else .ok (op.holds (Ord.compare a b))
  | str a, str b => .ok (op.holds (Ord.compare a b))
  | time a, time b => .ok (op.holds (Moment.compare a b))
  | seq a, seq b => .ok (op.holds (Ord.compare a b))
  | a, b =>
      match a.number?, b.number? with
      | some x, some y => .ok (compareNumbers op x y)
      | _, _ => .error (.incompatible a.kind b.kind)

end Value

end RecordRules
