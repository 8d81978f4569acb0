set_option autoImplicit false

namespace RecordRules

inductive Comparison where
  | eq | ne | gt | gte | lt | lte
deriving DecidableEq, Repr

namespace Comparison

def all : List Comparison := [eq, ne, gt, gte, lt, lte]

def name : Comparison → String
  | eq => "eq"
  | ne => "ne"
  | gt => "gt"
  | gte => "gte"
  | lt => "lt"
  | lte => "lte"

def ofName? (text : String) : Option Comparison := all.find? (·.name = text)

def needsOrder : Comparison → Bool
  | eq | ne => false
  | gt | gte | lt | lte => true

def holds : Comparison → Ordering → Bool
  | eq, outcome => outcome == .eq
  | ne, outcome => outcome != .eq
  | gt, outcome => outcome == .gt
  | gte, outcome => outcome != .lt
  | lt, outcome => outcome == .lt
  | lte, outcome => outcome != .gt

def flip : Comparison → Comparison
  | eq => eq
  | ne => ne
  | gt => lt
  | gte => lte
  | lt => gt
  | lte => gte

def relation : Comparison → String
  | eq => "equal to"
  | ne => "different from"
  | gt => "greater than"
  | gte => "greater than or equal to"
  | lt => "less than"
  | lte => "less than or equal to"

def bound : Comparison → String
  | eq => "exactly"
  | ne => "other than"
  | gt => "greater than"
  | gte => "at least"
  | lt => "less than"
  | lte => "at most"

@[simp] theorem of_name_name (op : Comparison) : ofName? op.name = some op := by
  cases op <;> decide

theorem flip_flip (op : Comparison) : op.flip.flip = op := by
  cases op <;> rfl

theorem holds_flip_swap (op : Comparison) (outcome : Ordering) :
    op.flip.holds outcome.swap = op.holds outcome := by
  cases op <;> cases outcome <;> rfl

end Comparison

end RecordRules
