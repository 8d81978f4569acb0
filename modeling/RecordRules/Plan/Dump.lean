import RecordRules.Constraint.Dump
import RecordRules.Plan.Shelf

set_option autoImplicit false

namespace RecordRules

variable {n : Nat}

def Gate.dump (S : Schema n) : Gate n → Dump
  | omitEmpty => .atom "OmitEmpty"
  | skipUnless conditions => .tuple "SkipUnless" [.list (conditions.map (Condition.dump S))]

def Stage.dump (S : Schema n) : Stage n → Dump
  | gate inner => .tuple "Gate" [inner.dump S]
  | test constraint => .tuple "Check" [constraint.dump S]

def FieldPlan.nestedRecord? (shelf : Shelf n) (plan : FieldPlan n Slot) : Option (Fin n) :=
  (plan.nested.bind shelf.inSlot?).map Plan.record

def FieldPlan.dump (S : Schema n) (shelf : Shelf n) (plan : FieldPlan n Slot) : Dump :=
  .struct "FieldPlan"
    [("anchor", plan.anchor.dump S), ("rules", .list (plan.stages.map (Stage.dump S))),
      ("nested", .option ((plan.nestedRecord? shelf).map fun id => .text (S.nameOf id)))] true

def Plan.dump (S : Schema n) (plan : Plan n Slot) : Dump := .tuple "Plan" [.text (S.nameOf plan.record)]

end RecordRules
