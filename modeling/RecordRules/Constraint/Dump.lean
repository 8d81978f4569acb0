import RecordRules.Constraint.Basic
import RecordRules.Text.Cut

set_option autoImplicit false

namespace RecordRules

def capitalized (tag : String) : String :=
  String.ofList ((Text.pieces '_' tag.toList).flatMap fun word =>
    match word with
    | first :: rest => first.toUpper :: rest
    | [] => [])

example : capitalized "required_with_all" = "RequiredWithAll" := by decide

variable {n : Nat}

def Condition.dump (S : Schema n) (condition : Condition n) : Dump :=
  .struct "Condition"
    [("target", condition.target.dump S), ("literal", .text condition.literal)] true

def LeafRule.dump (rule : LeafRule n) : Dump :=
  .struct "LeafConstraint"
    [("name", .text rule.name), ("param", .option (rule.param.map .text))] false

def CrossRule.dump (S : Schema n) : CrossRule n → Dump
  | relational op target =>
      .struct "Relational" [("op", .atom (capitalized op.name)), ("target", target.dump S)] true
  | presence kind targets =>
      .struct "Presence"
        [("kind", .atom (capitalized kind.tag)), ("targets", .list (targets.map (·.dump S)))] true
  | conditional kind conditions =>
      .struct "Conditional"
        [("kind", .atom (capitalized kind.tag)),
          ("conditions", .list (conditions.map (Condition.dump S)))] true

namespace Constraint

mutual

def dump (S : Schema n) : Constraint n → Dump
  | leaf rule => .tuple "Leaf" [rule.dump]
  | cross rule => .tuple "CrossField" [rule.dump S]
  | anyOf branches =>
      .tuple "Any"
        [.struct "AnyOf"
          [("tag", .text ("|".intercalate (tags branches))), ("branches", .list (dumps S branches))]
          true]

def dumps (S : Schema n) : List (Constraint n) → List Dump
  | [] => []
  | branch :: rest => branch.dump S :: dumps S rest

end

end Constraint

end RecordRules
