import RecordRules.Check.Basic
import RecordRules.Path.Basic
import RecordRules.Rule.Keyword

set_option autoImplicit false

namespace RecordRules

structure Condition (n : Nat) where
  target : FieldPath n
  literal : String
deriving DecidableEq, Repr

structure LeafRule (n : Nat) where
  name : String
  param : Option String
  check : Check n

inductive CrossRule (n : Nat) where
  | relational (op : Comparison) (target : FieldPath n)
  | presence (kind : Presence) (targets : List (FieldPath n))
  | conditional (kind : Conditional) (conditions : List (Condition n))
deriving DecidableEq, Repr

inductive Constraint (n : Nat) where
  | leaf (rule : LeafRule n)
  | cross (rule : CrossRule n)
  | anyOf (branches : List (Constraint n))

variable {n : Nat}

namespace CrossRule

def tag : CrossRule n → String
  | relational op _ => op.fieldTag
  | presence kind _ => kind.tag
  | conditional kind _ => kind.tag

def targets : CrossRule n → List (FieldPath n)
  | relational _ target => [target]
  | presence _ targets => targets
  | conditional _ conditions => conditions.map Condition.target

def targetNames (rule : CrossRule n) : String := " ".intercalate (rule.targets.map FieldPath.text)

end CrossRule

namespace Constraint

mutual

def tag : Constraint n → String
  | leaf rule => rule.name
  | cross rule => rule.tag
  | anyOf branches => "|".intercalate (tags branches)

def tags : List (Constraint n) → List String
  | [] => []
  | branch :: rest => branch.tag :: tags rest

end

def isCross : Constraint n → Bool
  | cross _ => true
  | leaf _ | anyOf _ => false

end Constraint

end RecordRules
