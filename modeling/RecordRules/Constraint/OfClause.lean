import RecordRules.Check.Catalog
import RecordRules.Constraint.Basic
import RecordRules.Rule.Basic

set_option autoImplicit false

namespace RecordRules

variable {n : Nat}

def FieldPath.sibling (S : Schema n) (anchor : FieldPath n) (text : String) :
    Except RuleError (FieldPath n) :=
  (resolve S anchor.root text).mapError .path

def FieldPath.otherSibling (S : Schema n) (anchor : FieldPath n) (rule text : String) :
    Except RuleError (FieldPath n) := do
  let target ← anchor.sibling S text
  if target.sameField anchor then .error (.selfReference rule text) else .ok target

def Comparison.admits (op : Comparison) (left right : FieldKind) : Bool :=
  left = right && left ≠ .record && !(left = .bool && op.needsOrder)

namespace CrossRule

def relationalOf (S : Schema n) (anchor : FieldPath n) (op : Comparison) (text : String) :
    Except RuleError (CrossRule n) := do
  let target ← anchor.otherSibling S op.fieldTag text
  match anchor.target?, target.target? with
  | some left, some right =>
      if op.admits left.kind right.kind then .ok (relational op target)
      else .error (.incompatibleTypes op.fieldTag target.text left.kind right.kind)
  | _, _ => .ok (relational op target)

def presenceOf (S : Schema n) (anchor : FieldPath n) (kind : Presence) (texts : List String) :
    Except RuleError (CrossRule n) := do
  return presence kind (← texts.mapM (anchor.otherSibling S kind.tag))

def conditionalOf (S : Schema n) (anchor : FieldPath n) (kind : Conditional) (pairs : List Pair) :
    Except RuleError (CrossRule n) := do
  let conditions ← pairs.mapM fun pair => do
    return ⟨← anchor.otherSibling S kind.tag pair.field, pair.literal⟩
  return conditional kind conditions

end CrossRule

namespace Constraint

def ofLeaf (catalog : Catalog n) (name : String) (param : Option String) :
    Except RuleError (Constraint n) := do
  return leaf ⟨name, param, ← catalog.build name param⟩

def ofClause (S : Schema n) (catalog : Catalog n) (anchor : FieldPath n) :
    Clause → Except RuleError (Constraint n)
  | .leaf name param => ofLeaf catalog name param
  | .relational op target => (CrossRule.relationalOf S anchor op target).map cross
  | .presence kind targets => (CrossRule.presenceOf S anchor kind targets).map cross
  | .conditional kind pairs => (CrossRule.conditionalOf S anchor kind pairs).map cross

def ofBranch (S : Schema n) (catalog : Catalog n) (anchor : FieldPath n) (clause : Clause) :
    Except RuleError (Constraint n) :=
  match clause with
  | .leaf _ _ | .relational _ _ => ofClause S catalog anchor clause
  | .presence _ _ | .conditional _ _ => .error (.notAlternative clause.tag)

def ofBranches (S : Schema n) (catalog : Catalog n) (anchor : FieldPath n)
    (branches : List Clause) : Except RuleError (Constraint n) := do
  return anyOf (← branches.mapM (ofBranch S catalog anchor))

end Constraint

end RecordRules
