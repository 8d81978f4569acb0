import RecordRules.Constraint.OfClause
import RecordRules.Plan.Basic
import RecordRules.Rule.Grammar
import RecordRules.Rulebook.Basic

set_option autoImplicit false

namespace RecordRules.Rulebook

variable {n : Nat}

def parse (book : Rulebook n) (rules : String) : Except RuleError (List Rule) :=
  Grammar.parse book.settings.aliases rules

def condition (S : Schema n) (anchor : FieldPath n) (pair : Pair) :
    Except RuleError (Condition n) := do
  return ⟨← anchor.sibling S pair.field, pair.literal⟩

-- The stage that a rule stands for. A gate may refer to its own anchor.
def stage (book : Rulebook n) (S : Schema n) (anchor : FieldPath n) :
    Rule → Except RuleError (Stage n)
  | .skip => .error (.notAlternative Rule.skip.tag)
  | .omitEmpty => .ok (.gate .omitEmpty)
  | .skipUnless pairs => do return .gate (.skipUnless (← pairs.mapM (condition S anchor)))
  | .clause clause => (Constraint.ofClause S book.catalog anchor clause).map .test
  | .anyOf branches => (Constraint.ofBranches S book.catalog anchor branches).map .test

def stages? (book : Rulebook n) (S : Schema n) (anchor : FieldPath n) (rules : String) :
    Except RuleError (Option (List (Stage n))) := do
  let rules ← book.parse rules
  if rules.contains .skip then return none
  else return some (← rules.mapM (book.stage S anchor))

def nested? (book : Rulebook n) (field : FieldDef n) : Option (Fin n) :=
  if book.settings.recurseNested && field.exported then field.type.record? else none

-- The plan of a record check, unless the check is skipped. Nested records are left to the plans of
-- the fields.
def checkPlan? {Link : Type} (book : Rulebook n) (S : Schema n) (id : Fin n) (check : RecordCheck) :
    Except RuleError (Option (FieldPlan n Link)) := do
  let anchor ← (FieldPath.resolve S id check.anchor).mapError .path
  return (← book.stages? S anchor check.rules).map fun stages => ⟨anchor, stages, none⟩

end RecordRules.Rulebook
