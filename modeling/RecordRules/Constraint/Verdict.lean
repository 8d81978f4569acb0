import RecordRules.Constraint.Basic
import RecordRules.Text.Quoted
import RecordRules.Value.Compare

set_option autoImplicit false

namespace RecordRules

variable {n : Nat}

-- Whatever code the check gives, the violation carries the name of the rule, and the parameter of
-- the rule where the check does not report one of its own.
def LeafRule.violation? (rule : LeafRule n) (value : Value n) : Option Violation :=
  (rule.check value).map fun violation =>
    let named := violation.withCode rule.name
    match rule.param with
    | some param => if (named.param? "param").isNone then named.withParam "param" param else named
    | none => named

-- A target behind an unset link counts as empty and matches no literal, but it cannot be compared.
def FieldPath.isSet (S : Schema n) (record : Instance n) (path : FieldPath n) : Bool :=
  match path.read S record with
  | .ok value => !value.isEmpty
  | .error _ => false

namespace Condition

def holds (S : Schema n) (record : Instance n) (condition : Condition n) : Bool :=
  match condition.target.read S record with
  | .ok value => value.form? = some condition.literal
  | .error _ => false

def text (condition : Condition n) : String :=
  condition.target.text ++ " is " ++ Text.quoted condition.literal

end Condition

namespace Presence

def message (kind : Presence) (names : String) : String :=
  let demand := if kind.requires then "This field is required" else "This field must be empty"
  let quantity := if kind.needsAll then "all of" else "any of"
  let state := if kind.watchesSet then "set" else "empty"
  s!"{demand} when {quantity} [{names}] {state}"

end Presence

namespace Conditional

def requires (kind : Conditional) (matching : List Bool) : Bool :=
  match kind with
  | requiredIf => matching.all id
  | requiredUnless => !matching.any id

def message (kind : Conditional) (pairs : List String) : String :=
  match kind with
  | requiredIf => "This field is required when " ++ " and ".intercalate pairs
  | requiredUnless => "This field is required unless " ++ " or ".intercalate pairs

end Conditional

namespace CrossRule

def violation (rule : CrossRule n) (message : String) : Violation :=
  (Violation.ofCode rule.tag message).withParam "field" rule.targetNames

def incomparable (rule : CrossRule n) (target : FieldPath n) (cause reason : String) : Violation :=
  (rule.violation s!"Cannot compare with field `{target.text}`: {reason}").withParam "cause" cause

def relationalViolation? (S : Schema n) (record : Instance n) (value : Value n) (op : Comparison)
    (target : FieldPath n) : Option Violation :=
  let rule := relational op target
  match target.read S record with
  | .error error =>
      let cause := match error with
        | .nilLink _ _ => "nil_in_path"
        | _ => "incomparable"
      some (rule.incomparable target cause error.message)
  | .ok other =>
      match Value.compare op value other with
      | .ok true => none
      | .ok false => some (rule.violation s!"Must be {op.relation} field `{target.text}`")
      | .error error => some (rule.incomparable target "incomparable" error.message)

def violation? (S : Schema n) (record : Instance n) (value : Value n) (rule : CrossRule n) :
    Option Violation :=
  match rule with
  | relational op target => relationalViolation? S record value op target
  | presence kind targets =>
      if kind.triggered (targets.map (FieldPath.isSet S record)) && value.isEmpty == kind.requires then
        some (rule.violation (kind.message rule.targetNames))
      else none
  | conditional kind conditions =>
      if kind.requires (conditions.map (Condition.holds S record)) && value.isEmpty then
        some (rule.violation (kind.message (conditions.map Condition.text)))
      else none

end CrossRule

namespace Constraint

mutual

def violation? (S : Schema n) (record : Instance n) (value : Value n) :
    Constraint n → Option Violation
  | leaf rule => rule.violation? value
  | cross rule => rule.violation? S record value
  | anyOf branches =>
      if value.isEmpty then none
      else
        (violations? S record value branches).map fun nested =>
          let tag := "|".intercalate (tags branches)
          (Violation.ofCode tag s!"Must satisfy one of `{tag}`").withNested nested

def violations? (S : Schema n) (record : Instance n) (value : Value n) :
    List (Constraint n) → Option (List Violation)
  | [] => some []
  | branch :: rest =>
      match violation? S record value branch with
      | some violation => (violations? S record value rest).map (violation :: ·)
      | none => none

end

end Constraint

end RecordRules
