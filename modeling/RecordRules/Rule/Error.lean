import RecordRules.FieldType
import RecordRules.Path.Error

set_option autoImplicit false

namespace RecordRules

inductive RuleError where
  | emptyRule
  | unknownRule (rule : String)
  | missingParameter (rule : String)
  | unexpectedParameter (rule : String)
  | invalidParameter (rule param reason : String)
  | path (error : PathError)
  | selfReference (rule field : String)
  | incompatibleTypes (rule field : String) (anchor target : FieldKind)
  | notAlternative (rule : String)
deriving DecidableEq, Repr

def RuleError.message : RuleError → String
  | emptyRule => "empty rule"
  | unknownRule rule => s!"unknown rule `{rule}`"
  | missingParameter rule => s!"rule `{rule}` requires a parameter"
  | unexpectedParameter rule => s!"rule `{rule}` does not take a parameter"
  | invalidParameter rule param reason => s!"invalid parameter `{param}` for rule `{rule}`: {reason}"
  | path error => error.message
  | selfReference rule field => s!"rule `{rule}` references its own field `{field}`"
  | incompatibleTypes rule field anchor target =>
      s!"rule `{rule}` cannot compare a {anchor.name} field with {target.name} field `{field}`"
  | notAlternative rule => s!"rule `{rule}` cannot be used inside an alternative group"

end RecordRules
