import RecordRules.Constraint.Verdict
import RecordRules.Proofs.Walk
import RecordRules.Rulebook.Plan

set_option autoImplicit false

namespace RecordRules

variable {n : Nat}

def Instance.isSet (S : Schema n) (record : Instance n) (text : String) : Bool :=
  match record.lookup S text with
  | .ok value => !value.isEmpty
  | .error _ => false

def Pair.holds (S : Schema n) (record : Instance n) (pair : Pair) : Bool :=
  match record.lookup S pair.field with
  | .ok value => value.form? = some pair.literal
  | .error _ => false

def Pair.text (pair : Pair) : String := pair.field ++ " is " ++ Text.quoted pair.literal

def Violation.naming (tag : String) (fields : List String) (message : String) : Violation :=
  (ofCode tag message).withParam "field" (" ".intercalate fields)

def Comparison.violation? (S : Schema n) (record : Instance n) (value : Value n) (op : Comparison)
    (text : String) : Option Violation :=
  let impossible (cause reason : String) : Violation :=
    (Violation.naming op.fieldTag [text] s!"Cannot compare with field `{text}`: {reason}").withParam
      "cause" cause
  match record.lookup S text with
  | .error (.nilLink path segments) =>
      some (impossible "nil_in_path" (ReadError.nilLink path segments).message)
  | .error error => some (impossible "incomparable" error.message)
  | .ok other =>
      match Value.compare op value other with
      | .ok true => none
      | .ok false => some (.naming op.fieldTag [text] s!"Must be {op.relation} field `{text}`")
      | .error error => some (impossible "incomparable" error.message)

def Clause.violation? (catalog : Catalog n) (S : Schema n) (record : Instance n) (value : Value n) :
    Clause → Option Violation
  | leaf name param =>
      match catalog.build name param with
      | .ok check => LeafRule.violation? ⟨name, param, check⟩ value
      | .error _ => none
  | relational op text => op.violation? S record value text
  | presence kind texts =>
      if kind.triggered (texts.map (record.isSet S)) && value.isEmpty == kind.requires then
        some (.naming kind.tag texts (kind.message (" ".intercalate texts)))
      else none
  | conditional kind pairs =>
      if kind.requires (pairs.map (Pair.holds S record)) && value.isEmpty then
        some (.naming kind.tag (pairs.map Pair.field) (kind.message (pairs.map Pair.text)))
      else none

namespace Rule

def admits (S : Schema n) (record : Instance n) (value : Value n) : Rule → Bool
  | omitEmpty => !value.isEmpty
  | skipUnless pairs => pairs.all (Pair.holds S record)
  | skip | clause _ | anyOf _ => true

def violation? (catalog : Catalog n) (S : Schema n) (record : Instance n) (value : Value n) :
    Rule → Option Violation
  | skip | omitEmpty | skipUnless _ => none
  | clause body => body.violation? catalog S record value
  | anyOf branches =>
      if value.isEmpty then none
      else
        (branches.mapM (Clause.violation? catalog S record value)).map fun nested =>
          let tag := "|".intercalate (branches.map Clause.tag)
          (Violation.ofCode tag s!"Must satisfy one of `{tag}`").withNested nested

def violations (catalog : Catalog n) (S : Schema n) (record : Instance n) (value : Value n)
    (rules : List Rule) : Report :=
  rules.zipIdx.filterMap fun (rule, place) =>
    if (rules.take place).all (admits S record value) then rule.violation? catalog S record value
    else none

end Rule

namespace Rulebook

def interpretRules (book : Rulebook n) (S : Schema n) (record : Instance n) (name : String)
    (value : Value n) (rules : List Rule) : Report :=
  (Rule.violations book.catalog S record value rules).map (·.withField name)

-- A check whose anchor cannot be reached is passed over.
def interpretCheck (book : Rulebook n) (S : Schema n) (record : Instance n) (check : RecordCheck) :
    Report :=
  match book.parse check.rules, record.lookup S check.anchor with
  | .ok rules, .ok value =>
      if rules.contains .skip then [] else book.interpretRules S record check.anchor value rules
  | _, _ => []

-- No plan is made here: each rule string is read when it is needed, each reference is followed by
-- name, and a nested record is interpreted by the rules of its own type.
def interpret (book : Rulebook n) (S : Schema n) (record : Instance n) : Report :=
  (S record.type).fields.flatMap (fun field =>
    match book.parse field.rules with
    | .error _ => []
    | .ok rules =>
        if rules.contains .skip then []
        else
          match _inside : record.named S field.name with
          | .record type fields =>
              book.interpretRules S record field.name (.record type fields) rules ++
                if book.settings.recurseNested && field.exported then
                  (interpret book S ⟨type, fields⟩).map (·.under field.name)
                else []
          | value => book.interpretRules S record field.name value rules) ++
  (S record.type).checks.flatMap (book.interpretCheck S record)
termination_by record
decreasing_by exact record.size_named S field.name _inside

def interpretField (book : Rulebook n) (S : Schema n) (record : Instance n) (field : FieldDef n) :
    Report :=
  match book.parse field.rules with
  | .error _ => []
  | .ok rules =>
      if rules.contains .skip then []
      else
        let value := record.named S field.name
        book.interpretRules S record field.name value rules ++
          match value.record? with
          | some inner =>
              if book.settings.recurseNested && field.exported then
                (book.interpret S inner).map (·.under field.name)
              else []
          | none => []

theorem interpret_fields (book : Rulebook n) (S : Schema n) (record : Instance n) :
    book.interpret S record = (S record.type).fields.flatMap (book.interpretField S record) ++
      (S record.type).checks.flatMap (book.interpretCheck S record) := by
  rw [interpret]
  refine congrArg (List.flatMap · (S record.type).fields ++ _) (funext fun field => ?_)
  rw [interpretField]
  cases book.parse field.rules with
  | error cause => rfl
  | ok rules =>
      by_cases skipped : rules.contains .skip
      · simp only [if_pos skipped]
      · simp only [if_neg skipped]
        split
        case h_1 type fields found => rw [found]; rfl
        case h_2 other =>
          have scalar : (record.named S field.name).record? = none := by
            cases value : record.named S field.name with
            | record type fields => exact absurd value (other type fields)
            | _ => rfl
          rw [scalar, List.append_nil]

end Rulebook

end RecordRules
