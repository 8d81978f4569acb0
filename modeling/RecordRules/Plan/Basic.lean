import RecordRules.Constraint.Basic

set_option autoImplicit false

namespace RecordRules

inductive Gate (n : Nat) where
  | omitEmpty
  | skipUnless (conditions : List (Condition n))
deriving DecidableEq, Repr

inductive Stage (n : Nat) where
  | gate (gate : Gate n)
  | test (constraint : Constraint n)

structure FieldPlan (n : Nat) (Link : Type) where
  anchor : FieldPath n
  stages : List (Stage n)
  nested : Option Link

-- A plan refers to the plan of a nested record by a link, so that plans of types that refer to each
-- other stay finite. What a link is, and where it leads, is left open here.
structure Plan (n : Nat) (Link : Type) where
  record : Fin n
  fields : List (String × FieldPlan n Link)
  checks : List (FieldPlan n Link)

variable {n : Nat} {Link : Type}

def Stage.constraint? : Stage n → Option (Constraint n)
  | gate _ => none
  | test constraint => some constraint

def FieldPlan.constraints (plan : FieldPlan n Link) : List (Constraint n) :=
  plan.stages.filterMap Stage.constraint?

namespace Plan

def parts (plan : Plan n Link) : List (FieldPlan n Link) := plan.fields.map (·.2) ++ plan.checks

def ruleCount (plan : Plan n Link) : Nat := (plan.parts.flatMap (·.constraints)).length

def field? (plan : Plan n Link) (name : String) : Option (FieldPlan n Link) :=
  (plan.fields.find? (·.1 = name)).map (·.2)

def putField (name : String) (part : FieldPlan n Link) :
    List (String × FieldPlan n Link) → List (String × FieldPlan n Link)
  | [] => [(name, part)]
  | (key, old) :: rest =>
      if name = key then (key, part) :: rest else (key, old) :: putField name part rest

def addField (name : String) (part : FieldPlan n Link) (fields : List (String × FieldPlan n Link)) :
    List (String × FieldPlan n Link) :=
  if part.stages.isEmpty && part.nested.isNone then fields else putField name part fields

end Plan

end RecordRules
