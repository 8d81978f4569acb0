import RecordRules.Constraint.Verdict
import RecordRules.Plan.Basic

set_option autoImplicit false

namespace RecordRules

variable {n : Nat} {Link : Type}

def Gate.admits (S : Schema n) (record : Instance n) (value : Value n) : Gate n → Bool
  | omitEmpty => !value.isEmpty
  | skipUnless conditions => conditions.all (Condition.holds S record)

def Stage.admitted (S : Schema n) (record : Instance n) (value : Value n) :
    List (Stage n) → List (Constraint n)
  | [] => []
  | gate inner :: rest => if inner.admits S record value then admitted S record value rest else []
  | test constraint :: rest => constraint :: admitted S record value rest

def FieldPlan.ownReport (S : Schema n) (record : Instance n) (value : Value n)
    (plan : FieldPlan n Link) : Report :=
  ((Stage.admitted S record value plan.stages).filterMap
    (Constraint.violation? S record value)).map (·.withField plan.anchor.text)

theorem Instance.size_field (record : Instance n) (index : Nat) {type : Fin n}
    {fields : List (Value n)} (found : record.field index = .record type fields) :
    sizeOf (⟨type, fields⟩ : Instance n) < sizeOf record := by
  obtain ⟨root, values⟩ := record
  rw [Instance.field] at found
  cases present : values[index]? with
  | none => simp [present] at found
  | some value =>
      have small := List.sizeOf_lt_of_mem (List.mem_of_getElem? present)
      simp only [present, Option.getD_some] at found
      subst found
      simp only [Value.record.sizeOf_spec] at small
      simp only [Instance.mk.sizeOf_spec]
      omega

theorem FieldPath.size_read_steps (text : String) (steps : List (Step n)) (record : Instance n)
    (passed : List String) {type : Fin n} {fields : List (Value n)}
    (found : readSteps text record passed steps = .ok (.record type fields)) :
    sizeOf (⟨type, fields⟩ : Instance n) < sizeOf record := by
  induction steps generalizing record passed with
  | nil => simp [readSteps] at found
  | cons step rest ih =>
      cases rest with
      | nil =>
          simp only [readSteps, Except.ok.injEq] at found
          exact record.size_field step.index found
      | cons next more =>
          cases link : record.field step.index with
          | record inner values =>
              simp only [readSteps, link] at found
              exact Nat.lt_trans (ih ⟨inner, values⟩ _ found) (record.size_field step.index link)
          | _ => simp [readSteps, link] at found

theorem FieldPath.size_read (S : Schema n) (path : FieldPath n) (record : Instance n)
    {type : Fin n} {fields : List (Value n)}
    (found : path.read S record = .ok (.record type fields)) :
    sizeOf (⟨type, fields⟩ : Instance n) < sizeOf record := by
  rw [read] at found
  split at found
  · exact size_read_steps path.text path.steps record [] found
  · simp at found

-- A gate that does not admit the value ends the rules of its anchor, but a nested record is validated
-- all the same. A link that leads to no plan is passed over.
def Plan.report (S : Schema n) (follow : Link → Option (Plan n Link)) (record : Instance n)
    (plan : Plan n Link) : Report :=
  plan.parts.flatMap fun part =>
    match _inside : part.anchor.read S record with
    | .error _ => []
    | .ok (.record type fields) =>
        part.ownReport S record (.record type fields) ++
          match part.nested.bind follow with
          | some inner => (report S follow ⟨type, fields⟩ inner).map (·.under part.anchor.text)
          | none => []
    | .ok value => part.ownReport S record value
termination_by record
decreasing_by exact part.anchor.size_read S record _inside

def FieldPlan.report (S : Schema n) (follow : Link → Option (Plan n Link)) (record : Instance n)
    (part : FieldPlan n Link) : Report :=
  match part.anchor.read S record with
  | .error _ => []
  | .ok value =>
      part.ownReport S record value ++
        match value.record?, part.nested.bind follow with
        | some inner, some plan => (plan.report S follow inner).map (·.under part.anchor.text)
        | _, _ => []

theorem Plan.report_parts (S : Schema n) (follow : Link → Option (Plan n Link)) (record : Instance n)
    (plan : Plan n Link) : plan.report S follow record = plan.parts.flatMap (·.report S follow record) := by
  rw [Plan.report]
  refine congrArg (List.flatMap · plan.parts) (funext fun part => ?_)
  rw [FieldPlan.report]
  split
  case h_1 found => rw [found]
  case h_2 type fields found =>
    rw [found]
    simp only [Value.record?]
    cases part.nested.bind follow <;> rfl
  case h_3 value other found =>
    rw [found]
    have scalar : value.record? = none := by
      cases value with
      | record type fields => exact absurd rfl (other type fields)
      | _ => rfl
    simp only [scalar, List.append_nil]

end RecordRules
