import RecordRules.Proofs.Outcome
import RecordRules.Rulebook.Build

set_option autoImplicit false

namespace RecordRules

variable {n : Nat} {S : Schema n} {anchor : FieldPath n}

theorem sibling_ok {text : String} {path : FieldPath n} (made : anchor.sibling S text = .ok path) :
    FieldPath.resolve S anchor.root text = .ok path := ok_of_map_error made

theorem other_sibling_ok {rule text : String} {path : FieldPath n}
    (made : anchor.otherSibling S rule text = .ok path) :
    FieldPath.resolve S anchor.root text = .ok path := by
  rw [FieldPath.otherSibling] at made
  obtain ⟨target, resolved, made⟩ := ok_of_bind made
  split at made
  · cases made
  · exact Except.ok.inj made ▸ sibling_ok resolved

namespace CrossRule

theorem relational_of_ok {op : Comparison} {text : String} {rule : CrossRule n}
    (made : relationalOf S anchor op text = .ok rule) :
    ∃ target, rule = .relational op target ∧ FieldPath.resolve S anchor.root text = .ok target ∧
      ∀ left right, anchor.target? = some left → target.target? = some right →
        op.admits left.kind right.kind := by
  rw [relationalOf] at made
  obtain ⟨target, resolved, made⟩ := ok_of_bind made
  refine ⟨target, ?_, other_sibling_ok resolved, fun left right anchorType targetType => ?_⟩
  · split at made
    · split at made
      · exact (Except.ok.inj made).symm
      · cases made
    · exact (Except.ok.inj made).symm
  · rw [anchorType, targetType] at made
    by_cases admitted : op.admits left.kind right.kind
    · exact admitted
    · simp only [if_neg admitted] at made
      cases made

theorem presence_of_ok {kind : Presence} {texts : List String} {rule : CrossRule n}
    (made : presenceOf S anchor kind texts = .ok rule) :
    ∃ targets, rule = .presence kind targets ∧
      List.Forall₂ (fun text target => FieldPath.resolve S anchor.root text = .ok target) texts
        targets := by
  rw [presenceOf] at made
  obtain ⟨targets, resolved, made⟩ := ok_of_bind made
  exact ⟨targets, (Except.ok.inj made).symm,
    (pointwise_of_mapM _ texts targets resolved).imp fun _ _ => other_sibling_ok⟩

def Reads (S : Schema n) (root : Fin n) (pair : Pair) (condition : Condition n) : Prop :=
  FieldPath.resolve S root pair.field = .ok condition.target ∧ condition.literal = pair.literal

theorem conditional_of_ok {kind : Conditional} {pairs : List Pair} {rule : CrossRule n}
    (made : conditionalOf S anchor kind pairs = .ok rule) :
    ∃ conditions, rule = .conditional kind conditions ∧
      List.Forall₂ (Reads S anchor.root) pairs conditions := by
  rw [conditionalOf] at made
  obtain ⟨conditions, resolved, made⟩ := ok_of_bind made
  refine ⟨conditions, (Except.ok.inj made).symm, ?_⟩
  refine (pointwise_of_mapM _ pairs conditions resolved).imp fun pair condition made => ?_
  obtain ⟨target, found, made⟩ := ok_of_bind made
  obtain rfl := Except.ok.inj made
  exact ⟨other_sibling_ok found, rfl⟩

end CrossRule

namespace Constraint

variable {catalog : Catalog n}

theorem of_leaf_ok {name : String} {param : Option String} {constraint : Constraint n}
    (made : ofLeaf catalog name param = .ok constraint) :
    ∃ check, catalog.build name param = .ok check ∧ constraint = .leaf ⟨name, param, check⟩ := by
  rw [ofLeaf] at made
  obtain ⟨check, built, made⟩ := ok_of_bind made
  exact ⟨check, built, (Except.ok.inj made).symm⟩

theorem of_branch_ok {clause : Clause} {constraint : Constraint n}
    (made : ofBranch S catalog anchor clause = .ok constraint) :
    ofClause S catalog anchor clause = .ok constraint := by
  cases clause with
  | leaf name param => exact made
  | relational op target => exact made
  | presence kind targets => cases made
  | conditional kind pairs => cases made

theorem of_branches_ok {clauses : List Clause} {constraint : Constraint n}
    (made : ofBranches S catalog anchor clauses = .ok constraint) :
    ∃ branches, constraint = .anyOf branches ∧ List.Forall₂
      (fun clause branch => ofClause S catalog anchor clause = .ok branch) clauses branches := by
  rw [ofBranches] at made
  obtain ⟨branches, read, made⟩ := ok_of_bind made
  exact ⟨branches, (Except.ok.inj made).symm,
    (pointwise_of_mapM _ clauses branches read).imp fun _ _ => of_branch_ok⟩

end Constraint

namespace Rulebook

variable {book : Rulebook n}

theorem stages_ok {rules : String} {stages? : Option (List (Stage n))}
    (made : book.stages? S anchor rules = .ok stages?) :
    ∃ parsed, book.parse rules = .ok parsed ∧
      ((Rule.skip ∈ parsed ∧ stages? = none) ∨
        (Rule.skip ∉ parsed ∧ ∃ stages, stages? = some stages ∧
          List.Forall₂ (fun rule stage => book.stage S anchor rule = .ok stage) parsed stages)) := by
  rw [Rulebook.stages?] at made
  obtain ⟨parsed, read, made⟩ := ok_of_bind made
  refine ⟨parsed, read, ?_⟩
  split at made
  case isTrue skipped =>
    exact .inl ⟨List.contains_iff_mem.mp skipped, (Except.ok.inj made).symm⟩
  case isFalse counted =>
    obtain ⟨stages, readAll, made⟩ := ok_of_bind made
    exact .inr ⟨fun member => counted (List.contains_iff_mem.mpr member), stages,
      (Except.ok.inj made).symm, pointwise_of_mapM _ parsed stages readAll⟩

theorem stage_ok {rule : Rule} {stage : Stage n} (made : book.stage S anchor rule = .ok stage) :
    match rule with
    | .skip => False
    | .omitEmpty => stage = .gate .omitEmpty
    | .skipUnless pairs => ∃ conditions, stage = .gate (.skipUnless conditions) ∧
        List.Forall₂ (CrossRule.Reads S anchor.root) pairs conditions
    | .clause clause => ∃ constraint, stage = .test constraint ∧
        Constraint.ofClause S book.catalog anchor clause = .ok constraint
    | .anyOf clauses => ∃ branches, stage = .test (.anyOf branches) ∧ List.Forall₂
        (fun clause branch => Constraint.ofClause S book.catalog anchor clause = .ok branch) clauses
        branches := by
  cases rule with
  | skip => cases made
  | omitEmpty => exact (Except.ok.inj made).symm
  | skipUnless pairs =>
      obtain ⟨conditions, read, made⟩ := ok_of_bind made
      refine ⟨conditions, (Except.ok.inj made).symm, ?_⟩
      refine (pointwise_of_mapM _ pairs conditions read).imp fun pair condition made => ?_
      obtain ⟨target, found, made⟩ := ok_of_bind made
      obtain rfl := Except.ok.inj made
      exact ⟨sibling_ok found, rfl⟩
  | clause clause =>
      obtain ⟨constraint, read, same⟩ := ok_of_map made
      exact ⟨constraint, same.symm, read⟩
  | anyOf clauses =>
      obtain ⟨constraint, read, same⟩ := ok_of_map made
      obtain ⟨branches, rfl, branchesRead⟩ := Constraint.of_branches_ok read
      exact ⟨branches, same.symm, branchesRead⟩

theorem field_stages_ok {id : Fin n} {field : FieldDef n} {index : Nat}
    {stages? : Option (List (Stage n))} (made : book.fieldStages? S id field index = .ok stages?) :
    book.stages? S (.declared id index field) field.rules = .ok stages? := ok_of_map_error made

theorem check_plan_ok {Link : Type} {id : Fin n} {check : RecordCheck}
    {part? : Option (FieldPlan n Link)} (made : book.checkPlan? S id check = .ok part?) :
    ∃ anchor stages?, FieldPath.resolve S id check.anchor = .ok anchor ∧
      book.stages? S anchor check.rules = .ok stages? ∧
      part? = stages?.map fun stages => ⟨anchor, stages, none⟩ := by
  rw [checkPlan?] at made
  obtain ⟨anchor, resolved, made⟩ := ok_of_bind made
  obtain ⟨stages?, read, made⟩ := ok_of_bind made
  exact ⟨anchor, stages?, ok_of_map_error resolved, read, (Except.ok.inj made).symm⟩

theorem check_plan_made (Link : Type) {id : Fin n} {check : RecordCheck}
    {stages? : Option (List (Stage n))} (resolved : FieldPath.resolve S id check.anchor = .ok anchor)
    (read : book.stages? S anchor check.rules = .ok stages?) :
    book.checkPlan? S id check =
      .ok (stages?.map fun stages => (⟨anchor, stages, none⟩ : FieldPlan n Link)) := by
  rw [checkPlan?, resolved]
  simp only [Except.mapError, bind, Except.bind, read]
  rfl

theorem check_plan_nested {Link : Type} {id : Fin n} {check : RecordCheck} {part : FieldPlan n Link}
    (made : book.checkPlan? S id check = .ok (some part)) : part.nested = none := by
  obtain ⟨anchor, stages?, _, _, same⟩ := check_plan_ok made
  cases stages? with
  | none => cases same
  | some stages => exact Option.some.inj same ▸ rfl

theorem check_plans_ok {Link : Type} {id : Fin n} {check : RecordCheck} {rest : List RecordCheck}
    {parts : List (FieldPlan n Link)} (made : book.checkPlans S id (check :: rest) = .ok parts) :
    ∃ part? others, book.checkPlan? S id check = .ok part? ∧ book.checkPlans S id rest = .ok others ∧
      parts = part?.toList ++ others := by
  rw [checkPlans] at made
  obtain ⟨part?, first, made⟩ := ok_of_bind made
  obtain ⟨others, later, made⟩ := ok_of_bind made
  exact ⟨part?, others, ok_of_map_error first, later, (Except.ok.inj made).symm⟩

end Rulebook

end RecordRules
