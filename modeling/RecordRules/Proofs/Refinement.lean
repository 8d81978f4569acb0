import Mathlib
import RecordRules.Proofs.Independence
import RecordRules.Proofs.Interpretation
import RecordRules.Proofs.Stages

set_option autoImplicit false

namespace RecordRules

variable {n : Nat} {S : Schema n}

theorem condition_holds (record : Instance n) (fit : record.fits S) (pair : Pair)
    (condition : Condition n) (reads : CrossRule.Reads S record.type pair condition) :
    condition.holds S record = pair.holds S record := by
  have same := FieldPath.read_lookup S _ _ record reads.1 fit
  cases read : record.lookup S pair.field with
  | error error => simp only [Condition.holds, Pair.holds, same, read]
  | ok value => simp only [Condition.holds, Pair.holds, same, read, reads.2]

theorem conditions_hold (record : Instance n) (fit : record.fits S) (pairs : List Pair)
    (conditions : List (Condition n))
    (reads : List.Forall₂ (CrossRule.Reads S record.type) pairs conditions) :
    conditions.map (Condition.holds S record) = pairs.map (Pair.holds S record) := by
  induction reads with
  | nil => rfl
  | cons first _ ih =>
      rw [List.map_cons, List.map_cons, ih, condition_holds record fit _ _ first]

theorem conditions_text (root : Fin n) (pairs : List Pair) (conditions : List (Condition n))
    (reads : List.Forall₂ (CrossRule.Reads S root) pairs conditions) :
    conditions.map Condition.text = pairs.map Pair.text ∧
      conditions.map (fun condition => condition.target.text) = pairs.map Pair.field := by
  induction reads with
  | nil => exact ⟨rfl, rfl⟩
  | @cons pair condition _ _ first _ ih =>
      have named := (FieldPath.resolve_ok S root _ _ first.1).1
      have text : condition.text = pair.text := by
        rw [Condition.text, Pair.text, named, first.2]
      exact ⟨congrArg₂ List.cons text ih.1, congrArg₂ List.cons named ih.2⟩

theorem targets_set (record : Instance n) (fit : record.fits S) (texts : List String)
    (targets : List (FieldPath n)) (resolved : List.Forall₂ (fun text target =>
      FieldPath.resolve S record.type text = .ok target) texts targets) :
    targets.map (FieldPath.isSet S record) = texts.map (record.isSet S) ∧
      targets.map FieldPath.text = texts := by
  induction resolved with
  | nil => exact ⟨rfl, rfl⟩
  | @cons text target _ _ first _ ih =>
      have set : target.isSet S record = record.isSet S text := by
        have same := FieldPath.read_lookup S _ _ record first fit
        cases read : record.lookup S text with
        | error error => simp only [FieldPath.isSet, Instance.isSet, same, read]
        | ok value => simp only [FieldPath.isSet, Instance.isSet, same, read]
      exact ⟨congrArg₂ List.cons set ih.1,
        congrArg₂ List.cons (FieldPath.resolve_ok S _ _ _ first).1 ih.2⟩

theorem relational_agrees (record : Instance n) (fit : record.fits S) (value : Value n) (op : Comparison)
    (text : String) (target : FieldPath n)
    (resolved : FieldPath.resolve S record.type text = .ok target) :
    CrossRule.relationalViolation? S record value op target = op.violation? S record value text := by
  have named := (FieldPath.resolve_ok S _ _ _ resolved).1
  rw [CrossRule.relationalViolation?, Comparison.violation?,
    FieldPath.read_lookup S _ _ record resolved fit]
  subst named
  cases record.lookup S target.text with
  | error error => cases error <;> rfl
  | ok other => rfl

variable {catalog : Catalog n} {anchor : FieldPath n}

theorem clause_agrees (record : Instance n) (type : anchor.root = record.type) (fit : record.fits S)
    (value : Value n) (clause : Clause) (constraint : Constraint n)
    (made : Constraint.ofClause S catalog anchor clause = .ok constraint) :
    constraint.violation? S record value = clause.violation? catalog S record value ∧
      constraint.tag = clause.tag := by
  cases clause with
  | leaf name param =>
      obtain ⟨check, built, rfl⟩ := Constraint.of_leaf_ok made
      rw [Clause.violation?, built, Constraint.violation?]
      exact ⟨rfl, rfl⟩
  | relational op text =>
      obtain ⟨rule, read, rfl⟩ := ok_of_map made
      obtain ⟨target, rfl, resolved, _⟩ := CrossRule.relational_of_ok read
      rw [type] at resolved
      rw [Constraint.violation?, CrossRule.violation?, Clause.violation?]
      exact ⟨relational_agrees record fit value op text target resolved, rfl⟩
  | presence kind texts =>
      obtain ⟨rule, read, rfl⟩ := ok_of_map made
      obtain ⟨targets, rfl, resolved⟩ := CrossRule.presence_of_ok read
      rw [type] at resolved
      obtain ⟨set, named⟩ := targets_set record fit texts targets resolved
      rw [Constraint.violation?, CrossRule.violation?, Clause.violation?, set, CrossRule.violation,
        CrossRule.targetNames, CrossRule.targets, named]
      exact ⟨rfl, rfl⟩
  | conditional kind pairs =>
      obtain ⟨rule, read, rfl⟩ := ok_of_map made
      obtain ⟨conditions, rfl, reads⟩ := CrossRule.conditional_of_ok read
      rw [type] at reads
      obtain ⟨texts, named⟩ := conditions_text record.type pairs conditions reads
      rw [Constraint.violation?, CrossRule.violation?, Clause.violation?,
        conditions_hold record fit pairs conditions reads, texts, CrossRule.violation,
        CrossRule.targetNames, CrossRule.targets, List.map_map]
      exact ⟨by rw [← named]; rfl, rfl⟩

theorem branches_agree (record : Instance n) (type : anchor.root = record.type) (fit : record.fits S)
    (value : Value n) (clauses : List Clause) (branches : List (Constraint n))
    (made : List.Forall₂ (fun clause branch => Constraint.ofClause S catalog anchor clause = .ok branch)
      clauses branches) :
    Constraint.violations? S record value branches =
        clauses.mapM (Clause.violation? catalog S record value) ∧
      Constraint.tags branches = clauses.map Clause.tag := by
  induction made with
  | nil => exact ⟨rfl, rfl⟩
  | @cons clause branch restClauses rest first _ ih =>
      obtain ⟨told, tag⟩ := clause_agrees record type fit value clause branch first
      refine ⟨?_, by rw [Constraint.tags, ih.2, tag]; rfl⟩
      rw [Constraint.violations?, List.mapM_cons, told, ih.1]
      cases clause.violation? catalog S record value with
      | none => rfl
      | some violation =>
          cases restClauses.mapM (Clause.violation? catalog S record value) <;> rfl

def Stage.violation? (S : Schema n) (record : Instance n) (value : Value n) :
    Stage n → Option Violation
  | gate _ => none
  | test constraint => constraint.violation? S record value

def Stage.admits (S : Schema n) (record : Instance n) (value : Value n) : Stage n → Bool
  | gate inner => inner.admits S record value
  | test _ => true

variable {book : Rulebook n}

theorem all_of_map {α β : Type} {holds : α → Bool} {otherHolds : β → Bool} {items : List α} {others : List β}
    (same : items.map holds = others.map otherHolds) : items.all holds = others.all otherHolds := by
  calc
    items.all holds = (items.map holds).all id := by rw [List.all_map, Function.id_comp]
    _ = others.all otherHolds := by rw [same, List.all_map, Function.id_comp]

theorem stage_agrees (record : Instance n) (type : anchor.root = record.type) (fit : record.fits S)
    (value : Value n) (rule : Rule) (stage : Stage n) (made : book.stage S anchor rule = .ok stage) :
    stage.violation? S record value = rule.violation? book.catalog S record value ∧
      stage.admits S record value = rule.admits S record value := by
  have read := Rulebook.stage_ok made
  cases rule with
  | skip => exact read.elim
  | omitEmpty =>
      have same : stage = .gate .omitEmpty := read
      rw [same]
      exact ⟨rfl, rfl⟩
  | skipUnless pairs =>
      obtain ⟨conditions, rfl, reads⟩ := read
      rw [type] at reads
      have same := conditions_hold record fit pairs conditions reads
      exact ⟨rfl, all_of_map same⟩
  | clause clause =>
      obtain ⟨constraint, rfl, clauseMade⟩ := read
      exact ⟨(clause_agrees record type fit value clause constraint clauseMade).1, rfl⟩
  | anyOf clauses =>
      obtain ⟨branches, rfl, branchesMade⟩ := read
      obtain ⟨told, tags⟩ := branches_agree record type fit value clauses branches branchesMade
      refine ⟨?_, rfl⟩
      rw [Stage.violation?, Rule.violation?, Constraint.violation?, told, tags]

theorem admitted_cons (record : Instance n) (value : Value n) (stage : Stage n) (rest : List (Stage n)) :
    (Stage.admitted S record value (stage :: rest)).filterMap (Constraint.violation? S record value) =
      (stage.violation? S record value).toList ++
        if stage.admits S record value then
          (Stage.admitted S record value rest).filterMap (Constraint.violation? S record value)
        else [] := by
  cases stage with
  | gate gate =>
      rw [Stage.admitted, Stage.violation?, Stage.admits]
      split <;> rfl
  | test constraint =>
      rw [Stage.admitted, List.filterMap_cons, Stage.violation?, Stage.admits, if_pos rfl]
      cases constraint.violation? S record value <;> rfl

-- The rules before the ones at hand are kept along, for the gates among them.
theorem rules_agree (record : Instance n) (type : anchor.root = record.type) (fit : record.fits S)
    (value : Value n) (rules : List Rule) (stages : List (Stage n))
    (made : List.Forall₂ (fun rule stage => book.stage S anchor rule = .ok stage) rules stages)
    (before : List Rule) :
    (rules.zipIdx before.length).filterMap (fun (rule, place) =>
        if ((before ++ rules).take place).all (Rule.admits S record value) then
          rule.violation? book.catalog S record value
        else none) =
      if before.all (Rule.admits S record value) then
        (Stage.admitted S record value stages).filterMap (Constraint.violation? S record value)
      else [] := by
  induction made generalizing before with
  | nil => split <;> rfl
  | @cons rule stage rest restStages first _ ih =>
      obtain ⟨told, admits⟩ := stage_agrees record type fit value rule stage first
      have later := ih (before ++ [rule])
      rw [List.length_append, List.append_assoc, List.singleton_append, List.length_singleton,
        List.all_append] at later
      rw [List.zipIdx_cons, List.filterMap_cons]
      dsimp only
      rw [later, admitted_cons, told, admits, List.take_left]
      by_cases counted : before.all (Rule.admits S record value)
      · simp only [counted, Bool.true_and, List.all_cons, List.all_nil, Bool.and_true]
        cases rule.violation? book.catalog S record value <;> rfl
      · simp [counted]

theorem own_report_agrees {Link : Type} (record : Instance n) (type : anchor.root = record.type)
    (fit : record.fits S) (value : Value n) (rules : List Rule) (stages : List (Stage n)) (nested : Option Link)
    (made : List.Forall₂ (fun rule stage => book.stage S anchor rule = .ok stage) rules stages) :
    FieldPlan.ownReport S record value ⟨anchor, stages, nested⟩ =
      book.interpretRules S record anchor.text value rules := by
  rw [FieldPlan.ownReport, Rulebook.interpretRules, Rule.violations]
  exact congrArg _ (rules_agree record type fit value rules stages made []).symm

namespace Rulebook

theorem put_field_fresh {Link : Type} (name : String) (part : FieldPlan n Link)
    (fields : List (String × FieldPlan n Link)) (fresh : name ∉ fields.map Prod.fst) :
    Plan.putField name part fields = fields ++ [(name, part)] := by
  induction fields with
  | nil => rfl
  | cons entry rest ih =>
      obtain ⟨key, old⟩ := entry
      rw [List.map_cons, List.mem_cons, not_or] at fresh
      rw [Plan.putField, if_neg fresh.1, ih fresh.2]
      rfl

theorem declared_names (fields : List (FieldDef n)) :
    fields.zipIdx.map (·.1.name) = fields.map FieldDef.name := by
  calc
    _ = (fields.zipIdx.map Prod.fst).map FieldDef.name := by
      rw [List.map_map]
      rfl
    _ = _ := by rw [List.zipIdx_map_fst]

def drawn? (book : Rulebook n) (S : Schema n) (id : Fin n) (declared : FieldDef n × Nat) :
    Option (String × FieldPlan n (Fin n)) :=
  let (field, index) := declared
  match book.fieldStages? S id field index with
  | .ok (some stages) =>
      if stages.isEmpty && (book.nested? field).isNone then none
      else some (field.name, ⟨.declared id index field, stages, book.nested? field⟩)
  | .ok none | .error _ => none

theorem drawn_name (id : Fin n) (declared : FieldDef n × Nat) (entry : String × FieldPlan n (Fin n))
    (drawn : book.drawn? S id declared = some entry) : entry.1 = declared.1.name := by
  obtain ⟨field, index⟩ := declared
  rw [drawn?] at drawn
  split at drawn
  · split at drawn
    · cases drawn
    · exact Option.some.inj drawn ▸ rfl
  · cases drawn
  · cases drawn

theorem draw_field_fresh (id : Fin n) (declared : FieldDef n × Nat)
    (done : List (String × FieldPlan n (Fin n))) (fresh : declared.1.name ∉ done.map Prod.fst) :
    book.drawField S id done declared = done ++ (book.drawn? S id declared).toList := by
  obtain ⟨field, index⟩ := declared
  rw [drawField, drawn?]
  cases book.fieldStages? S id field index with
  | error error => exact (List.append_nil _).symm
  | ok stages? =>
      cases stages? with
      | none => exact (List.append_nil _).symm
      | some stages =>
          simp only [Plan.addField]
          split
          · exact (List.append_nil _).symm
          · exact put_field_fresh field.name _ done fresh

theorem draw_fields_fresh (id : Fin n) (fields : List (FieldDef n × Nat))
    (distinct : (fields.map (·.1.name)).Nodup) (done : List (String × FieldPlan n (Fin n)))
    (apart : ∀ name ∈ done.map Prod.fst, name ∉ fields.map (·.1.name)) :
    fields.foldl (book.drawField S id) done = done ++ fields.filterMap (book.drawn? S id) := by
  induction fields generalizing done with
  | nil => exact (List.append_nil _).symm
  | cons declared rest ih =>
      obtain ⟨outside, distinct⟩ := List.nodup_cons.mp distinct
      have fresh : declared.1.name ∉ done.map Prod.fst := fun member =>
        apart _ member List.mem_cons_self
      have stillApart : ∀ name ∈ (done ++ (book.drawn? S id declared).toList).map Prod.fst,
          name ∉ rest.map (·.1.name) := by
        intro name member
        rw [List.map_append] at member
        rcases List.mem_append.mp member with before | added
        · exact fun later => apart name before (List.mem_cons_of_mem _ later)
        · obtain ⟨entry, there, rfl⟩ := List.mem_map.mp added
          rw [drawn_name id declared entry (Option.mem_toList.mp there)]
          exact outside
      rw [List.foldl_cons, draw_field_fresh id declared done fresh, ih distinct _ stillApart,
        List.append_assoc, List.filterMap_cons]
      cases book.drawn? S id declared <;> rfl

def fieldReport (book : Rulebook n) (S : Schema n) (id : Fin n) (say : FieldPlan n (Fin n) → Report)
    (declared : FieldDef n × Nat) : Report :=
  let (field, index) := declared
  match book.fieldStages? S id field index with
  | .ok (some stages) => say ⟨.declared id index field, stages, book.nested? field⟩
  | .ok none | .error _ => []

theorem report_drawn (say : FieldPlan n (Fin n) → Report)
    (idle : ∀ part, part.stages = [] → part.nested = none → say part = []) (id : Fin n)
    (declared : FieldDef n × Nat) :
    (book.drawn? S id declared).toList.flatMap (fun entry => say entry.2) =
      book.fieldReport S id say declared := by
  obtain ⟨field, index⟩ := declared
  rw [drawn?, fieldReport]
  cases book.fieldStages? S id field index with
  | error error => rfl
  | ok stages? =>
      cases stages? with
      | none => rfl
      | some stages =>
          dsimp only
          split
          case isTrue empty =>
            obtain ⟨noStage, noLink⟩ := Bool.and_eq_true_iff.mp empty
            exact (idle _ (List.isEmpty_iff.mp noStage) (Option.isNone_iff_eq_none.mp noLink)).symm
          case isFalse => exact List.flatMap_singleton _ _

theorem report_draw_fields (say : FieldPlan n (Fin n) → Report)
    (idle : ∀ part, part.stages = [] → part.nested = none → say part = []) (id : Fin n)
    (fields : List (FieldDef n × Nat)) (distinct : (fields.map (·.1.name)).Nodup) :
    (fields.foldl (book.drawField S id) []).flatMap (fun entry => say entry.2) =
      fields.flatMap (book.fieldReport S id say) := by
  rw [draw_fields_fresh id fields distinct [] (by simp), List.nil_append, List.filterMap_eq_flatMap_toList,
    List.flatMap_assoc]
  exact List.flatMap_congr fun declared _ => report_drawn say idle id declared

theorem idle_report (draw : Fin n → Option (Plan n (Fin n))) (record : Instance n)
    (part : FieldPlan n (Fin n)) (stages : part.stages = []) (nested : part.nested = none) :
    part.report S draw record = [] := by
  rw [FieldPlan.report]
  cases part.anchor.read S record with
  | error error => rfl
  | ok value =>
      simp only [FieldPlan.ownReport, stages, nested, Stage.admitted]
      cases value.record? <;> rfl

theorem field_agrees (record : Instance n) (fit : record.fits S)
    (distinct : ((S record.type).fields.map FieldDef.name).Nodup) (field : FieldDef n) (index : Nat)
    (there : (S record.type).fields[index]? = some field)
    (clean : ∀ error, .fail error ∉ book.fieldEvents S record.type (field, index))
    (innerAgrees : ∀ inner, record.field index = .record inner.type inner.fields → inner.fits S →
      .enter inner.type ∈ book.fieldEvents S record.type (field, index) →
      (book.blueprint S inner.type).report S (fun id => some (book.blueprint S id)) inner =
        book.interpret S inner) :
    book.fieldReport S record.type (·.report S (fun id => some (book.blueprint S id)) record)
      (field, index) = book.interpretField S record field := by
  rw [field_events_eq] at clean innerAgrees
  rw [fieldReport, interpretField]
  cases read : book.fieldStages? S record.type field index with
  | error error =>
      rw [read] at clean
      exact absurd List.mem_cons_self (clean error)
  | ok stages? =>
      rw [read] at innerAgrees
      obtain ⟨rules, parsed, ⟨skipped, rfl⟩ | ⟨counted, stages, rfl, made⟩⟩ :=
        stages_ok (field_stages_ok read)
      · simp only [parsed, if_pos (List.contains_iff_mem.mpr skipped)]
      · have admitted : ¬rules.contains .skip := fun found => counted (List.contains_iff_mem.mp found)
        simp only [parsed, if_neg admitted, FieldPlan.report, FieldPath.read_declared,
          named_declared S record distinct index field there]
        rw [own_report_agrees record rfl fit _ rules stages _ made]
        refine congrArg (book.interpretRules S record field.name (record.field index) rules ++ ·) ?_
        have fieldFits := fits_field S record fit index field there
        cases value : record.field index with
        | record type fields =>
            rw [value, fits_record] at fieldFits
            simp only [Value.record?]
            by_cases recurse : book.settings.recurseNested && field.exported
            · have nested : book.nested? field = some type := by
                rw [nested?, if_pos recurse, fieldFits.1]
              have inner := innerAgrees ⟨type, fields⟩ value fieldFits.2 (by rw [nested]; simp)
              rw [nested, if_pos recurse, ← inner]
              rfl
            · have nested : book.nested? field = none := by
                rw [nested?, if_neg recurse]
              rw [nested, if_neg recurse]
              rfl
        | _ => rfl

theorem check_agrees {Link : Type} (record : Instance n) (fit : record.fits S) (check : RecordCheck)
    (part? : Option (FieldPlan n Link)) (made : book.checkPlan? S record.type check = .ok part?)
    (follow : Link → Option (Plan n Link)) :
    part?.toList.flatMap (·.report S follow record) = book.interpretCheck S record check := by
  obtain ⟨anchor, stages?, resolved, read, rfl⟩ := check_plan_ok made
  obtain ⟨text, root, _⟩ := FieldPath.resolve_ok S record.type check.anchor anchor resolved
  have reads := FieldPath.read_lookup S check.anchor anchor record resolved fit
  obtain ⟨rules, parsed, ⟨skipped, rfl⟩ | ⟨counted, stages, rfl, madeStages⟩⟩ := stages_ok read
  · rw [interpretCheck, parsed]
    cases record.lookup S check.anchor with
    | error error => rfl
    | ok value =>
        simp only [if_pos (List.contains_iff_mem.mpr skipped)]
        rfl
  · have admitted : ¬rules.contains .skip := fun found => counted (List.contains_iff_mem.mp found)
    rw [Option.map_some, Option.toList_some, List.flatMap_singleton, FieldPlan.report, interpretCheck,
      parsed, reads]
    cases record.lookup S check.anchor with
    | error error => rfl
    | ok value =>
        simp only [if_neg admitted, Option.bind_none]
        rw [own_report_agrees record root fit value rules stages _ madeStages, text]
        cases value.record? <;> exact List.append_nil _

theorem checks_agree (record : Instance n) (fit : record.fits S) (checks : List RecordCheck)
    (clean : ∀ check ∈ checks, ∀ error, .fail error ∉ book.checkEvents S record.type check)
    (draw : Fin n → Option (Plan n (Fin n))) :
    ∃ parts, book.checkPlans S record.type checks = .ok parts ∧
      parts.flatMap (·.report S draw record) = checks.flatMap (book.interpretCheck S record) := by
  induction checks with
  | nil => exact ⟨[], rfl, rfl⟩
  | cons check rest ih =>
      obtain ⟨parts, made, told⟩ := ih fun other member => clean other (List.mem_cons_of_mem _ member)
      have firstClean := clean check List.mem_cons_self
      cases first : (book.checkPlan? S record.type check : Except _ (Option (FieldPlan n (Fin n)))) with
      | error cause =>
          rw [check_events_eq (Fin n), first] at firstClean
          exact absurd List.mem_cons_self (firstClean _)
      | ok part? =>
          refine ⟨part?.toList ++ parts, ?_, ?_⟩
          · rw [checkPlans, first, made]
            rfl
          · rw [List.flatMap_append, told, check_agrees record fit check part? first draw,
              List.flatMap_cons]

theorem fields_agree (record : Instance n) (say : FieldPlan n (Fin n) → Report)
    (same : ∀ declared ∈ (S record.type).fields.zipIdx,
      book.fieldReport S record.type say declared = book.interpretField S record declared.1) :
    (S record.type).fields.zipIdx.flatMap (book.fieldReport S record.type say) =
      (S record.type).fields.flatMap (book.interpretField S record) := by
  rw [List.flatMap_congr same, ← List.flatMap_map Prod.fst (book.interpretField S record),
    List.zipIdx_map_fst]

-- The blueprints refer to each other in circles; the records below a record are smaller.
theorem blueprint_agrees (ids : List (Fin n)) (closed : Closed (book.events S) ids)
    (distinct : ∀ id, ((S id).fields.map FieldDef.name).Nodup) (record : Instance n)
    (there : record.type ∈ ids) (fit : record.fits S) :
    (book.blueprint S record.type).report S (fun id => some (book.blueprint S id)) record =
      book.interpret S record := by
  induction size : sizeOf record using Nat.strongRecOn generalizing record with
  | _ limit ih =>
      let say : FieldPlan n (Fin n) → Report :=
        (·.report S (fun id => some (book.blueprint S id)) record)
      have fields : (S record.type).fields.zipIdx.flatMap (book.fieldReport S record.type say) =
          (S record.type).fields.flatMap (book.interpretField S record) := by
        refine fields_agree record say fun declared listed => field_agrees record fit (distinct _)
          declared.1 declared.2 (List.mem_zipIdx_iff_getElem?.mp listed) (fun error met => ?_)
          (fun inner value innerFits met => ?_)
        · exact closed_clean closed there error (field_event_mem _ _ _ declared listed _ met)
        · have member := closed_enter closed there (field_event_mem _ _ _ declared listed _ met)
          exact ih _ (size ▸ record.size_field declared.2 value) inner member innerFits rfl
      have checkClean : ∀ check ∈ (S record.type).checks, ∀ error,
          .fail error ∉ book.checkEvents S record.type check := fun check listed error met =>
        closed_clean closed there error (check_event_mem _ _ _ check listed _ met)
      obtain ⟨parts, made, checks⟩ := checks_agree record fit _ checkClean
        (fun id => some (book.blueprint S id))
      have drawn : (book.drawFields S record.type).flatMap (fun entry => say entry.2) =
          (S record.type).fields.zipIdx.flatMap (book.fieldReport S record.type say) :=
        report_draw_fields say (idle_report _ record) record.type _ (declared_names _ ▸ distinct _)
      calc
        (book.blueprint S record.type).report S (fun id => some (book.blueprint S id)) record
          = (book.drawFields S record.type).flatMap (fun entry => say entry.2) ++
              (book.drawChecks S record.type).flatMap say := by
            rw [Plan.report_parts, Plan.parts, List.flatMap_append, List.flatMap_map]
            rfl
        _ = (S record.type).fields.flatMap (book.interpretField S record) ++
              (S record.type).checks.flatMap (book.interpretCheck S record) := by
            rw [drawn, fields, ← checks, drawChecks, made]
        _ = book.interpret S record := (interpret_fields book S record).symm

end Rulebook

open Rulebook

namespace Validator

theorem report_interpret (book : Rulebook n) (S : Schema n) (calls more : List (Fin n)) (id : Fin n)
    (plan : Plan n Slot) (next : Validator n)
    (compiled : ((ofRulebook book).after S calls).compile S id = (.ok plan, next))
    (distinct : ∀ other, ((S other).fields.map FieldDef.name).Nodup) (record : Instance n)
    (type : record.type = id) (fit : record.fits S) :
    (next.after S more).report S plan record = book.interpret S record := by
  obtain ⟨rfl, ready, there⟩ := compiled_ready compiled
  subst type
  rw [published_report next ready record.type plan there more record]
  exact blueprint_agrees next.shelf.ids ready.closed distinct record (Shelf.mem_of_plan there) fit

theorem open_span_interpreted :
    ∃ plan next, ((ofRulebook .standard).after spans []).compile spans spanId = (.ok plan, next) ∧
      openSpan.fits spans ∧
      (next.after spans [spanId]).report spans plan openSpan = Rulebook.standard.interpret spans openSpan := by
  have made : (((ofRulebook .standard).after spans []).compile spans spanId).1.isOk := by cbv
  have distinct : ∀ other, ((spans other).fields.map FieldDef.name).Nodup := by decide
  have fit : openSpan.fits spans := by decide
  cases compiled : ((ofRulebook .standard).after spans []).compile spans spanId with
  | mk outcome next =>
      rw [compiled] at made
      cases outcome with
      | error error => cases made
      | ok plan =>
          exact ⟨plan, next, rfl, fit,
            report_interpret .standard spans [] [spanId] spanId plan next compiled distinct openSpan rfl fit⟩

end Validator

end RecordRules
