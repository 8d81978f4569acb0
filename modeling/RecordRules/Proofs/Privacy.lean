import Mathlib
import RecordRules.Proofs.Blindness
import RecordRules.Proofs.Cache
import RecordRules.Proofs.Refinement

set_option autoImplicit false

namespace RecordRules

variable {n : Nat} {S : Schema n}

-- Two values that differ at most in fields that are not exported, at any depth.
inductive Value.Alike (S : Schema n) : Value n → Value n → Prop where
  | same (value : Value n) : Alike S value value
  | record {type : Fin n} {fields others : List (Value n)}
      (exported : ∀ index field, (S type).fields[index]? = some field → field.exported = true →
        Alike S ((⟨type, fields⟩ : Instance n).field index) ((⟨type, others⟩ : Instance n).field index)) :
      Alike S (.record type fields) (.record type others)

structure Instance.Alike (S : Schema n) (record other : Instance n) : Prop where
  type : other.type = record.type
  exported : ∀ index field, (S record.type).fields[index]? = some field → field.exported = true →
    (record.field index).Alike S (other.field index)

-- The fields that are not exported and hold different values, by their paths through exported fields.
inductive Instance.DiffersAt (S : Schema n) : Instance n → Instance n → String → Prop where
  | here {record other : Instance n} {index : Nat} {field : FieldDef n}
      (declared : (S record.type).fields[index]? = some field) (unexported : field.exported = false)
      (different : record.field index ≠ other.field index) : DiffersAt S record other field.name
  | within {record other inner otherInner : Instance n} {index : Nat} {field : FieldDef n} {path : String}
      (declared : (S record.type).fields[index]? = some field) (exported : field.exported = true)
      (holds : record.field index = .record inner.type inner.fields)
      (otherHolds : other.field index = .record otherInner.type otherInner.fields)
      (below : DiffersAt S inner otherInner path) :
      DiffersAt S record other (field.name ++ "." ++ path)

theorem alike_empty {value other : Value n} (alike : value.Alike S other) : value.isEmpty = other.isEmpty := by
  cases alike <;> rfl

theorem alike_form {value other : Value n} (alike : value.Alike S other) : value.form? = other.form? := by
  cases alike <;> rfl

theorem alike_check {value other : Value n} (alike : value.Alike S other) (check : Check n)
    (blind : check.Blind) : check value = check other := by
  cases alike with
  | same => rfl
  | record exported => exact blind _ _ _

theorem alike_compare {left otherLeft right otherRight : Value n} (op : Comparison)
    (lefts : left.Alike S otherLeft) (rights : right.Alike S otherRight) :
    Value.compare op left right = Value.compare op otherLeft otherRight := by
  have onLeft (type : Fin n) (fields others : List (Value n)) (value : Value n) :
      Value.compare op (.record type fields) value = Value.compare op (.record type others) value := by
    cases value <;> rfl
  have onRight (type : Fin n) (fields others : List (Value n)) (value : Value n) :
      Value.compare op value (.record type fields) = Value.compare op value (.record type others) := by
    cases value <;> rfl
  cases lefts with
  | same => cases rights with
    | same => rfl
    | record => exact onRight _ _ _ _
  | record => cases rights with
    | same => exact onLeft _ _ _ _
    | record => exact (onLeft _ _ _ _).trans (onRight _ _ _ _)

namespace FieldPath

inductive Open (S : Schema n) : Fin n → List (Step n) → Prop where
  | last {current : Fin n} {step : Step n} {field : FieldDef n}
      (declared : (S current).fields[step.index]? = some field) (exported : field.exported = true) :
      Open S current [step]
  | on {current inner : Fin n} {step next : Step n} {rest : List (Step n)} {field : FieldDef n}
      (declared : (S current).fields[step.index]? = some field) (exported : field.exported = true)
      (record : field.type.record? = some inner) (more : Open S inner (next :: rest)) :
      Open S current (step :: next :: rest)

theorem resolve_steps_open (S : Schema n) (text : String) (segments : List String) (current : Fin n)
    (passed : List String) (steps : List (Step n)) (someSegment : segments ≠ [])
    (resolved : resolveSteps S text current passed segments = .ok steps) : Open S current steps := by
  induction segments generalizing current passed steps with
  | nil => exact absurd rfl someSegment
  | cons segment rest ih =>
      obtain ⟨index, field, found, exported, ends⟩ :=
        resolve_steps_cons S text segment rest current passed steps resolved
      have declared := (field_of_name _ _ _ _ found).1
      cases rest with
      | nil => exact ends ▸ .last declared exported
      | cons next others =>
          obtain ⟨inner, more, type, made, same⟩ := ends
          have innerOpen := ih inner _ more (List.cons_ne_nil _ _) made
          subst same
          cases innerOpen with
          | last innerDeclared innerExported =>
              exact .on declared exported type (.last innerDeclared innerExported)
          | on innerDeclared innerExported record more =>
              exact .on declared exported type (.on innerDeclared innerExported record more)

theorem resolve_open (S : Schema n) (root : Fin n) (text : String) (path : FieldPath n)
    (resolved : resolve S root text = .ok path) : Open S root path.steps := by
  rw [resolve] at resolved
  obtain ⟨steps, made, rfl⟩ := ok_of_map resolved
  exact resolve_steps_open S text _ root [] steps (segments_ne_nil text) made

end FieldPath

inductive SameReading (S : Schema n) : Except ReadError (Value n) → Except ReadError (Value n) → Prop where
  | value {value other : Value n} (alike : value.Alike S other) : SameReading S (.ok value) (.ok other)
  | error (error : ReadError) : SameReading S (.error error) (.error error)

theorem same_reading (read : Except ReadError (Value n)) : SameReading S read read := by
  cases read with
  | error error => exact .error error
  | ok value => exact .value (.same value)

theorem open_reads (text : String) {current : Fin n} {steps : List (Step n)}
    (isOpen : FieldPath.Open S current steps) (record other : Instance n) (type : record.type = current)
    (fit : record.fits S) (alike : record.Alike S other) (passed : List String) :
    SameReading S (FieldPath.readSteps text record passed steps) (FieldPath.readSteps text other passed steps) := by
  induction isOpen generalizing record other passed with
  | last declared exported =>
      subst type
      exact .value (alike.exported _ _ declared exported)
  | @on current inner step next rest field declared exported nested more ih =>
      subst type
      have fieldFits := fits_field S record fit _ field declared
      have values := alike.exported _ field declared exported
      generalize otherLink : other.field step.index = otherValue at values
      rcases fits_link S field.type inner nested _ fieldFits with unset | ⟨fields, set, innerFits⟩
      · rw [unset] at values
        cases values
        simp only [FieldPath.readSteps, unset, otherLink]
        exact .error _
      · rw [set] at values
        cases values with
        | same =>
            simp only [FieldPath.readSteps, set, otherLink]
            exact same_reading _
        | @record _ _ others exported =>
            simp only [FieldPath.readSteps, set, otherLink]
            exact ih ⟨inner, fields⟩ ⟨inner, others⟩ rfl innerFits ⟨rfl, exported⟩ _

section TwoRecords

variable {record other : Instance n} (fit : record.fits S) (alike : record.Alike S other)
include fit alike

theorem target_reads (text : String) (target : FieldPath n)
    (resolved : FieldPath.resolve S record.type text = .ok target) :
    SameReading S (target.read S record) (target.read S other) := by
  have root := (FieldPath.resolve_ok S _ _ _ resolved).2.1
  rw [FieldPath.read, FieldPath.read, if_pos root.symm, if_pos (alike.type.trans root.symm)]
  exact open_reads _ (FieldPath.resolve_open S _ text target resolved) record other rfl fit alike []

theorem target_set (text : String) (target : FieldPath n)
    (resolved : FieldPath.resolve S record.type text = .ok target) :
    target.isSet S record = target.isSet S other := by
  rw [FieldPath.isSet, FieldPath.isSet]
  have reads := target_reads fit alike text target resolved
  generalize target.read S record = first at reads ⊢
  generalize target.read S other = second at reads ⊢
  cases reads with
  | value values => exact congrArg (!·) (alike_empty values)
  | error error => rfl

theorem targets_set_alike (texts : List String) (targets : List (FieldPath n))
    (resolved : List.Forall₂ (fun text target => FieldPath.resolve S record.type text = .ok target) texts
      targets) : targets.map (FieldPath.isSet S record) = targets.map (FieldPath.isSet S other) := by
  induction resolved with
  | nil => rfl
  | cons first _ ih => exact congrArg₂ List.cons (target_set fit alike _ _ first) ih

theorem condition_alike (pair : Pair) (condition : Condition n)
    (reads : CrossRule.Reads S record.type pair condition) :
    condition.holds S record = condition.holds S other := by
  rw [Condition.holds, Condition.holds]
  have same := target_reads fit alike _ _ reads.1
  generalize condition.target.read S record = first at same ⊢
  generalize condition.target.read S other = second at same ⊢
  cases same with
  | value values => simp only [alike_form values]
  | error error => rfl

theorem conditions_alike (pairs : List Pair) (conditions : List (Condition n))
    (reads : List.Forall₂ (CrossRule.Reads S record.type) pairs conditions) :
    conditions.map (Condition.holds S record) = conditions.map (Condition.holds S other) := by
  induction reads with
  | nil => rfl
  | cons first _ ih => exact congrArg₂ List.cons (condition_alike fit alike _ _ first) ih

variable {catalog : Catalog n} {anchor : FieldPath n} {value otherValue : Value n}
  (root : anchor.root = record.type) (blind : catalog.Blind) (values : value.Alike S otherValue)
include values root

theorem relational_alike (op : Comparison) (text : String) (target : FieldPath n)
    (resolved : FieldPath.resolve S anchor.root text = .ok target) :
    CrossRule.relationalViolation? S record value op target =
      CrossRule.relationalViolation? S other otherValue op target := by
  rw [CrossRule.relationalViolation?, CrossRule.relationalViolation?]
  have reads := target_reads fit alike text target (root ▸ resolved)
  generalize target.read S record = first at reads ⊢
  generalize target.read S other = second at reads ⊢
  cases reads with
  | value targets => simp only [alike_compare op values targets]
  | error error => rfl

include blind in
theorem clause_alike (clause : Clause) (constraint : Constraint n)
    (made : Constraint.ofClause S catalog anchor clause = .ok constraint) :
    constraint.violation? S record value = constraint.violation? S other otherValue := by
  cases clause with
  | leaf name param =>
      obtain ⟨check, built, rfl⟩ := Constraint.of_leaf_ok made
      have same := alike_check values check (built_blind catalog blind name param check built)
      simp only [Constraint.violation?, LeafRule.violation?, same]
  | relational op text =>
      obtain ⟨rule, read, rfl⟩ := ok_of_map made
      obtain ⟨target, rfl, resolved, _⟩ := CrossRule.relational_of_ok read
      exact relational_alike fit alike root values op text target resolved
  | presence kind texts =>
      obtain ⟨rule, read, rfl⟩ := ok_of_map made
      obtain ⟨targets, rfl, resolved⟩ := CrossRule.presence_of_ok read
      have set := targets_set_alike fit alike texts targets (root ▸ resolved)
      simp only [Constraint.violation?, CrossRule.violation?, set, alike_empty values]
  | conditional kind pairs =>
      obtain ⟨rule, read, rfl⟩ := ok_of_map made
      obtain ⟨conditions, rfl, reads⟩ := CrossRule.conditional_of_ok read
      have hold := conditions_alike fit alike pairs conditions (root ▸ reads)
      simp only [Constraint.violation?, CrossRule.violation?, hold, alike_empty values]

include blind in
theorem branches_alike (clauses : List Clause) (branches : List (Constraint n))
    (made : List.Forall₂ (fun clause branch => Constraint.ofClause S catalog anchor clause = .ok branch)
      clauses branches) :
    Constraint.violations? S record value branches = Constraint.violations? S other otherValue branches := by
  induction made with
  | nil => rfl
  | cons first _ ih =>
      rw [Constraint.violations?, Constraint.violations?, ih,
        clause_alike fit alike root blind values _ _ first]

variable {book : Rulebook n} (bookBlind : book.catalog.Blind)
include bookBlind

theorem stage_alike (rule : Rule) (stage : Stage n) (made : book.stage S anchor rule = .ok stage) :
    stage.violation? S record value = stage.violation? S other otherValue ∧
      stage.admits S record value = stage.admits S other otherValue := by
  have read := Rulebook.stage_ok made
  cases rule with
  | skip => exact read.elim
  | omitEmpty =>
      have same : stage = .gate .omitEmpty := read
      rw [same]
      exact ⟨rfl, congrArg (!·) (alike_empty values)⟩
  | skipUnless pairs =>
      obtain ⟨conditions, rfl, reads⟩ := read
      have hold := conditions_alike fit alike pairs conditions (root ▸ reads)
      exact ⟨rfl, all_of_map hold⟩
  | clause clause =>
      obtain ⟨constraint, rfl, clauseMade⟩ := read
      exact ⟨clause_alike fit alike root bookBlind values clause constraint clauseMade, rfl⟩
  | anyOf clauses =>
      obtain ⟨branches, rfl, branchesMade⟩ := read
      refine ⟨?_, rfl⟩
      rw [Stage.violation?, Stage.violation?, Constraint.violation?, Constraint.violation?,
        branches_alike fit alike root bookBlind values clauses branches branchesMade, alike_empty values]

theorem stages_alike (rules : List Rule) (stages : List (Stage n))
    (made : List.Forall₂ (fun rule stage => book.stage S anchor rule = .ok stage) rules stages) :
    (Stage.admitted S record value stages).filterMap (Constraint.violation? S record value) =
      (Stage.admitted S other otherValue stages).filterMap (Constraint.violation? S other otherValue) := by
  induction made with
  | nil => rfl
  | cons first _ ih =>
      obtain ⟨told, admits⟩ := stage_alike fit alike root values bookBlind _ _ first
      rw [admitted_cons, admitted_cons, told, admits, ih]

theorem own_report_alike {Link : Type} (rules : String) (stages : List (Stage n)) (nested : Option Link)
    (read : book.stages? S anchor rules = .ok (some stages)) :
    FieldPlan.ownReport S record value ⟨anchor, stages, nested⟩ =
      FieldPlan.ownReport S other otherValue ⟨anchor, stages, nested⟩ := by
  obtain ⟨parsed, _, skipped | ⟨_, own, same, made⟩⟩ := Rulebook.stages_ok read
  · cases skipped.2
  · obtain rfl := Option.some.inj same
    exact congrArg (List.map (·.withField anchor.text))
      (stages_alike fit alike root values bookBlind parsed stages made)

end TwoRecords

-- Once the violations that are reported on the hidden fields are left out, the reports are the same, and
-- so they are where still more is left out.
def Report.AgreeApart (hidden : String → Prop) (first second : Report) : Prop :=
  ∀ keep : Violation → Bool,
    (∀ violation path, violation.field = some path → hidden path → keep violation = false) →
      first.filter keep = second.filter keep

namespace Report

open Classical in
noncomputable def without (hidden : String → Prop) (report : Report) : Report :=
  report.filter fun violation => ¬∃ path, violation.field = some path ∧ hidden path

theorem agree_without {hidden : String → Prop} {first second : Report} (agree : AgreeApart hidden first second) :
    first.without hidden = second.without hidden := by
  refine agree _ fun violation path reported hides => ?_
  rw [decide_eq_false_iff_not, not_not]
  exact ⟨path, reported, hides⟩

theorem agree_same (hidden : String → Prop) (report : Report) : AgreeApart hidden report report :=
  fun _ _ => rfl

theorem agree_append {hidden : String → Prop} {first second third fourth : Report}
    (agree : AgreeApart hidden first second) (later : AgreeApart hidden third fourth) :
    AgreeApart hidden (first ++ third) (second ++ fourth) := by
  intro keep leavesOut
  rw [List.filter_append, List.filter_append, agree keep leavesOut, later keep leavesOut]

theorem agree_flat_map {α : Type} {hidden : String → Prop} (items : List α) (say tell : α → Report)
    (each : ∀ item ∈ items, AgreeApart hidden (say item) (tell item)) :
    AgreeApart hidden (items.flatMap say) (items.flatMap tell) := by
  induction items with
  | nil => exact agree_same hidden []
  | cons item rest ih =>
      obtain ⟨first, later⟩ := List.forall_mem_cons.mp each
      exact agree_append first (ih later)

theorem agree_under {hidden inner : String → Prop} (outer : String)
    (moved : ∀ path, inner path → hidden (outer ++ "." ++ path)) {first second : Report}
    (agree : AgreeApart inner first second) :
    AgreeApart hidden (first.map (·.under outer)) (second.map (·.under outer)) := by
  intro keep leavesOut
  rw [List.filter_map, List.filter_map]
  refine congrArg _ (agree _ fun violation path reported hides => ?_)
  have placed : (violation.under outer).field = some (outer ++ "." ++ path) := by
    simp only [Violation.under, Violation.withField, reported]
  exact leavesOut _ _ placed (moved path hides)

theorem agree_hidden {hidden : String → Prop} (name : String) (hides : hidden name) (first second : Report) :
    AgreeApart hidden (first.map (·.withField name)) (second.map (·.withField name)) := by
  intro keep leavesOut
  have nothing (report : Report) : (report.map (·.withField name)).filter keep = [] := by
    refine List.filter_eq_nil_iff.mpr fun violation member => ?_
    obtain ⟨own, _, rfl⟩ := List.mem_map.mp member
    simpa using leavesOut (own.withField name) name rfl hides
  rw [nothing, nothing]

end Report

namespace Rulebook

variable {book : Rulebook n} (blind : book.catalog.Blind)

def blueprintReport (book : Rulebook n) (S : Schema n) (record : Instance n) : Report :=
  (book.blueprint S record.type).report S (fun id => some (book.blueprint S id)) record

def linkReport (book : Rulebook n) (S : Schema n) (name : String) (nested : Option (Fin n))
    (value : Value n) : Report :=
  match value.record?, nested.bind fun id => some (book.blueprint S id) with
  | some inner, some plan =>
      (plan.report S (fun id => some (book.blueprint S id)) inner).map (·.under name)
  | _, _ => []

theorem field_report (part : FieldPlan n (Fin n)) (record : Instance n) (value : Value n)
    (read : part.anchor.read S record = .ok value) :
    part.report S (fun id => some (book.blueprint S id)) record =
      part.ownReport S record value ++ book.linkReport S part.anchor.text part.nested value := by
  simp only [FieldPlan.report, read, linkReport]
  cases value.record? <;> cases part.nested.bind fun id => some (book.blueprint S id) <;> rfl

theorem link_report_none (book : Rulebook n) (S : Schema n) (name : String) (value : Value n) :
    book.linkReport S name none value = [] := by
  rw [linkReport]
  cases value.record? <;> rfl

include blind in
theorem check_discreet (record other : Instance n) (fit : record.fits S) (alike : record.Alike S other)
    (part : FieldPlan n (Fin n)) (drawn : book.OfCheck S record.type part)
    (draw : Fin n → Option (Plan n (Fin n))) : part.report S draw record = part.report S draw other := by
  obtain ⟨check, _, made⟩ := drawn
  obtain ⟨anchor, stages?, resolved, read, same⟩ := check_plan_ok made
  obtain ⟨stages, rfl, rfl⟩ := Option.map_eq_some_iff.mp same.symm
  have root := (FieldPath.resolve_ok S _ _ _ resolved).2.1
  have reads := target_reads fit alike _ _ resolved
  rw [FieldPlan.report, FieldPlan.report]
  generalize anchor.read S record = first at reads ⊢
  generalize anchor.read S other = second at reads ⊢
  cases reads with
  | error error => rfl
  | @value value otherValue values =>
      dsimp only
      rw [own_report_alike fit alike root values blind check.rules stages none read]
      cases value.record? <;> cases otherValue.record? <;> rfl

-- The induction hypothesis is about the records below the two records.
theorem link_discreet (record other : Instance n) (fit : record.fits S) (alike : record.Alike S other)
    (index : Nat) (field : FieldDef n) (declared : (S record.type).fields[index]? = some field) (type : Fin n)
    (nested : book.nested? field = some type)
    (below : ∀ inner otherInner : Instance n, sizeOf inner < sizeOf record → inner.fits S →
      inner.Alike S otherInner → Report.AgreeApart (inner.DiffersAt S otherInner)
        (book.blueprintReport S inner) (book.blueprintReport S otherInner)) :
    Report.AgreeApart (record.DiffersAt S other) (book.linkReport S field.name (some type) (record.field index))
      (book.linkReport S field.name (some type) (other.field index)) := by
  obtain ⟨_, exported, recordType⟩ := (nested_eq_some field type).mp nested
  have values := alike.exported index field declared exported
  generalize otherHolds : other.field index = otherValue at values
  rcases fits_link S field.type type recordType _ (fits_field S record fit index field declared) with
    unset | ⟨fields, holds, innerFits⟩
  · rw [unset] at values ⊢
    cases values
    exact Report.agree_same _ _
  · rw [holds] at values ⊢
    cases values with
    | same => exact Report.agree_same _ _
    | @record _ _ others innerExported =>
        have agree := below ⟨type, fields⟩ ⟨type, others⟩ (record.size_field index holds) innerFits
          ⟨rfl, innerExported⟩
        exact Report.agree_under field.name
          (fun path differs => .within declared exported holds otherHolds differs) agree

include blind in
theorem field_discreet (record other : Instance n) (fit : record.fits S) (alike : record.Alike S other)
    (part : FieldPlan n (Fin n)) (drawn : book.OfField S record.type part)
    (below : ∀ inner otherInner : Instance n, sizeOf inner < sizeOf record → inner.fits S →
      inner.Alike S otherInner → Report.AgreeApart (inner.DiffersAt S otherInner)
        (book.blueprintReport S inner) (book.blueprintReport S otherInner)) :
    Report.AgreeApart (record.DiffersAt S other)
      (part.report S (fun id => some (book.blueprint S id)) record)
      (part.report S (fun id => some (book.blueprint S id)) other) := by
  obtain ⟨index, field, stages, declared, read, rfl⟩ := drawn
  have read := field_stages_ok read
  have otherReads := FieldPath.read_declared S other index field
  rw [alike.type] at otherReads
  rw [field_report _ record _ (FieldPath.read_declared S record index field), field_report _ other _ otherReads]
  have ownSame (values : (record.field index).Alike S (other.field index)) :=
    own_report_alike fit alike rfl values blind field.rules stages (book.nested? field) read
  dsimp only [FieldPath.declared] at ownSame ⊢
  by_cases exported : field.exported
  · rw [ownSame (alike.exported index field declared exported)]
    refine Report.agree_append (Report.agree_same _ _) ?_
    cases nested : book.nested? field with
    | none =>
        rw [link_report_none, link_report_none]
        exact Report.agree_same _ _
    | some type => exact link_discreet record other fit alike index field declared type nested below
  · have noLink : book.nested? field = none := by
      rw [nested?, if_neg (by simp [exported])]
    rw [noLink, link_report_none, link_report_none, List.append_nil, List.append_nil]
    -- The field is seen by its own rules only, and these report on it.
    by_cases same : record.field index = other.field index
    · rw [noLink] at ownSame
      rw [ownSame (same ▸ .same _)]
      exact Report.agree_same _ _
    · exact Report.agree_hidden field.name (.here declared (by simpa using exported) same) _ _

include blind in
theorem blueprint_discreet (record other : Instance n) (fit : record.fits S) (alike : record.Alike S other) :
    Report.AgreeApart (record.DiffersAt S other) (book.blueprintReport S record)
      (book.blueprintReport S other) := by
  induction size : sizeOf record using Nat.strongRecOn generalizing record other with
  | _ limit ih =>
      rw [blueprintReport, blueprintReport, alike.type, Plan.report_parts, Plan.report_parts]
      refine Report.agree_flat_map _ _ _ fun part member => ?_
      rcases mem_blueprint record.type part member with field | check
      · exact field_discreet blind record other fit alike part field
          fun inner otherInner smaller innerFits innerAlike =>
            ih _ (size ▸ smaller) inner otherInner innerFits innerAlike rfl
      · rw [check_discreet blind record other fit alike part check]
        exact Report.agree_same _ _

end Rulebook

open Rulebook

namespace Validator

theorem unexported_fields_hidden (book : Rulebook n) (S : Schema n) (calls more others : List (Fin n))
    (id : Fin n) (plan : Plan n Slot) (next : Validator n)
    (compiled : ((ofRulebook book).after S calls).compile S id = (.ok plan, next))
    (blind : book.catalog.Blind) (record other : Instance n) (type : record.type = id) (fit : record.fits S)
    (alike : record.Alike S other) :
    (Catalog.standard : Catalog n).Blind ∧
      ((next.after S more).report S plan record).without (record.DiffersAt S other) =
        ((next.after S others).report S plan other).without (record.DiffersAt S other) := by
  obtain ⟨rfl, ready, there⟩ := compiled_ready compiled
  subst type
  have discreet := blueprint_discreet blind record other fit alike
  rw [blueprintReport, blueprintReport, alike.type] at discreet
  rw [published_report next ready record.type plan there more record,
    published_report next ready record.type plan there others other]
  exact ⟨Catalog.standard_blind, Report.agree_without discreet⟩

def accounts : Schema 1 := fun id =>
  { name := "Account"
    fields := [⟨"name", .str, "required_with=owner", true⟩, ⟨"secret", .int, "gt=3", false⟩,
      ⟨"owner", .optional (.record id), "", true⟩]
    checks := [⟨"owner.name", "nefield=name"⟩] }

def owned (secret : Int64) : List (Value 1) := [.str "", .int secret, .nil]

def account (secret ownerSecret : Int64) : Instance 1 :=
  ⟨0, [.str "", .int secret, .record 0 (owned ownerSecret)]⟩

theorem account_alike (secret ownerSecret other otherOwner : Int64) :
    (account secret ownerSecret).Alike accounts (account other otherOwner) := by
  have owners : Value.Alike accounts (.record 0 (owned ownerSecret)) (.record 0 (owned otherOwner)) := by
    refine .record fun index field declared exported => ?_
    match index with
    | 0 | 2 => exact .same _
    | 1 =>
        obtain rfl := Option.some.inj declared
        cases exported
    | _ + 3 => cases declared
  refine ⟨rfl, fun index field declared exported => ?_⟩
  match index with
  | 0 => exact .same _
  | 1 =>
      obtain rfl := Option.some.inj declared
      cases exported
  | 2 => exact owners
  | _ + 3 => cases declared

theorem secrets_hidden :
    ∃ plan next, ((ofRulebook .standard).after accounts []).compile accounts 0 = (.ok plan, next) ∧
      (Rulebook.standard : Rulebook 1).catalog.Blind ∧ (account 1 5).fits accounts ∧
      (account 1 5).Alike accounts (account 7 2) ∧
      (next.report accounts plan (account 1 5)).without ((account 1 5).DiffersAt accounts (account 7 2)) =
        (next.report accounts plan (account 7 2)).without
          ((account 1 5).DiffersAt accounts (account 7 2)) := by
  have made : (((ofRulebook .standard).after accounts []).compile accounts 0).1.isOk := by cbv
  have blind : (Rulebook.standard : Rulebook 1).catalog.Blind := Catalog.standard_blind
  have fit : (account 1 5).fits accounts := by decide
  have alike := account_alike 1 5 7 2
  cases compiled : ((ofRulebook .standard).after accounts []).compile accounts 0 with
  | mk outcome next =>
      rw [compiled] at made
      cases outcome with
      | error error => cases made
      | ok plan =>
          exact ⟨plan, next, rfl, blind, fit, alike,
            (unexported_fields_hidden .standard accounts [] [] [] 0 plan next compiled blind _ _ rfl fit
              alike).2⟩

end Validator

end RecordRules
