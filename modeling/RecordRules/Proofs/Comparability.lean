import Mathlib
import RecordRules.Proofs.Cache
import RecordRules.Proofs.Stages
import RecordRules.Proofs.Walk

set_option autoImplicit false

namespace RecordRules

variable {n : Nat} {S : Schema n}

inductive Constraint.Uses : Constraint n → CrossRule n → Prop where
  | alone (rule : CrossRule n) : Uses (.cross rule) rule
  | branch {branches : List (Constraint n)} {branch : Constraint n} {rule : CrossRule n}
      (member : branch ∈ branches) (uses : Uses branch rule) : Uses (.anyOf branches) rule

inductive CrossRule.MadeAt (S : Schema n) (anchor : FieldPath n) (rule : CrossRule n) : Prop where
  | relational {op : Comparison} {text : String} (made : relationalOf S anchor op text = .ok rule)
  | presence {kind : Presence} {texts : List String} (made : presenceOf S anchor kind texts = .ok rule)
  | conditional {kind : Conditional} {pairs : List Pair} (made : conditionalOf S anchor kind pairs = .ok rule)

section MadeAt

variable {book : Rulebook n} {anchor : FieldPath n} {constraint : Constraint n} {rule : CrossRule n}

theorem clause_uses {catalog : Catalog n} {clause : Clause}
    (made : Constraint.ofClause S catalog anchor clause = .ok constraint) (uses : constraint.Uses rule) :
    rule.MadeAt S anchor := by
  cases clause with
  | leaf name param =>
      obtain ⟨check, _, rfl⟩ := Constraint.of_leaf_ok made
      cases uses
  | relational op text =>
      obtain ⟨own, read, rfl⟩ := ok_of_map made
      cases uses
      exact .relational read
  | presence kind texts =>
      obtain ⟨own, read, rfl⟩ := ok_of_map made
      cases uses
      exact .presence read
  | conditional kind pairs =>
      obtain ⟨own, read, rfl⟩ := ok_of_map made
      cases uses
      exact .conditional read

theorem stage_uses {source : Rule} (made : book.stage S anchor source = .ok (.test constraint))
    (uses : constraint.Uses rule) : rule.MadeAt S anchor := by
  have read := Rulebook.stage_ok made
  cases source with
  | skip => exact read.elim
  | omitEmpty => cases read
  | skipUnless pairs =>
      obtain ⟨conditions, same, _⟩ := read
      cases same
  | clause clause =>
      obtain ⟨own, same, clauseRead⟩ := read
      cases same
      exact clause_uses clauseRead uses
  | anyOf clauses =>
      obtain ⟨branches, same, branchesRead⟩ := read
      cases same
      cases uses with
      | branch member branchUses =>
          obtain ⟨clause, _, clauseRead⟩ := pointwise_mem branchesRead _ member
          exact clause_uses clauseRead branchUses

theorem stages_uses {rules : String} {stages : List (Stage n)}
    (made : book.stages? S anchor rules = .ok (some stages))
    (member : constraint ∈ stages.filterMap Stage.constraint?) (uses : constraint.Uses rule) :
    rule.MadeAt S anchor := by
  obtain ⟨parsed, _, skipped | ⟨_, own, same, read⟩⟩ := Rulebook.stages_ok made
  · cases skipped.2
  · obtain rfl := Option.some.inj same
    obtain ⟨stage, there, tested⟩ := List.mem_filterMap.mp member
    cases stage with
    | gate gate => cases tested
    | test own =>
        obtain rfl := Option.some.inj tested
        obtain ⟨source, _, sourceRead⟩ := pointwise_mem read _ there
        exact stage_uses sourceRead uses

end MadeAt

def ComparedAt (S : Schema n) (anchor : FieldPath n) (op : Comparison) (target : FieldPath n) : Prop :=
  target.root = anchor.root ∧ ∃ left right, FieldPath.Leads S anchor.root anchor.steps left ∧
    FieldPath.Leads S anchor.root target.steps right ∧ op.admits left.kind right.kind

theorem made_compared {anchor target : FieldPath n} {op : Comparison} {left : FieldType n}
    (leads : FieldPath.Leads S anchor.root anchor.steps left)
    (made : (CrossRule.relational op target).MadeAt S anchor) : ComparedAt S anchor op target := by
  cases made with
  | relational made =>
      obtain ⟨found, same, resolved, admitted⟩ := CrossRule.relational_of_ok made
      cases same
      obtain ⟨_, root, resolves⟩ := FieldPath.resolve_ok S anchor.root _ target resolved
      obtain ⟨right, targetLeads⟩ := FieldPath.resolves_leads resolves
      exact ⟨root, left, right, leads, targetLeads,
        admitted left right (FieldPath.leads_target leads) (FieldPath.leads_target targetLeads)⟩
  | presence made =>
      obtain ⟨_, same, _⟩ := CrossRule.presence_of_ok made
      cases same
  | conditional made =>
      obtain ⟨_, same, _⟩ := CrossRule.conditional_of_ok made
      cases same

theorem blueprint_compared {book : Rulebook n} (id : Fin n) (part : FieldPlan n (Fin n))
    (member : part ∈ (book.blueprint S id).parts) :
    part.anchor.root = id ∧ (∃ left, FieldPath.Leads S id part.anchor.steps left) ∧
      ∀ constraint ∈ part.constraints, ∀ op target, constraint.Uses (.relational op target) →
        ComparedAt S part.anchor op target := by
  rcases Rulebook.mem_blueprint id part member with field | check
  · obtain ⟨index, field, stages, there, read, rfl⟩ := field
    have leads := FieldPath.declared_leads S id index field there
    exact ⟨rfl, ⟨_, leads⟩, fun constraint listed op target uses =>
      made_compared leads (stages_uses (Rulebook.field_stages_ok read) listed uses)⟩
  · obtain ⟨check, _, made⟩ := check
    obtain ⟨anchor, stages?, resolved, read, same⟩ := Rulebook.check_plan_ok made
    obtain ⟨_, root, resolves⟩ := FieldPath.resolve_ok S id check.anchor anchor resolved
    obtain ⟨left, leads⟩ := FieldPath.resolves_leads resolves
    subst root
    cases stages? with
    | none => cases same
    | some stages =>
        obtain rfl := Option.some.inj same
        exact ⟨rfl, ⟨left, leads⟩, fun constraint listed op target uses =>
          made_compared leads (stages_uses read listed uses)⟩

def FieldPath.Interrupted (path : FieldPath n) (record : Instance n) : Prop :=
  ∃ front back, path.steps = front ++ back ∧ front ≠ [] ∧ back ≠ [] ∧
    readSteps path.text record [] front = .ok .nil

theorem read_fitting (path : FieldPath n) {target : FieldType n}
    (leads : FieldPath.Leads S path.root path.steps target) (record : Instance n)
    (type : record.type = path.root) (fit : record.fits S) :
    (∃ value, path.read S record = .ok value ∧ value.fits S target) ∨
      path.Interrupted record ∧
        ∃ segments, path.read S record = .error (.nilLink path.text segments) := by
  rw [FieldPath.read, if_pos type]
  rcases FieldPath.read_leads S path.text leads record type fit [] with whole | stopped
  · exact .inl whole
  · obtain ⟨front, back, parts, someFront, someBack, unset, error⟩ := stopped
    exact .inr ⟨⟨front, back, parts, someFront, someBack, unset⟩, _, error⟩

structure ComparesSoundly (S : Schema n) (record : Instance n) (value : Value n) (op : Comparison)
    (target : FieldPath n) : Prop where
  unread : ∀ error, target.read S record = .error error →
    target.Interrupted record ∧ ∃ segments, error = .nilLink target.text segments
  uncompared : ∀ other error, target.read S record = .ok other →
    Value.compare op value other = .error error →
      value.isNil ≠ other.isNil ∧ ∃ kind, error = .nilOperand kind
  incomparable : ∀ violation, CrossRule.relationalViolation? S record value op target = some violation →
    violation.param? "cause" = some "incomparable" →
      ∃ other, target.read S record = .ok other ∧ value.isNil ≠ other.isNil
  nilInPath : ∀ violation, CrossRule.relationalViolation? S record value op target = some violation →
    violation.param? "cause" = some "nil_in_path" → target.Interrupted record

theorem cause_incomparable (rule : CrossRule n) (target : FieldPath n) (cause reason : String) :
    (rule.incomparable target cause reason).param? "cause" = some cause := rfl

theorem cause_unread (record : Instance n) (value : Value n) (op : Comparison) (target : FieldPath n)
    (segments : String) (read : target.read S record = .error (.nilLink target.text segments))
    (violation : Violation)
    (violated : CrossRule.relationalViolation? S record value op target = some violation) :
    violation.param? "cause" = some "nil_in_path" := by
  rw [CrossRule.relationalViolation?, read] at violated
  rw [← Option.some.inj violated]
  exact cause_incomparable _ _ _ _

theorem cause_read (record : Instance n) (value : Value n) (op : Comparison) (target : FieldPath n)
    (other : Value n) (read : target.read S record = .ok other) (violation : Violation)
    (violated : CrossRule.relationalViolation? S record value op target = some violation)
    (cause : String) (told : violation.param? "cause" = some cause) :
    cause = "incomparable" ∧ ∃ error, Value.compare op value other = .error error := by
  simp only [CrossRule.relationalViolation?, read] at violated
  cases compared : Value.compare op value other with
  | error error =>
      rw [compared] at violated
      rw [← Option.some.inj violated, cause_incomparable] at told
      exact ⟨(Option.some.inj told).symm, error, rfl⟩
  | ok outcome =>
      rw [compared] at violated
      cases outcome with
      | true => cases violated
      | false =>
          rw [← Option.some.inj violated] at told
          cases told

theorem one_nil_of_failed (op : Comparison) (left right : FieldType n)
    (admitted : op.admits left.kind right.kind) (value other : Value n) (valueFits : value.fits S left)
    (otherFits : other.fits S right) (error : CompareError)
    (failed : Value.compare op value other = .error error) :
    value.isNil ≠ other.isNil ∧ ∃ kind, error = .nilOperand kind := by
  rcases compare_fitting S op left right admitted value other valueFits otherFits error failed with
    ⟨noneLeft, someRight, same⟩ | ⟨someLeft, noneRight, same⟩
  · refine ⟨?_, _, same⟩
    rw [noneLeft]
    cases other with
    | nil => exact absurd rfl someRight
    | _ => simp [Value.isNil]
  · refine ⟨?_, _, same⟩
    rw [noneRight]
    cases value with
    | nil => exact absurd rfl someLeft
    | _ => simp [Value.isNil]

theorem compares_soundly (record : Instance n) (value : Value n) (op : Comparison) (target : FieldPath n)
    (left right : FieldType n) (valueFits : value.fits S left)
    (leads : FieldPath.Leads S target.root target.steps right) (type : record.type = target.root)
    (fit : record.fits S) (admitted : op.admits left.kind right.kind) :
    ComparesSoundly S record value op target := by
  rcases read_fitting target leads record type fit with ⟨other, read, otherFits⟩ | ⟨unset, segments, read⟩
  · have oneNil := one_nil_of_failed op left right admitted value other valueFits otherFits
    refine ⟨?_, ?_, ?_, ?_⟩
    · intro error failed
      cases read.symm.trans failed
    · intro another error reread failed
      obtain rfl := Except.ok.inj (read.symm.trans reread)
      exact oneNil error failed
    · intro violation violated told
      obtain ⟨_, error, failed⟩ := cause_read record value op target other read violation violated _ told
      exact ⟨other, read, (oneNil error failed).1⟩
    · intro violation violated told
      obtain ⟨same, _⟩ := cause_read record value op target other read violation violated _ told
      exact absurd same (by decide)
  · refine ⟨?_, ?_, ?_, fun _ _ _ => unset⟩
    · intro error failed
      exact ⟨unset, segments, (Except.error.inj (read.symm.trans failed)).symm⟩
    · intro other error reread failed
      cases read.symm.trans reread
    · intro violation violated told
      rw [cause_unread record value op target segments read violation violated] at told
      exact absurd (Option.some.inj told) (by decide)

-- The plans that a record is validated with, each with the record that it is applied to.
inductive Plan.Visits (S : Schema n) (follow : Slot → Option (Plan n Slot)) (plan : Plan n Slot)
    (record : Instance n) : Plan n Slot → Instance n → Prop where
  | here : Visits S follow plan record plan record
  | nested {outer inner : Plan n Slot} {within : Instance n} {part : FieldPlan n Slot} {slot : Slot}
      {type : Fin n} {fields : List (Value n)} (before : Visits S follow plan record outer within)
      (member : part ∈ outer.parts) (value : part.anchor.read S within = .ok (.record type fields))
      (link : part.nested = some slot) (filled : follow slot = some inner) :
      Visits S follow plan record inner ⟨type, fields⟩

open Rulebook

namespace Validator

theorem visits_fitting {book : Rulebook n} {shelf : Shelf n} (ready : Ready S book shelf)
    (plan inner : Plan n Slot) (record within : Instance n) (fit : record.fits S)
    (there : shelf.plan? record.type = some plan)
    (visited : plan.Visits S shelf.inSlot? record inner within) :
    shelf.plan? within.type = some inner ∧ within.fits S := by
  induction visited with
  | here => exact ⟨there, fit⟩
  | @nested outer next within part slot type fields before member value link filled ih =>
      obtain ⟨outerThere, withinFits⟩ := ih
      have recordType := (linked_of_plan ready.sound _ outer outerThere).1
      obtain ⟨index, field, nestedType, held, declared, anchor, nested, inSlot, _, published⟩ :=
        ready_fulfils ready outer (recordType.symm ▸ outerThere) part member slot link
      obtain rfl := Option.some.inj (inSlot.symm.trans filled)
      rw [recordType] at declared anchor
      rw [anchor, FieldPath.read_declared] at value
      have fieldFits := fits_field S within withinFits index field declared
      have reads : within.field index = .record type fields := Except.ok.inj value
      rw [reads, fits_record] at fieldFits
      obtain rfl := Option.some.inj (nested.symm.trans fieldFits.1)
      exact ⟨published, fieldFits.2⟩

theorem comparisons_sound (book : Rulebook n) (S : Schema n) (calls more : List (Fin n)) (id : Fin n)
    (plan : Plan n Slot) (next : Validator n)
    (compiled : ((ofRulebook book).after S calls).compile S id = (.ok plan, next))
    (record : Instance n) (type : record.type = id) (fit : record.fits S) (inner : Plan n Slot)
    (within : Instance n)
    (visited : plan.Visits S (next.after S more).shelf.inSlot? record inner within)
    (part : FieldPlan n Slot) (member : part ∈ inner.parts) :
    (∀ error, part.anchor.read S within = .error error →
      ∃ segments, error = .nilLink part.anchor.text segments) ∧
    ∀ value, part.anchor.read S within = .ok value →
      ∀ constraint ∈ part.constraints, ∀ op target, constraint.Uses (.relational op target) →
        ComparesSoundly S within value op target := by
  obtain ⟨rfl, ready, there⟩ := compiled_ready compiled
  have readyMore := (ready_after next more ready).2
  have stillThere := Shelf.kept_plan (kept_after next more ready) id plan there
  obtain ⟨published, withinFits⟩ :=
    visits_fitting readyMore plan inner record within fit (type ▸ stillThere) visited
  have linked := (linked_of_plan readyMore.sound _ inner published).2
  obtain ⟨drawn, listed, same⟩ := linked_part_of_mem linked part member
  have constraints : part.constraints = drawn.constraints := by
    rw [FieldPlan.constraints, FieldPlan.constraints, same.stages]
  obtain ⟨root, ⟨left, leads⟩, compared⟩ := blueprint_compared within.type drawn listed
  rw [same.anchor, constraints]
  rw [← root] at leads
  refine ⟨fun error failed => ?_, fun value read constraint listed op target uses => ?_⟩
  · rcases read_fitting drawn.anchor leads within root.symm withinFits with whole | stopped
    · obtain ⟨value, read, _⟩ := whole
      cases read.symm.trans failed
    · obtain ⟨_, segments, read⟩ := stopped
      exact ⟨segments, (Except.error.inj (read.symm.trans failed)).symm⟩
  · obtain ⟨targetRoot, ownLeft, right, ownLeads, targetLeads, admitted⟩ :=
      compared constraint listed op target uses
    rw [← targetRoot] at targetLeads
    rcases read_fitting drawn.anchor ownLeads within root.symm withinFits with whole | stopped
    · obtain ⟨ownValue, ownRead, valueFits⟩ := whole
      obtain rfl := Except.ok.inj (ownRead.symm.trans read)
      exact compares_soundly within ownValue op target ownLeft right valueFits targetLeads
        (root.symm.trans targetRoot.symm) withinFits admitted
    · obtain ⟨_, segments, unread⟩ := stopped
      cases unread.symm.trans read

def openEnd : FieldPlan 1 Slot :=
  { anchor := .declared spanId 1 ⟨"end", .optional .int, "gtfield=start", true⟩
    stages := [.test (.cross (.relational .gt ⟨"start", spanId, [⟨"start", 0, .int⟩]⟩))]
    nested := none }

theorem open_end_compared :
    ∃ plan next, ((ofRulebook .standard).after spans []).compile spans spanId = (.ok plan, next) ∧
      openSpan.fits spans ∧ openEnd ∈ plan.parts ∧
      ComparesSoundly spans openSpan .nil .gt ⟨"start", spanId, [⟨"start", 0, .int⟩]⟩ := by
  have made : (((ofRulebook .standard).after spans []).compile spans spanId).1.toOption.bind
      (·.parts.head?) = some openEnd := by cbv
  have fit : openSpan.fits spans := by decide
  cases compiled : ((ofRulebook .standard).after spans []).compile spans spanId with
  | mk outcome next =>
      rw [compiled] at made
      cases outcome with
      | error error => cases made
      | ok plan =>
          have member : openEnd ∈ plan.parts := List.mem_of_mem_head? made
          have sound := comparisons_sound .standard spans [] [] spanId plan next compiled openSpan rfl fit
            plan openSpan .here openEnd member
          exact ⟨plan, next, rfl, fit, member,
            sound.2 .nil rfl _ List.mem_cons_self .gt _ (.alone _)⟩

end Validator

end RecordRules
