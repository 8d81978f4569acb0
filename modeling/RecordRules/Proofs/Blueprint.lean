import RecordRules.Plan.Verdict
import RecordRules.Proofs.Growth
import RecordRules.Proofs.Stages

set_option autoImplicit false

namespace RecordRules

variable {n : Nat}

structure FieldPlan.Linked (leads : Slot → Fin n → Prop) (part : FieldPlan n Slot)
    (drawn : FieldPlan n (Fin n)) : Prop where
  anchor : part.anchor = drawn.anchor
  stages : part.stages = drawn.stages
  nested : Option.Rel leads part.nested drawn.nested

def LinkedEntry (leads : Slot → Fin n → Prop) (entry : String × FieldPlan n Slot)
    (drawn : String × FieldPlan n (Fin n)) : Prop :=
  entry.1 = drawn.1 ∧ entry.2.Linked leads drawn.2

structure Plan.Linked (leads : Slot → Fin n → Prop) (plan : Plan n Slot) (drawn : Plan n (Fin n)) :
    Prop where
  record : plan.record = drawn.record
  fields : List.Forall₂ (LinkedEntry leads) plan.fields drawn.fields
  checks : List.Forall₂ (FieldPlan.Linked leads) plan.checks drawn.checks

theorem option_rel_mono {leads other : Slot → Fin n → Prop} (weaker : ∀ slot id, leads slot id → other slot id)
    {link : Option Slot} {nested : Option (Fin n)} (linked : Option.Rel leads link nested) :
    Option.Rel other link nested := by
  cases linked with
  | some led => exact .some (weaker _ _ led)
  | none => exact .none

theorem option_rel_isNone {leads : Slot → Fin n → Prop} {link : Option Slot} {nested : Option (Fin n)}
    (linked : Option.Rel leads link nested) : link.isNone = nested.isNone := by
  cases linked <;> rfl

theorem option_rel_some {α β : Type} {leads : α → β → Prop} {link : Option α} {nested : β}
    (linked : Option.Rel leads link (some nested)) : ∃ led, link = some led ∧ leads led nested := by
  cases linked with
  | some leadsOn => exact ⟨_, rfl, leadsOn⟩

theorem linked_part_mono {leads other : Slot → Fin n → Prop}
    (weaker : ∀ slot id, leads slot id → other slot id) {part : FieldPlan n Slot}
    {drawn : FieldPlan n (Fin n)} (linked : part.Linked leads drawn) : part.Linked other drawn :=
  ⟨linked.anchor, linked.stages, option_rel_mono weaker linked.nested⟩

theorem linked_entries_mono {leads other : Slot → Fin n → Prop}
    (weaker : ∀ slot id, leads slot id → other slot id) {fields : List (String × FieldPlan n Slot)}
    {drawn : List (String × FieldPlan n (Fin n))}
    (linked : List.Forall₂ (LinkedEntry leads) fields drawn) :
    List.Forall₂ (LinkedEntry other) fields drawn :=
  linked.imp fun _ _ entry => ⟨entry.1, linked_part_mono weaker entry.2⟩

theorem linked_plan_mono {leads other : Slot → Fin n → Prop}
    (weaker : ∀ slot id, leads slot id → other slot id) {plan : Plan n Slot} {drawn : Plan n (Fin n)}
    (linked : plan.Linked leads drawn) : plan.Linked other drawn :=
  ⟨linked.record, linked_entries_mono weaker linked.fields,
    linked.checks.imp fun _ _ part => linked_part_mono weaker part⟩

theorem linked_put_field (leads : Slot → Fin n → Prop) (name : String) (part : FieldPlan n Slot)
    (drawnPart : FieldPlan n (Fin n)) (same : part.Linked leads drawnPart)
    {fields : List (String × FieldPlan n Slot)} {drawn : List (String × FieldPlan n (Fin n))}
    (linked : List.Forall₂ (LinkedEntry leads) fields drawn) :
    List.Forall₂ (LinkedEntry leads) (Plan.putField name part fields)
      (Plan.putField name drawnPart drawn) := by
  induction linked with
  | nil => exact .cons ⟨rfl, same⟩ .nil
  | @cons entry drawnEntry rest drawnRest first others ih =>
      obtain ⟨key, old⟩ := entry
      obtain ⟨drawnKey, drawnOld⟩ := drawnEntry
      obtain ⟨keys, parts⟩ := first
      dsimp only at keys parts
      subst keys
      rw [Plan.putField, Plan.putField]
      by_cases found : name = key
      · rw [if_pos found, if_pos found]
        exact .cons ⟨rfl, same⟩ others
      · rw [if_neg found, if_neg found]
        exact .cons ⟨rfl, parts⟩ ih

theorem linked_add_field (leads : Slot → Fin n → Prop) (name : String) (part : FieldPlan n Slot)
    (drawnPart : FieldPlan n (Fin n)) (same : part.Linked leads drawnPart)
    {fields : List (String × FieldPlan n Slot)} {drawn : List (String × FieldPlan n (Fin n))}
    (linked : List.Forall₂ (LinkedEntry leads) fields drawn) :
    List.Forall₂ (LinkedEntry leads) (Plan.addField name part fields)
      (Plan.addField name drawnPart drawn) := by
  rw [Plan.addField, Plan.addField, same.stages, option_rel_isNone same.nested]
  split
  · exact linked
  · exact linked_put_field leads name part drawnPart same linked

theorem linked_parts {leads : Slot → Fin n → Prop} {plan : Plan n Slot} {drawn : Plan n (Fin n)}
    (linked : plan.Linked leads drawn) :
    List.Forall₂ (FieldPlan.Linked leads) plan.parts drawn.parts := by
  refine List.rel_append ?_ linked.checks
  exact List.rel_map (fun _ _ entry => entry.2) linked.fields

theorem linked_part_of_mem {leads : Slot → Fin n → Prop} {plan : Plan n Slot} {drawn : Plan n (Fin n)}
    (linked : plan.Linked leads drawn) (part : FieldPlan n Slot) (member : part ∈ plan.parts) :
    ∃ drawnPart ∈ drawn.parts, part.Linked leads drawnPart :=
  pointwise_mem (linked_parts linked).flip part member

theorem own_report_linked {leads : Slot → Fin n → Prop} (S : Schema n) (record : Instance n)
    (value : Value n) {part : FieldPlan n Slot} {drawn : FieldPlan n (Fin n)}
    (linked : part.Linked leads drawn) :
    part.ownReport S record value = drawn.ownReport S record value := by
  rw [FieldPlan.ownReport, FieldPlan.ownReport, linked.anchor, linked.stages]

-- The links of the two plans have to lead to plans that are linked again. The plans may refer to each
-- other in circles, so the induction is on the record.
theorem report_linked (leads : Slot → Fin n → Prop) (S : Schema n) (follow : Slot → Option (Plan n Slot))
    (draw : Fin n → Option (Plan n (Fin n)))
    (led : ∀ slot id, leads slot id → ∃ plan drawn, follow slot = some plan ∧ draw id = some drawn ∧
      plan.Linked leads drawn)
    (record : Instance n) {plan : Plan n Slot} {drawn : Plan n (Fin n)}
    (linked : plan.Linked leads drawn) :
    plan.report S follow record = drawn.report S draw record := by
  induction size : sizeOf record using Nat.strongRecOn generalizing record plan drawn with
  | _ limit ih =>
      have partSame (part : FieldPlan n Slot) (drawnPart : FieldPlan n (Fin n))
          (same : part.Linked leads drawnPart) :
          part.report S follow record = drawnPart.report S draw record := by
        rw [FieldPlan.report, FieldPlan.report, same.anchor]
        cases found : drawnPart.anchor.read S record with
        | error error => rfl
        | ok value =>
            simp only [own_report_linked S record value same]
            refine congrArg (drawnPart.ownReport S record value ++ ·) ?_
            cases value with
            | record type fields =>
                have smaller := drawnPart.anchor.size_read S record found
                have nested := same.nested
                cases link : part.nested <;> cases inner : drawnPart.nested <;>
                  rw [link, inner] at nested
                case none.none => rfl
                case none.some => cases nested
                case some.none => cases nested
                case some.some slot id =>
                  obtain ⟨next, drawnNext, follows, draws, sameNext⟩ :=
                    led slot id (Option.rel_some_some.mp nested)
                  simp only [Option.bind_some, follows, draws, Value.record?]
                  rw [ih _ (size ▸ smaller) ⟨type, fields⟩ sameNext rfl]
            | _ => rfl
      rw [Plan.report_parts, Plan.report_parts]
      have reports := List.rel_flatMap (linked_parts linked)
        (fun part drawnPart same => List.forall₂_eq_eq_eq ▸ partSame part drawnPart same)
      exact List.forall₂_eq_eq_eq ▸ reports

namespace Rulebook

variable (book : Rulebook n) (S : Schema n)

def drawField (id : Fin n) (done : List (String × FieldPlan n (Fin n)))
    (declared : FieldDef n × Nat) : List (String × FieldPlan n (Fin n)) :=
  let (field, index) := declared
  match book.fieldStages? S id field index with
  | .ok (some stages) =>
      Plan.addField field.name ⟨.declared id index field, stages, book.nested? field⟩ done
  | .ok none | .error _ => done

def drawFields (id : Fin n) : List (String × FieldPlan n (Fin n)) :=
  (S id).fields.zipIdx.foldl (book.drawField S id) []

def drawChecks (id : Fin n) : List (FieldPlan n (Fin n)) :=
  match book.checkPlans S id (S id).checks with
  | .ok checks => checks
  | .error _ => []

-- The plan of a type as the rule strings alone give it, with each nested plan named by its type.
def blueprint (id : Fin n) : Plan n (Fin n) := ⟨id, book.drawFields S id, book.drawChecks S id⟩

variable {book S}

theorem linked_check_plan (leads : Slot → Fin n → Prop) {id : Fin n} {check : RecordCheck}
    {part : Option (FieldPlan n Slot)} (tested : book.checkPlan? S id check = .ok part) :
    ∃ drawn, book.checkPlan? S id check = .ok drawn ∧
      Option.Rel (FieldPlan.Linked leads) part drawn := by
  obtain ⟨anchor, stages?, resolved, read, rfl⟩ := check_plan_ok tested
  refine ⟨_, check_plan_made (Fin n) resolved read, ?_⟩
  cases stages? with
  | none => exact .none
  | some stages => exact .some ⟨rfl, rfl, .none⟩

theorem linked_check_plans (leads : Slot → Fin n → Prop) {id : Fin n} {checks : List RecordCheck}
    {parts : List (FieldPlan n Slot)} (tested : book.checkPlans S id checks = .ok parts) :
    ∃ drawn, book.checkPlans S id checks = .ok drawn ∧
      List.Forall₂ (FieldPlan.Linked leads) parts drawn := by
  induction checks generalizing parts with
  | nil => exact ⟨[], rfl, Except.ok.inj tested ▸ .nil⟩
  | cons check rest ih =>
      obtain ⟨part, after, made, others, rfl⟩ := check_plans_ok tested
      obtain ⟨drawn, drawnMade, first⟩ := linked_check_plan leads made
      obtain ⟨drawnRest, drawnOthers, later⟩ := ih others
      refine ⟨drawn.toList ++ drawnRest, ?_, ?_⟩
      · rw [checkPlans, drawnMade, drawnOthers]
        rfl
      · cases first with
        | none => exact later
        | some same => exact .cons same later

theorem linked_draw_checks (leads : Slot → Fin n → Prop) {id : Fin n} {parts : List (FieldPlan n Slot)}
    (tested : book.checkPlans S id (S id).checks = .ok parts) :
    List.Forall₂ (FieldPlan.Linked leads) parts (book.drawChecks S id) := by
  obtain ⟨drawn, made, linked⟩ := linked_check_plans leads tested
  rw [drawChecks, made]
  exact linked

def OfField (book : Rulebook n) (S : Schema n) (id : Fin n) (part : FieldPlan n (Fin n)) : Prop :=
  ∃ index field stages, (S id).fields[index]? = some field ∧
    book.fieldStages? S id field index = .ok (some stages) ∧
    part = ⟨.declared id index field, stages, book.nested? field⟩

def OfCheck (book : Rulebook n) (S : Schema n) (id : Fin n) (part : FieldPlan n (Fin n)) : Prop :=
  ∃ check ∈ (S id).checks, book.checkPlan? S id check = .ok (some part)

theorem mem_put_field {Link : Type} (name : String) (part : FieldPlan n Link)
    (fields : List (String × FieldPlan n Link)) (entry : String × FieldPlan n Link)
    (member : entry ∈ Plan.putField name part fields) : entry = (name, part) ∨ entry ∈ fields := by
  induction fields with
  | nil => exact .inl (List.mem_singleton.mp member)
  | cons first rest ih =>
      obtain ⟨key, old⟩ := first
      rw [Plan.putField] at member
      split at member
      case isTrue same =>
        rcases List.mem_cons.mp member with here | later
        · exact .inl (same ▸ here)
        · exact .inr (List.mem_cons_of_mem _ later)
      case isFalse =>
        rcases List.mem_cons.mp member with here | later
        · exact .inr (here ▸ List.mem_cons_self)
        · exact (ih later).imp_right (List.mem_cons_of_mem _)

theorem mem_add_field {Link : Type} (name : String) (part : FieldPlan n Link)
    (fields : List (String × FieldPlan n Link)) (entry : String × FieldPlan n Link)
    (member : entry ∈ Plan.addField name part fields) : entry = (name, part) ∨ entry ∈ fields := by
  rw [Plan.addField] at member
  split at member
  · exact .inr member
  · exact mem_put_field name part fields entry member

theorem mem_draw_field (id : Fin n) (declared : FieldDef n × Nat)
    (there : (S id).fields[declared.2]? = some declared.1) (done : List (String × FieldPlan n (Fin n)))
    (entry : String × FieldPlan n (Fin n)) (member : entry ∈ book.drawField S id done declared) :
    entry ∈ done ∨ book.OfField S id entry.2 := by
  obtain ⟨field, index⟩ := declared
  rw [drawField] at member
  cases read : book.fieldStages? S id field index with
  | error error => exact .inl (by simpa only [read] using member)
  | ok stages? =>
      cases stages? with
      | none => exact .inl (by simpa only [read] using member)
      | some stages =>
          simp only [read] at member
          rcases mem_add_field _ _ _ _ member with here | before
          · exact .inr ⟨index, field, stages, there, read, by rw [here]⟩
          · exact .inl before

theorem mem_draw_fields (id : Fin n) (fields : List (FieldDef n × Nat))
    (there : ∀ declared ∈ fields, (S id).fields[declared.2]? = some declared.1)
    (done : List (String × FieldPlan n (Fin n))) (entry : String × FieldPlan n (Fin n))
    (member : entry ∈ fields.foldl (book.drawField S id) done) :
    entry ∈ done ∨ book.OfField S id entry.2 := by
  induction fields generalizing done with
  | nil => exact .inl member
  | cons declared rest ih =>
      rcases ih (fun other later => there other (List.mem_cons_of_mem _ later)) _ member with added | field
      · exact mem_draw_field id declared (there declared List.mem_cons_self) done entry added
      · exact .inr field

theorem mem_check_plans {Link : Type} (id : Fin n) (checks : List RecordCheck)
    (parts : List (FieldPlan n Link)) (tested : book.checkPlans S id checks = .ok parts)
    (part : FieldPlan n Link) (member : part ∈ parts) :
    ∃ check ∈ checks, book.checkPlan? S id check = .ok (some part) := by
  induction checks generalizing parts with
  | nil =>
      rw [← Except.ok.inj tested] at member
      cases member
  | cons check rest ih =>
      obtain ⟨first, after, made, others, rfl⟩ := check_plans_ok tested
      rcases List.mem_append.mp member with here | later
      · rw [Option.mem_toList] at here
        exact ⟨check, List.mem_cons_self, here ▸ made⟩
      · obtain ⟨other, there, same⟩ := ih after others later
        exact ⟨other, List.mem_cons_of_mem _ there, same⟩

theorem mem_blueprint (id : Fin n) (part : FieldPlan n (Fin n))
    (member : part ∈ (book.blueprint S id).parts) : book.OfField S id part ∨ book.OfCheck S id part := by
  rcases List.mem_append.mp member with field | check
  · obtain ⟨entry, there, rfl⟩ := List.mem_map.mp field
    have declared : ∀ declared ∈ (S id).fields.zipIdx, (S id).fields[declared.2]? = some declared.1 :=
      fun declared listed => List.mem_zipIdx_iff_getElem?.mp listed
    rcases mem_draw_fields id _ declared [] entry there with empty | drawn
    · cases empty
    · exact .inl drawn
  · simp only [blueprint, drawChecks] at check
    split at check
    case h_1 parts tested => exact .inr (mem_check_plans id _ parts tested part check)
    case h_2 => cases check

end Rulebook

end RecordRules
