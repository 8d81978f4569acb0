import Mathlib
import RecordRules.Proofs.Below
import RecordRules.Proofs.Cache
import RecordRules.Proofs.Refinement

set_option autoImplicit false

namespace RecordRules

variable {n : Nat} {S : Schema n}

def FieldPlan.own {Link : Type} (S : Schema n) (record : Instance n) (part : FieldPlan n Link) : Report :=
  match part.anchor.read S record with
  | .error _ => []
  | .ok value => part.ownReport S record value

namespace Plan

variable {Link : Type}

def ownAt (S : Schema n) (record : Instance n) (plan : Plan n Link) (name : String) : Report :=
  match plan.field? name with
  | some part => part.own S record
  | none => []

theorem within_flat_map {α β : Type} (say : α → List β) (items : List α) (item : α) (member : item ∈ items) :
    say item <:+: items.flatMap say := by
  obtain ⟨front, back, rfl⟩ := List.append_of_mem member
  rw [List.flatMap_append, List.flatMap_cons, ← List.append_assoc]
  exact ⟨_, _, rfl⟩

theorem field_mem (plan : Plan n Link) (name : String) (part : FieldPlan n Link)
    (found : plan.field? name = some part) : part ∈ plan.parts := by
  obtain ⟨entry, there, rfl⟩ := Option.map_eq_some_iff.mp found
  exact List.mem_append_left _ (List.mem_map_of_mem (List.mem_of_find?_eq_some there))

theorem own_starts_report (follow : Link → Option (Plan n Link)) (record : Instance n) (part : FieldPlan n Link) :
    part.own S record <+: part.report S follow record := by
  rw [FieldPlan.own, FieldPlan.report]
  cases part.anchor.read S record with
  | error error => exact List.prefix_refl []
  | ok value => exact List.prefix_append _ _

theorem own_in_report (follow : Link → Option (Plan n Link)) (record : Instance n) (plan : Plan n Link)
    (name : String) (index : Nat) (field : FieldDef n) (stages : List (Stage n)) (nested : Option Link)
    (member : (name, ⟨.declared record.type index field, stages, nested⟩) ∈ plan.fields) :
    FieldPlan.ownReport S record (record.field index)
        (⟨.declared record.type index field, stages, nested⟩ : FieldPlan n Link) <:+: plan.report S follow record := by
  have starts := own_starts_report (S := S) follow record ⟨.declared record.type index field, stages, nested⟩
  rw [FieldPlan.own, FieldPath.read_declared] at starts
  rw [report_parts]
  exact starts.isInfix.trans
    (within_flat_map _ _ _ (List.mem_append_left _ (List.mem_map_of_mem member)))

theorem own_at_in_report (follow : Link → Option (Plan n Link)) (record : Instance n) (plan : Plan n Link)
    (name : String) : plan.ownAt S record name <:+: plan.report S follow record := by
  rw [ownAt]
  cases found : plan.field? name with
  | none => exact List.nil_infix
  | some part =>
      rw [report_parts]
      exact (own_starts_report follow record part).isInfix.trans
        (within_flat_map _ _ part (plan.field_mem name part found))

end Plan

def FieldPlan.ownWithin {Link : Type} (S : Schema n) (follow : Link → Option (Plan n Link))
    (record : Instance n) (part : FieldPlan n Link) (name : String) : Report :=
  match part.anchor.read S record with
  | .error _ => []
  | .ok value =>
      match value.record?, part.nested.bind follow with
      | some within, some inner => (inner.ownAt S within name).map (·.under part.anchor.text)
      | _, _ => []

namespace Plan

variable {Link : Type}

def ownBelow (S : Schema n) (follow : Link → Option (Plan n Link)) (record : Instance n)
    (plan : Plan n Link) (outer name : String) : Report :=
  match plan.field? outer with
  | some part => part.ownWithin S follow record name
  | none => []

theorem own_within_in_report (follow : Link → Option (Plan n Link)) (record : Instance n)
    (part : FieldPlan n Link) (name : String) :
    part.ownWithin S follow record name <:+: part.report S follow record := by
  rw [FieldPlan.ownWithin, FieldPlan.report]
  cases part.anchor.read S record with
  | error error => exact List.nil_infix
  | ok value =>
      dsimp only
      refine List.IsInfix.trans ?_ (List.suffix_append _ _).isInfix
      cases value.record? with
      | none => exact List.nil_infix
      | some within =>
          cases part.nested.bind follow with
          | none => exact List.nil_infix
          | some inner => exact (own_at_in_report follow within inner name).map _

theorem own_below_in_report (follow : Link → Option (Plan n Link)) (record : Instance n) (plan : Plan n Link)
    (outer name : String) : plan.ownBelow S follow record outer name <:+: plan.report S follow record := by
  rw [ownBelow]
  cases found : plan.field? outer with
  | none => exact List.nil_infix
  | some part =>
      rw [report_parts]
      exact (own_within_in_report follow record part name).trans
        (within_flat_map _ _ part (plan.field_mem outer part found))

end Plan

namespace Rulebook

variable {book : Rulebook n}

theorem find_drawn (id : Fin n) (fields : List (FieldDef n × Nat)) (distinct : (fields.map (·.1.name)).Nodup)
    (declared : FieldDef n × Nat) (member : declared ∈ fields) :
    (fields.filterMap (book.drawn? S id)).find? (·.1 = declared.1.name) = book.drawn? S id declared := by
  induction fields with
  | nil => cases member
  | cons first rest ih =>
      obtain ⟨outside, distinct⟩ := List.nodup_cons.mp distinct
      rcases List.mem_cons.mp member with rfl | later
      · have elsewhere : (rest.filterMap (book.drawn? S id)).find? (·.1 = declared.1.name) = none := by
          refine List.find?_eq_none.mpr fun entry there same => outside ?_
          obtain ⟨other, listed, drawn⟩ := List.mem_filterMap.mp there
          have named := (drawn_name id other entry drawn).symm.trans (of_decide_eq_true same)
          exact List.mem_map.mpr ⟨other, listed, named⟩
        cases drawn : book.drawn? S id declared with
        | none => rw [List.filterMap_cons_none drawn, elsewhere]
        | some entry =>
            rw [List.filterMap_cons_some drawn, List.find?_cons, drawn_name id declared entry drawn,
              decide_eq_true rfl]
      · have different : first.1.name ≠ declared.1.name := fun same =>
          outside (List.mem_map.mpr ⟨declared, later, same.symm⟩)
        cases drawn : book.drawn? S id first with
        | none => rw [List.filterMap_cons_none drawn, ih distinct later]
        | some entry =>
            rw [List.filterMap_cons_some drawn, List.find?_cons, drawn_name id first entry drawn,
              decide_eq_false different, ih distinct later]

theorem blueprint_field (id : Fin n) (distinct : ((S id).fields.map FieldDef.name).Nodup) (index : Nat)
    (field : FieldDef n) (there : (S id).fields[index]? = some field) :
    (book.blueprint S id).field? field.name = (book.drawn? S id (field, index)).map (·.2) := by
  have names : ((S id).fields.zipIdx.map (·.1.name)).Nodup := declared_names _ ▸ distinct
  rw [Plan.field?, blueprint, drawFields, draw_fields_fresh id _ names [] (by simp), List.nil_append,
    find_drawn id _ names (field, index) (List.mem_zipIdx_iff_getElem?.mpr there)]

end Rulebook

theorem linked_field {leads : Slot → Fin n → Prop} {plan : Plan n Slot} {drawn : Plan n (Fin n)}
    (linked : plan.Linked leads drawn) (name : String) :
    Option.Rel (FieldPlan.Linked leads) (plan.field? name) (drawn.field? name) := by
  have entries := linked.fields
  rw [Plan.field?, Plan.field?]
  generalize plan.fields = fields at entries ⊢
  generalize drawn.fields = drawnFields at entries ⊢
  induction entries with
  | nil => exact .none
  | @cons entry drawnEntry rest drawnRest first _ ih =>
      rw [List.find?_cons, List.find?_cons, first.1]
      by_cases same : drawnEntry.1 = name
      · simpa [same] using first.2
      · simpa [same] using ih

namespace Rulebook

variable {book : Rulebook n} {ids : List (Fin n)}

theorem closed_field (closed : Closed (book.events S) ids) (id : Fin n) (there : id ∈ ids) (index : Nat)
    (field : FieldDef n) (declared : (S id).fields[index]? = some field) :
    ∃ stages?, book.fieldStages? S id field index = .ok stages? := by
  cases read : book.fieldStages? S id field index with
  | ok stages? => exact ⟨stages?, rfl⟩
  | error error =>
      have failed : .fail error ∈ book.fieldEvents S id (field, index) := by
        rw [field_events_eq, read]
        exact List.mem_cons_self
      have listed : (field, index) ∈ (S id).fields.zipIdx := List.mem_zipIdx_iff_getElem?.mpr declared
      exact absurd (field_event_mem book S id _ listed _ failed) (closed_clean closed there error)

theorem closed_check (Link : Type) (closed : Closed (book.events S) ids) (id : Fin n) (there : id ∈ ids)
    (check : RecordCheck) (listed : check ∈ (S id).checks) :
    ∃ part? : Option (FieldPlan n Link), book.checkPlan? S id check = .ok part? := by
  cases made : (book.checkPlan? S id check : Except _ (Option (FieldPlan n Link))) with
  | ok part? => exact ⟨part?, rfl⟩
  | error cause =>
      have failed : .fail ⟨S.nameOf id, check.anchor, cause⟩ ∈ book.checkEvents S id check := by
        rw [check_events_eq Link, made]
        exact List.mem_cons_self
      exact absurd (check_event_mem book S id check listed _ failed) (closed_clean closed there _)

theorem closed_checks (Link : Type) (closed : Closed (book.events S) ids) (id : Fin n) (there : id ∈ ids) :
    ∃ parts : List (FieldPlan n Link), book.checkPlans S id (S id).checks = .ok parts := by
  have each := closed_check Link closed id there
  generalize (S id).checks = checks at each
  induction checks with
  | nil => exact ⟨[], rfl⟩
  | cons check rest ih =>
      obtain ⟨part?, first⟩ := each check List.mem_cons_self
      obtain ⟨others, later⟩ := ih fun other member => each other (List.mem_cons_of_mem _ member)
      refine ⟨part?.toList ++ others, ?_⟩
      rw [checkPlans, first, later]
      rfl

theorem drawn_read (closed : Closed (book.events S) ids) (id : Fin n) (there : id ∈ ids) (index : Nat)
    (field : FieldDef n) (declared : (S id).fields[index]? = some field) :
    ∃ rules, book.parse field.rules = .ok rules ∧
      (Rule.skip ∈ rules ∧ book.drawn? S id (field, index) = none ∨
        Rule.skip ∉ rules ∧ ∃ stages : List (Stage n),
          List.Forall₂ (fun rule stage => book.stage S (.declared id index field) rule = .ok stage) rules stages ∧
          (stages = [] ∧ book.nested? field = none ∧ book.drawn? S id (field, index) = none ∨
            (stages ≠ [] ∨ book.nested? field ≠ none) ∧ book.drawn? S id (field, index) =
              some (field.name, ⟨.declared id index field, stages, book.nested? field⟩))) := by
  obtain ⟨stages?, read⟩ := closed_field closed id there index field declared
  obtain ⟨rules, parsed, ⟨skipped, rfl⟩ | ⟨counted, stages, rfl, made⟩⟩ := stages_ok (field_stages_ok read)
  · exact ⟨rules, parsed, .inl ⟨skipped, by rw [drawn?, read]⟩⟩
  · refine ⟨rules, parsed, .inr ⟨counted, stages, made, ?_⟩⟩
    by_cases idle : stages = [] ∧ book.nested? field = none
    · exact .inl ⟨idle.1, idle.2, by simp [drawn?, read, idle]⟩
    · refine .inr ⟨not_and_or.mp idle, ?_⟩
      simp only [drawn?, read]
      rw [if_neg (by simpa using idle)]

theorem mem_of_check_plans {Link : Type} (id : Fin n) (checks : List RecordCheck)
    (parts : List (FieldPlan n Link)) (tested : book.checkPlans S id checks = .ok parts) (check : RecordCheck)
    (listed : check ∈ checks) (part : FieldPlan n Link)
    (made : book.checkPlan? S id check = .ok (some part)) : part ∈ parts := by
  induction checks generalizing parts with
  | nil => cases listed
  | cons first rest ih =>
      obtain ⟨part?, others, firstMade, later, rfl⟩ := check_plans_ok tested
      rcases List.mem_cons.mp listed with rfl | behind
      · obtain rfl := Except.ok.inj (firstMade.symm.trans made)
        exact List.mem_append_left _ List.mem_cons_self
      · exact List.mem_append_right _ (ih others later behind)

end Rulebook

open Rulebook

namespace Validator

variable {book : Rulebook n} {shelf : Shelf n}

theorem field_published (ready : Ready S book shelf) (plan : Plan n Slot) (id : Fin n)
    (there : shelf.plan? id = some plan) (distinct : ((S id).fields.map FieldDef.name).Nodup) (index : Nat)
    (field : FieldDef n) (declared : (S id).fields[index]? = some field) :
    ∃ rules, book.parse field.rules = .ok rules ∧
      (Rule.skip ∈ rules ∧ plan.field? field.name = none ∨
        Rule.skip ∉ rules ∧ ∃ stages : List (Stage n),
          List.Forall₂ (fun rule stage => book.stage S (.declared id index field) rule = .ok stage) rules stages ∧
          (stages = [] ∧ book.nested? field = none ∧ plan.field? field.name = none ∨
            ∃ part, plan.field? field.name = some part ∧
              part.Linked shelf.Promises ⟨.declared id index field, stages, book.nested? field⟩)) := by
  have linked := linked_field (linked_of_plan ready.sound _ plan there).2 field.name
  rw [blueprint_field id distinct index field declared] at linked
  obtain ⟨rules, parsed, outcome⟩ :=
    drawn_read ready.closed id (Shelf.mem_of_plan there) index field declared
  generalize plan.field? field.name = found at linked
  refine ⟨rules, parsed, ?_⟩
  rcases outcome with ⟨skipped, drawn⟩ | ⟨counted, stages, made, ⟨noStage, noLink, drawn⟩ | ⟨_, drawn⟩⟩
  · rw [drawn] at linked
    cases linked
    exact .inl ⟨skipped, rfl⟩
  · rw [drawn] at linked
    cases linked
    exact .inr ⟨counted, stages, made, .inl ⟨noStage, noLink, rfl⟩⟩
  · rw [drawn] at linked
    exact .inr ⟨counted, stages, made, .inr (option_rel_some linked)⟩

theorem own_at_agrees (ready : Ready S book shelf) (plan : Plan n Slot) (record : Instance n)
    (there : shelf.plan? record.type = some plan) (fit : record.fits S)
    (distinct : ((S record.type).fields.map FieldDef.name).Nodup) (index : Nat) (field : FieldDef n)
    (declared : (S record.type).fields[index]? = some field) :
    ∃ rules, book.parse field.rules = .ok rules ∧
      plan.ownAt S record field.name =
        if rules.contains .skip then []
        else book.interpretRules S record field.name (record.field index) rules := by
  obtain ⟨rules, parsed, outcome⟩ := field_published ready plan record.type there distinct index field declared
  refine ⟨rules, parsed, ?_⟩
  rw [Plan.ownAt]
  rcases outcome with ⟨skipped, absent⟩ | ⟨counted, stages, made, outcome⟩
  · rw [if_pos (List.contains_iff_mem.mpr skipped), absent]
  · rw [if_neg fun found => counted (List.contains_iff_mem.mp found)]
    have agrees := own_report_agrees record rfl fit (record.field index) rules stages (book.nested? field) made
    rcases outcome with ⟨rfl, _, absent⟩ | ⟨part, found, linked⟩
    · rw [absent]
      exact agrees
    · have sameAnchor : part.anchor = .declared record.type index field := linked.anchor
      simp only [found, FieldPlan.own, sameAnchor, FieldPath.read_declared]
      exact (own_report_linked S record _ linked).trans agrees

theorem field_leads (ready : Ready S book shelf) (plan : Plan n Slot) (id : Fin n)
    (there : shelf.plan? id = some plan) (distinct : ((S id).fields.map FieldDef.name).Nodup) (index : Nat)
    (field : FieldDef n) (declared : (S id).fields[index]? = some field) (type : Fin n)
    (nested : book.nested? field = some type)
    (counted : ∀ rules, book.parse field.rules = .ok rules → .skip ∉ rules) :
    ∃ part slot inner, plan.field? field.name = some part ∧ part.anchor = .declared id index field ∧
      part.nested = some slot ∧ shelf.inSlot? slot = some inner ∧ shelf.plan? type = some inner := by
  obtain ⟨rules, parsed, ⟨skipped, _⟩ | ⟨_, stages, _, outcome⟩⟩ :=
    field_published ready plan id there distinct index field declared
  · exact absurd skipped (counted rules parsed)
  · rw [nested] at outcome
    rcases outcome with ⟨_, noLink, _⟩ | ⟨part, found, linked⟩
    · cases noLink
    · obtain ⟨slot, heldBy, promised⟩ := option_rel_some linked.nested
      obtain ⟨inner, held, _, published⟩ := promise_filled ready slot type promised
      exact ⟨part, slot, inner, found, linked.anchor, heldBy, held, published⟩

theorem published_check (ready : Ready S book shelf) (plan : Plan n Slot) (id : Fin n)
    (there : shelf.plan? id = some plan) (check : RecordCheck) (listed : check ∈ (S id).checks)
    (part : FieldPlan n Slot) (made : book.checkPlan? S id check = .ok (some part)) : part ∈ plan.checks := by
  obtain ⟨anchor, stages?, resolved, read, same⟩ := check_plan_ok made
  obtain ⟨stages, rfl, rfl⟩ := Option.map_eq_some_iff.mp same.symm
  have drawn := check_plan_made (Fin n) resolved read
  obtain ⟨parts, tested⟩ := closed_checks (Fin n) ready.closed id (Shelf.mem_of_plan there)
  have member := mem_of_check_plans id _ parts tested check listed _ drawn
  have linked := (linked_of_plan ready.sound _ plan there).2.checks
  simp only [blueprint, drawChecks, tested] at linked
  obtain ⟨published, among, same⟩ := pointwise_mem linked _ member
  have noLink := Option.isNone_iff_eq_none.mp (option_rel_isNone same.nested)
  obtain ⟨ownAnchor, ownStages, ownNested⟩ := published
  obtain ⟨rfl, rfl, _⟩ := same
  exact noLink ▸ among

theorem own_below_agrees (ready : Ready S book shelf) (plan : Plan n Slot) (record : Instance n)
    (there : shelf.plan? record.type = some plan) (fit : record.fits S)
    (distinct : ∀ id, ((S id).fields.map FieldDef.name).Nodup) (link : FieldDef n)
    (linkDeclared : link ∈ (S record.type).fields) (inner : Fin n) (nested : book.nested? link = some inner)
    (counted : ∀ rules, book.parse link.rules = .ok rules → .skip ∉ rules) (field : FieldDef n)
    (declared : field ∈ (S inner).fields) :
    (record.named S link.name = .nil ∧ plan.ownBelow S shelf.inSlot? record link.name field.name = []) ∨
    ∃ within : Instance n, record.named S link.name = .record within.type within.fields ∧
      ∃ rules, book.parse field.rules = .ok rules ∧
        plan.ownBelow S shelf.inSlot? record link.name field.name =
          (if rules.contains .skip then []
            else book.interpretRules S within field.name (within.named S field.name) rules).map
            (·.under link.name) := by
  obtain ⟨index, atIndex⟩ := List.mem_iff_getElem?.mp linkDeclared
  obtain ⟨part, slot, innerPlan, found, anchor, heldBy, held, published⟩ :=
    field_leads ready plan record.type there (distinct _) index link atIndex inner nested counted
  have linkType := ((nested_eq_some link inner).mp nested).2.2
  rw [named_declared S record (distinct _) index link atIndex, Plan.ownBelow, found]
  simp only [FieldPlan.ownWithin, anchor, FieldPath.read_declared, heldBy, Option.bind_some, held]
  rcases fits_link S link.type inner linkType _ (fits_field S record fit index link atIndex) with
    unset | ⟨fields, set, innerFits⟩
  · rw [unset]
    exact .inl ⟨rfl, rfl⟩
  · rw [set]
    obtain ⟨position, atPosition⟩ := List.mem_iff_getElem?.mp declared
    obtain ⟨rules, parsed, own⟩ := own_at_agrees ready innerPlan ⟨inner, fields⟩ published innerFits
      (distinct _) position field atPosition
    rw [← named_declared S ⟨inner, fields⟩ (distinct _) position field atPosition] at own
    refine .inr ⟨⟨inner, fields⟩, rfl, rules, parsed, ?_⟩
    rw [← own]
    rfl

theorem part_in_report (current : Validator n) (plan : Plan n Slot) (record : Instance n)
    (part? : Option (FieldPlan n Slot)) (published : ∀ part ∈ part?, part ∈ plan.checks) :
    part?.toList.flatMap (·.report S current.shelf.inSlot? record) <:+: current.report S plan record := by
  cases part? with
  | none => exact List.nil_infix
  | some part =>
      rw [Option.toList_some, List.flatMap_singleton, Validator.report, Plan.report_parts]
      exact Plan.within_flat_map _ _ part (List.mem_append_right _ (published part rfl))

end Validator

-- A record check of the outer type that repeats the rules of a field of the inner type.
structure Rulebook.Repeats (book : Rulebook n) (S : Schema n) (outer inner : Fin n) (link field : FieldDef n)
    (check : RecordCheck) : Prop where
  recursion : book.settings.recurseNested
  linkDeclared : link ∈ (S outer).fields
  linkType : link.type.record? = some inner
  linkExported : link.exported
  linkCounted : ∀ rules, book.parse link.rules = .ok rules → .skip ∉ rules
  fieldDeclared : field ∈ (S inner).fields
  checkDeclared : check ∈ (S outer).checks
  anchor : check.anchor = below link.name field.name
  rules : book.parse check.rules = (book.parse field.rules).map (List.map (Rule.below link.name))

namespace Rulebook

variable {book : Rulebook n} {outer inner : Fin n} {link field : FieldDef n} {check : RecordCheck}

theorem repeated_unset (repeats : book.Repeats S outer inner link field check)
    (linkPlain : '.' ∉ link.name.toList) (record : Instance n) (unset : record.named S link.name = .nil) :
    book.interpretCheck S record check = [] := by
  obtain ⟨error, failed⟩ := lookup_below_unset record link.name field.name linkPlain unset
  rw [interpretCheck, repeats.anchor, failed]
  cases book.parse check.rules <;> rfl

theorem repeated_set (repeats : book.Repeats S outer inner link field check)
    (linkPlain : '.' ∉ link.name.toList) (fieldPlain : '.' ∉ field.name.toList) (record within : Instance n)
    (set : record.named S link.name = .record within.type within.fields) (rules : List Rule)
    (parsed : book.parse field.rules = .ok rules) :
    book.interpretCheck S record check =
      if rules.contains .skip then []
      else book.interpretRules S record check.anchor (within.named S field.name)
        (rules.map (Rule.below link.name)) := by
  have moved : book.parse check.rules = .ok (rules.map (Rule.below link.name)) := by
    rw [repeats.rules, parsed]
    rfl
  have read : record.lookup S check.anchor = .ok (within.named S field.name) := by
    rw [repeats.anchor]
    exact reads_value (lookup_below linkPlain set field.name) (lookup_plain within field.name fieldPlain)
  rw [interpretCheck, moved, read]
  simp only [skip_below]

theorem fields_interpreted (record : Instance n) (name : String) (value : Value n) (rules : List Rule)
    (violation : Violation) (told : violation ∈ book.interpretRules S record name value rules) :
    violation.field = some name := by
  obtain ⟨own, _, rfl⟩ := List.mem_map.mp told
  rfl

end Rulebook

namespace Validator

theorem check_repeats_field (book : Rulebook n) (S : Schema n) (calls more : List (Fin n)) (outer inner : Fin n)
    (plan : Plan n Slot) (next : Validator n)
    (compiled : ((ofRulebook book).after S calls).compile S outer = (.ok plan, next))
    (distinct : ∀ id, ((S id).fields.map FieldDef.name).Nodup) (link field : FieldDef n) (check : RecordCheck)
    (repeats : book.Repeats S outer inner link field check) (linkPlain : '.' ∉ link.name.toList)
    (fieldPlain : '.' ∉ field.name.toList) (record : Instance n) (type : record.type = outer)
    (fit : record.fits S) :
    let current := next.after S more
    let nested := plan.ownBelow S current.shelf.inSlot? record link.name field.name
    ∃ part? : Option (FieldPlan n Slot), book.checkPlan? S outer check = .ok part? ∧
      (∀ part ∈ part?, part ∈ plan.checks) ∧
      let own := part?.toList.flatMap (·.report S current.shelf.inSlot? record)
      nested <:+: current.report S plan record ∧ own <:+: current.report S plan record ∧
      nested.map Violation.gist = own.map Violation.gist ∧
      (∀ violation ∈ nested ++ own, violation.field = some check.anchor) ∧
      (record.named S link.name = .nil → nested = [] ∧ own = []) := by
  intro current nested
  obtain ⟨rfl, ready, there⟩ := compiled_ready compiled
  subst type
  obtain ⟨sameBook, readyMore⟩ := ready_after next more ready
  rw [sameBook] at readyMore
  have stillThere := Shelf.kept_plan (kept_after next more ready) _ plan there
  obtain ⟨part?, made⟩ := closed_check Slot ready.closed _ (Shelf.mem_of_plan there) check repeats.checkDeclared
  have published : ∀ part ∈ part?, part ∈ plan.checks := fun part given =>
    published_check ready plan _ there check repeats.checkDeclared part (given ▸ made)
  refine ⟨part?, made, published, ?_⟩
  intro own
  have ownAgrees : own = next.book.interpretCheck S record check :=
    check_agrees record fit check part? made _
  refine ⟨plan.own_below_in_report _ record _ _, part_in_report _ plan record part? published, ?_⟩
  have linkNested : next.book.nested? link = some inner :=
    (nested_eq_some link inner).mpr ⟨repeats.recursion, repeats.linkExported, repeats.linkType⟩
  rcases own_below_agrees readyMore plan record stillThere fit distinct link repeats.linkDeclared inner
    linkNested repeats.linkCounted field repeats.fieldDeclared with
    ⟨unset, nothing⟩ | ⟨within, set, rules, parsed, nestedAgrees⟩
  · have ownNothing := ownAgrees.trans (repeated_unset repeats linkPlain record unset)
    have nestedNothing : nested = [] := nothing
    rw [nestedNothing, ownNothing]
    exact ⟨rfl, nofun, fun _ => ⟨rfl, rfl⟩⟩
  · have ownInterpreted := ownAgrees.trans
      (repeated_set repeats linkPlain fieldPlain record within set rules parsed)
    have nestedInterpreted : nested = _ := nestedAgrees
    rw [nestedInterpreted, ownInterpreted]
    refine ⟨?_, ?_, fun unset => by rw [set] at unset; cases unset⟩
    · split
      · rfl
      · rw [List.map_map, interpretation_below linkPlain set next.book field.name]
        rfl
    · intro violation told
      split at told
      · cases told
      · rcases List.mem_append.mp told with below | here
        · obtain ⟨innerViolation, innerTold, rfl⟩ := List.mem_map.mp below
          rw [Violation.under, fields_interpreted _ _ _ _ _ innerTold, repeats.anchor]
          rfl
        · exact fields_interpreted _ _ _ _ _ here

def echoed : Schema 1 := fun id => { spans id with checks := [⟨"rest.end", "gtfield=rest.start"⟩] }

theorem rest_end_repeated :
    let link : FieldDef 1 := ⟨"rest", .optional (.record spanId), "", true⟩
    let field : FieldDef 1 := ⟨"end", .optional .int, "gtfield=start", true⟩
    let check : RecordCheck := ⟨"rest.end", "gtfield=rest.start"⟩
    ∃ plan next part?, ((ofRulebook .standard).after echoed []).compile echoed spanId = (.ok plan, next) ∧
      Rulebook.standard.Repeats echoed spanId spanId link field check ∧ openSpan.fits echoed ∧
      Rulebook.standard.checkPlan? echoed spanId check = .ok part? ∧
      (plan.ownBelow echoed next.shelf.inSlot? openSpan "rest" "end").map Violation.gist =
        (part?.toList.flatMap (·.report echoed next.shelf.inSlot? openSpan)).map Violation.gist := by
  intro link field check
  have made : (((ofRulebook .standard).after echoed []).compile echoed spanId).1.isOk := by cbv
  have distinct : ∀ id, ((echoed id).fields.map FieldDef.name).Nodup := by decide
  have fit : openSpan.fits echoed := by decide
  have linkParsed : Rulebook.standard.parse (n := 1) link.rules = .ok [] := by cbv
  have repeats : Rulebook.standard.Repeats echoed spanId spanId link field check :=
    { recursion := rfl
      linkDeclared := by decide
      linkType := rfl
      linkExported := rfl
      linkCounted := fun rules parsed => Except.ok.inj (linkParsed.symm.trans parsed) ▸ List.not_mem_nil
      fieldDeclared := by decide
      checkDeclared := by decide
      anchor := rfl
      rules := by cbv }
  cases compiled : ((ofRulebook .standard).after echoed []).compile echoed spanId with
  | mk outcome next =>
      rw [compiled] at made
      cases outcome with
      | error error => cases made
      | ok plan =>
          obtain ⟨part?, checked, _, _, _, same, _⟩ := check_repeats_field .standard echoed [] [] spanId spanId
            plan next compiled distinct link field check repeats (by decide) (by decide) openSpan rfl fit
          exact ⟨plan, next, part?, rfl, repeats, fit, checked, same⟩

-- The name of a field may hold a dot, and a path through it then leads elsewhere.
def dotted : Schema 3 := fun id =>
  if id = 0 then
    { name := "Outer", fields := [⟨"a", .record 1, "", true⟩], checks := [⟨"a.x.y", "required"⟩] }
  else if id = 1 then
    { name := "Inner", fields := [⟨"x.y", .str, "required", true⟩, ⟨"x", .record 2, "", true⟩], checks := [] }
  else { name := "Last", fields := [⟨"y", .str, "", true⟩], checks := [] }

def dottedRecord : Instance 3 := ⟨0, [.record 1 [.str "", .record 2 [.str "set"]]]⟩

theorem dotted_name_not_repeated :
    let link : FieldDef 3 := ⟨"a", .record 1, "", true⟩
    let field : FieldDef 3 := ⟨"x.y", .str, "required", true⟩
    let check : RecordCheck := ⟨"a.x.y", "required"⟩
    (∀ id, ((dotted id).fields.map FieldDef.name).Nodup) ∧ dottedRecord.fits dotted ∧
    Rulebook.standard.Repeats dotted 0 1 link field check ∧
    ∃ plan next part, ((ofRulebook .standard).after dotted []).compile dotted 0 = (.ok plan, next) ∧
      Rulebook.standard.checkPlan? dotted 0 check = .ok (some part) ∧
      (plan.ownBelow dotted next.shelf.inSlot? dottedRecord "a" "x.y").map Violation.gist =
        [("required", none)] ∧
      (part.report dotted next.shelf.inSlot? dottedRecord).map Violation.gist = [] := by
  intro link field check
  have linkParsed : Rulebook.standard.parse (n := 3) link.rules = .ok [] := by cbv
  have repeats : Rulebook.standard.Repeats dotted 0 1 link field check :=
    { recursion := rfl
      linkDeclared := by decide
      linkType := rfl
      linkExported := rfl
      linkCounted := fun rules parsed => Except.ok.inj (linkParsed.symm.trans parsed) ▸ List.not_mem_nil
      fieldDeclared := by decide
      checkDeclared := by decide
      anchor := rfl
      rules := by cbv }
  let outcome := ((ofRulebook .standard).after dotted []).compile dotted 0
  let inSlot? := outcome.2.shelf.inSlot?
  have nestedTold :
      (outcome.1.map fun plan => (plan.ownBelow dotted inSlot? dottedRecord "a" "x.y").map Violation.gist) =
        .ok [("required", none)] := by
    simp only [inSlot?, outcome]
    cbv
  have checkTold :
      ((Rulebook.standard.checkPlan? dotted 0 check).map fun part? =>
        part?.map fun part => (part.report dotted inSlot? dottedRecord).map Violation.gist) =
        .ok (some []) := by
    simp only [inSlot?, outcome]
    cbv
  obtain ⟨plan, compiled, nested⟩ := ok_of_map nestedTold
  obtain ⟨part?, checked, somePart⟩ := ok_of_map checkTold
  obtain ⟨part, rfl, own⟩ := Option.map_eq_some_iff.mp somePart
  exact ⟨by decide, by decide, repeats, plan, outcome.2, part, Prod.ext compiled rfl, checked, nested, own⟩

end Validator

end RecordRules
