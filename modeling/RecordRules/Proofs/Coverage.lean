import RecordRules.Proofs.NestedChecks

set_option autoImplicit false

namespace RecordRules

variable {n : Nat} {S : Schema n}

namespace Plan

variable {Link : Type}

theorem names_put_field (name : String) (part : FieldPlan n Link) (fields : List (String × FieldPlan n Link)) :
    (putField name part fields).map Prod.fst =
      if name ∈ fields.map Prod.fst then fields.map Prod.fst else fields.map Prod.fst ++ [name] := by
  induction fields with
  | nil => rfl
  | cons entry rest ih =>
      obtain ⟨key, old⟩ := entry
      rw [putField]
      by_cases same : name = key
      · simp [same]
      · rw [if_neg same, List.map_cons, ih]
        by_cases later : name ∈ rest.map Prod.fst <;> simp [same, later]

theorem nodup_put_field (name : String) (part : FieldPlan n Link) (fields : List (String × FieldPlan n Link))
    (distinct : (fields.map Prod.fst).Nodup) : ((putField name part fields).map Prod.fst).Nodup := by
  rw [names_put_field]
  split
  case isTrue => exact distinct
  case isFalse fresh => exact List.nodup_append_comm.mp (List.nodup_cons.mpr ⟨fresh, distinct⟩)

theorem mem_put_field_iff (name : String) (part : FieldPlan n Link) (fields : List (String × FieldPlan n Link))
    (distinct : (fields.map Prod.fst).Nodup) (entry : String × FieldPlan n Link) :
    entry ∈ putField name part fields ↔ entry = (name, part) ∨ entry ∈ fields ∧ entry.1 ≠ name := by
  induction fields with
  | nil => simp [putField]
  | cons first rest ih =>
      obtain ⟨key, old⟩ := first
      obtain ⟨outside, distinct⟩ := List.nodup_cons.mp distinct
      rw [putField]
      by_cases same : name = key
      · subst same
        have elsewhere (member : entry ∈ rest) : entry.1 ≠ name := fun named =>
          outside (List.mem_map.mpr ⟨entry, member, named⟩)
        rw [if_pos rfl, List.mem_cons, List.mem_cons]
        constructor
        · rintro (here | later)
          · exact .inl here
          · exact .inr ⟨.inr later, elsewhere later⟩
        · rintro (here | ⟨rfl | later, apart⟩)
          · exact .inl here
          · exact absurd rfl apart
          · exact .inr later
      · rw [if_neg same, List.mem_cons, List.mem_cons, ih distinct]
        constructor
        · rintro (rfl | here | ⟨later, apart⟩)
          · exact .inr ⟨.inl rfl, Ne.symm same⟩
          · exact .inl here
          · exact .inr ⟨.inr later, apart⟩
        · rintro (here | ⟨rfl | later, apart⟩)
          · exact .inr (.inl here)
          · exact .inl rfl
          · exact .inr (.inr ⟨later, apart⟩)

end Plan

namespace Rulebook

variable {book : Rulebook n}

theorem draw_field_drawn (id : Fin n) (done : List (String × FieldPlan n (Fin n)))
    (declared : FieldDef n × Nat) :
    book.drawField S id done declared =
      match book.drawn? S id declared with
      | none => done
      | some entry => Plan.putField entry.1 entry.2 done := by
  obtain ⟨field, index⟩ := declared
  rw [drawField, drawn?]
  cases book.fieldStages? S id field index with
  | error error => rfl
  | ok stages? =>
      cases stages? with
      | none => rfl
      | some stages =>
          simp only [Plan.addField]
          split <;> rfl

theorem nodup_draw_fields (id : Fin n) (fields : List (FieldDef n × Nat)) :
    ((fields.foldl (book.drawField S id) []).map Prod.fst).Nodup := by
  induction fields using List.reverseRecOn with
  | nil => exact List.nodup_nil
  | append_singleton front last ih =>
      rw [List.foldl_append, List.foldl_cons, List.foldl_nil, draw_field_drawn]
      cases book.drawn? S id last with
      | none => exact ih
      | some entry => exact Plan.nodup_put_field entry.1 entry.2 _ ih

theorem mem_draw_field_iff (id : Fin n) (done : List (String × FieldPlan n (Fin n)))
    (distinct : (done.map Prod.fst).Nodup) (declared : FieldDef n × Nat) (entry : String × FieldPlan n (Fin n)) :
    entry ∈ book.drawField S id done declared ↔
      book.drawn? S id declared = some entry ∨
        entry ∈ done ∧ ∀ latest, book.drawn? S id declared = some latest → latest.1 ≠ entry.1 := by
  rw [draw_field_drawn]
  cases book.drawn? S id declared with
  | none => simp
  | some latest =>
      rw [Plan.mem_put_field_iff latest.1 latest.2 done distinct entry]
      simp [eq_comm]

theorem at_concat {α : Type} (front : List α) (last : α) (place : Nat) (item : α) :
    (front ++ [last])[place]? = some item ↔ front[place]? = some item ∨ place = front.length ∧ item = last := by
  rcases Nat.lt_trichotomy place front.length with before | rfl | past
  · rw [List.getElem?_append_left before]
    simp [Nat.ne_of_lt before]
  · rw [List.getElem?_concat_length]
    simp [eq_comm]
  · rw [List.getElem?_eq_none (by simpa using past), List.getElem?_eq_none (Nat.le_of_lt past)]
    simp [Nat.ne_of_gt past]

theorem mem_draw_fields_iff (id : Fin n) (fields : List (FieldDef n × Nat))
    (entry : String × FieldPlan n (Fin n)) :
    entry ∈ fields.foldl (book.drawField S id) [] ↔
      ∃ (place : Nat) (declared : FieldDef n × Nat), fields[place]? = some declared ∧
        book.drawn? S id declared = some entry ∧
        ∀ (behind : Nat) (other : FieldDef n × Nat), place < behind → fields[behind]? = some other →
          ∀ latest, book.drawn? S id other = some latest → latest.1 ≠ entry.1 := by
  induction fields using List.reverseRecOn with
  | nil => simp
  | append_singleton front last ih =>
      rw [List.foldl_append, List.foldl_cons, List.foldl_nil,
        mem_draw_field_iff id _ (nodup_draw_fields id front) last entry, ih]
      constructor
      · rintro (drawn | ⟨⟨place, declared, there, drawn, alone⟩, apart⟩)
        · refine ⟨front.length, last, (at_concat _ _ _ _).mpr (.inr ⟨rfl, rfl⟩), drawn,
            fun behind other ahead found => ?_⟩
          rcases (at_concat _ _ _ _).mp found with inside | ⟨rfl, _⟩
          · exact absurd (List.getElem?_eq_some_iff.mp inside).1 (Nat.lt_asymm ahead)
          · exact absurd ahead (Nat.lt_irrefl _)
        · refine ⟨place, declared, (at_concat _ _ _ _).mpr (.inl there), drawn, fun behind other ahead found => ?_⟩
          rcases (at_concat _ _ _ _).mp found with inside | ⟨_, rfl⟩
          · exact alone behind other ahead inside
          · exact apart
      · rintro ⟨place, declared, there, drawn, alone⟩
        rcases (at_concat _ _ _ _).mp there with inside | ⟨_, rfl⟩
        · have ahead := (List.getElem?_eq_some_iff.mp inside).1
          exact .inr ⟨⟨place, declared, inside, drawn, fun behind other later found =>
              alone behind other later ((at_concat _ _ _ _).mpr (.inl found))⟩,
            alone front.length last ahead ((at_concat _ _ _ _).mpr (.inr ⟨rfl, rfl⟩))⟩
        · exact .inl drawn

end Rulebook

-- A part that stands for these rules at their anchor, stage by stage.
structure FieldPlan.Covers {Link : Type} (book : Rulebook n) (S : Schema n) (anchor : FieldPath n)
    (rules : List Rule) (part : FieldPlan n Link) : Prop where
  anchored : part.anchor = anchor
  made : List.Forall₂ (fun rule stage => book.stage S anchor rule = .ok stage) rules part.stages

structure FieldPlan.CoversCheck {Link : Type} (book : Rulebook n) (S : Schema n) (id : Fin n)
    (check : RecordCheck) (part : FieldPlan n Link) : Prop where
  noLink : part.nested = none
  covered : ∃ anchor rules, FieldPath.resolve S id check.anchor = .ok anchor ∧
    book.parse check.rules = .ok rules ∧ part.Covers book S anchor rules

namespace Rulebook

def counts (book : Rulebook n) (rules : String) : Bool :=
  match book.parse rules with
  | .ok parsed => !parsed.contains .skip
  | .error _ => false

-- Whether there is something to do at the field, for its own rules or for a nested record.
def IsBusy (book : Rulebook n) (field : FieldDef n) : Prop :=
  ∃ rules, book.parse field.rules = .ok rules ∧ .skip ∉ rules ∧ (rules ≠ [] ∨ book.nested? field ≠ none)

-- Parts are kept by name, so that of several fields with one name only the last one that has something
-- to do is covered.
def IsReplaced (book : Rulebook n) (S : Schema n) (id : Fin n) (index : Nat) (field : FieldDef n) : Prop :=
  ∃ behind other, index < behind ∧ (S id).fields[behind]? = some other ∧ other.name = field.name ∧
    book.IsBusy other

variable {book : Rulebook n} {ids : List (Fin n)}

theorem drawn_cases (closed : Closed (book.events S) ids) (id : Fin n) (there : id ∈ ids) (index : Nat)
    (field : FieldDef n) (declared : (S id).fields[index]? = some field) :
    (¬book.IsBusy field ∧ book.drawn? S id (field, index) = none) ∨
      (book.IsBusy field ∧ ∃ rules part, book.parse field.rules = .ok rules ∧
        book.drawn? S id (field, index) = some (field.name, part) ∧
        part.Covers book S (.declared id index field) rules) := by
  obtain ⟨rules, parsed, outcome⟩ := drawn_read closed id there index field declared
  rcases outcome with ⟨skipped, drawn⟩ | ⟨counted, stages, made, ⟨rfl, noLink, drawn⟩ | ⟨busy, drawn⟩⟩
  · refine .inl ⟨fun ⟨others, othersParsed, admitted, _⟩ => ?_, drawn⟩
    obtain rfl := Except.ok.inj (parsed.symm.trans othersParsed)
    exact admitted skipped
  · obtain rfl := List.forall₂_nil_right_iff.mp made
    refine .inl ⟨fun ⟨others, othersParsed, _, busy⟩ => ?_, drawn⟩
    obtain rfl := Except.ok.inj (parsed.symm.trans othersParsed)
    exact busy.elim (absurd rfl) (absurd noLink)
  · refine .inr ⟨⟨rules, parsed, counted, busy.imp_left fun someStage noRule => ?_⟩, rules, _, parsed, drawn,
      rfl, made⟩
    subst noRule
    exact someStage (List.forall₂_nil_left_iff.mp made)

theorem declared_at (fields : List (FieldDef n)) (place : Nat) (declared : FieldDef n × Nat) :
    fields.zipIdx[place]? = some declared ↔ declared.2 = place ∧ fields[place]? = some declared.1 := by
  rw [List.getElem?_zipIdx, Option.map_eq_some_iff]
  constructor
  · rintro ⟨field, there, rfl⟩
    exact ⟨Nat.zero_add place, there⟩
  · rintro ⟨same, there⟩
    exact ⟨declared.1, there, Prod.ext rfl ((Nat.zero_add place).trans same.symm)⟩

theorem drawn_covers_iff (closed : Closed (book.events S) ids) (id : Fin n) (there : id ∈ ids) (index : Nat)
    (field : FieldDef n) (declared : (S id).fields[index]? = some field) (rules : List Rule)
    (parsed : book.parse field.rules = .ok rules) (counted : .skip ∉ rules) (someRule : rules ≠ []) :
    (∃ entry ∈ book.drawFields S id, entry.2.Covers book S (.declared id index field) rules) ↔
      ¬book.IsReplaced S id index field := by
  constructor
  · rintro ⟨entry, member, covers⟩ ⟨behind, other, ahead, otherThere, sameName, busy⟩
    obtain ⟨place, ⟨own, atPlace⟩, found, drawn, alone⟩ := (mem_draw_fields_iff id _ entry).mp member
    obtain ⟨rfl, ownThere⟩ := (declared_at _ place _).mp found
    rcases drawn_cases closed id there atPlace own ownThere with
      ⟨_, noneDrawn⟩ | ⟨_, _, part, _, ownDrawn, ownCovers⟩
    · cases noneDrawn.symm.trans drawn
    obtain rfl := Option.some.inj (ownDrawn.symm.trans drawn)
    have samePlace : atPlace = index := by
      have anchors := ownCovers.anchored.symm.trans covers.anchored
      simp only [FieldPath.declared, FieldPath.mk.injEq, List.cons.injEq, Step.mk.injEq] at anchors
      exact anchors.2.2.1.2.1
    subst samePlace
    obtain rfl := Option.some.inj (ownThere.symm.trans declared)
    rcases drawn_cases closed id there behind other otherThere with
      ⟨idle, _⟩ | ⟨_, _, latest, _, latestDrawn, _⟩
    · exact idle busy
    · have found := (declared_at _ behind (other, behind)).mpr ⟨rfl, otherThere⟩
      exact alone behind (other, behind) ahead found _ latestDrawn sameName
  · intro kept
    rcases drawn_cases closed id there index field declared with
      ⟨idle, _⟩ | ⟨_, others, part, othersParsed, drawn, covers⟩
    · exact absurd ⟨rules, parsed, counted, .inl someRule⟩ idle
    obtain rfl := Except.ok.inj (parsed.symm.trans othersParsed)
    have ownFound := (declared_at _ index (field, index)).mpr ⟨rfl, declared⟩
    refine ⟨_, (mem_draw_fields_iff id _ _).mpr ⟨index, (field, index), ownFound, drawn,
      fun behind other ahead found latest latestDrawn sameName => kept ?_⟩, covers⟩
    obtain ⟨rfl, otherThere⟩ := (declared_at _ behind _).mp found
    rcases drawn_cases closed id there other.2 other.1 otherThere with ⟨_, noneDrawn⟩ | ⟨busy, _⟩
    · cases noneDrawn.symm.trans latestDrawn
    · exact ⟨other.2, other.1, ahead, otherThere,
        (drawn_name id other latest latestDrawn).symm.trans sameName, busy⟩

theorem checks_covered {Link : Type} (id : Fin n) (checks : List RecordCheck) (parts : List (FieldPlan n Link))
    (tested : book.checkPlans S id checks = .ok parts) :
    List.Forall₂ (FieldPlan.CoversCheck book S id) (checks.filter fun check => book.counts check.rules) parts := by
  induction checks generalizing parts with
  | nil => exact Except.ok.inj tested ▸ .nil
  | cons check rest ih =>
      obtain ⟨part?, others, made, later, rfl⟩ := check_plans_ok tested
      obtain ⟨anchor, stages?, resolved, read, rfl⟩ := check_plan_ok made
      obtain ⟨rules, parsed, ⟨skipped, rfl⟩ | ⟨counted, stages, rfl, stagesMade⟩⟩ := stages_ok read
      · have passedOver : ¬book.counts check.rules := by simp [counts, parsed, skipped]
        rw [List.filter_cons, if_neg passedOver]
        exact ih others later
      · have applied : book.counts check.rules := by simp [counts, parsed, counted]
        rw [List.filter_cons, if_pos applied]
        exact .cons ⟨rfl, anchor, rules, resolved, parsed, rfl, stagesMade⟩ (ih others later)

end Rulebook

open Rulebook

section Published

variable {leads : Slot → Fin n → Prop} {book : Rulebook n}

theorem covers_linked {part : FieldPlan n Slot} {drawn : FieldPlan n (Fin n)} (linked : part.Linked leads drawn)
    (anchor : FieldPath n) (rules : List Rule) :
    part.Covers book S anchor rules ↔ drawn.Covers book S anchor rules := by
  constructor
  · rintro ⟨anchored, made⟩
    exact ⟨linked.anchor.symm.trans anchored, linked.stages ▸ made⟩
  · rintro ⟨anchored, made⟩
    exact ⟨linked.anchor.trans anchored, linked.stages.symm ▸ made⟩

theorem covered_linked {plan : Plan n Slot} {drawn : Plan n (Fin n)} (linked : plan.Linked leads drawn)
    (anchor : FieldPath n) (rules : List Rule) :
    (∃ entry ∈ plan.fields, entry.2.Covers book S anchor rules) ↔
      ∃ entry ∈ drawn.fields, entry.2.Covers book S anchor rules := by
  constructor
  · rintro ⟨entry, member, covers⟩
    obtain ⟨drawnEntry, there, same⟩ := pointwise_mem linked.fields.flip entry member
    exact ⟨drawnEntry, there, (covers_linked same.2 anchor rules).mp covers⟩
  · rintro ⟨drawnEntry, member, covers⟩
    obtain ⟨entry, there, same⟩ := pointwise_mem linked.fields drawnEntry member
    exact ⟨entry, there, (covers_linked same.2 anchor rules).mpr covers⟩

theorem checks_covered_linked (id : Fin n) (checks : List RecordCheck) (parts : List (FieldPlan n Slot))
    (drawn : List (FieldPlan n (Fin n))) (linked : List.Forall₂ (FieldPlan.Linked leads) parts drawn)
    (covered : List.Forall₂ (FieldPlan.CoversCheck book S id) checks drawn) :
    List.Forall₂ (FieldPlan.CoversCheck book S id) checks parts := by
  induction covered generalizing parts with
  | nil =>
      cases linked
      exact .nil
  | @cons check drawnPart rest drawnRest first _ ih =>
      cases linked with
      | @cons part _ others _ same later =>
          obtain ⟨noLink, anchor, rules, resolved, parsed, covers⟩ := first
          have partNoLink : part.nested = none := by
            rw [← Option.isNone_iff_eq_none, option_rel_isNone same.nested, noLink, Option.isNone_none]
          exact .cons ⟨partNoLink, anchor, rules, resolved, parsed, (covers_linked same anchor rules).mpr covers⟩
            (ih others later)

theorem covered_reported (follow : Slot → Option (Plan n Slot)) (plan : Plan n Slot) (record : Instance n)
    (fit : record.fits S) (index : Nat) (field : FieldDef n) (rules : List Rule)
    (entry : String × FieldPlan n Slot) (member : entry ∈ plan.fields)
    (covers : entry.2.Covers book S (.declared record.type index field) rules) :
    book.interpretRules S record field.name (record.field index) rules <:+: plan.report S follow record := by
  obtain ⟨name, anchor, stages, nested⟩ := entry
  obtain ⟨rfl, made⟩ := covers
  have own : FieldPlan.ownReport S record (record.field index) ⟨.declared record.type index field, stages, nested⟩ =
      book.interpretRules S record field.name (record.field index) rules :=
    own_report_agrees record rfl fit (record.field index) rules stages nested made
  rw [← own]
  exact Plan.own_in_report follow record plan name index field stages nested member

end Published

namespace Validator

theorem last_of_name_covered (book : Rulebook n) (S : Schema n) (calls more : List (Fin n)) (id : Fin n)
    (plan : Plan n Slot) (next : Validator n)
    (compiled : ((ofRulebook book).after S calls).compile S id = (.ok plan, next)) :
    (∀ index field rules, (S id).fields[index]? = some field → book.parse field.rules = .ok rules →
      .skip ∉ rules → rules ≠ [] →
      ((∃ entry ∈ plan.fields, entry.2.Covers book S (.declared id index field) rules) ↔
        ¬book.IsReplaced S id index field) ∧
      (¬book.IsReplaced S id index field → ∀ record : Instance n, record.type = id → record.fits S →
        book.interpretRules S record field.name (record.field index) rules <:+:
          (next.after S more).report S plan record)) ∧
    List.Forall₂ (FieldPlan.CoversCheck book S id)
      ((S id).checks.filter fun check => book.counts check.rules) plan.checks ∧
    ∀ check ∈ (S id).checks, ∀ record : Instance n, record.type = id → record.fits S →
      book.interpretCheck S record check <:+: (next.after S more).report S plan record := by
  obtain ⟨rfl, ready, there⟩ := compiled_ready compiled
  have listed := Shelf.mem_of_plan there
  have linked := (linked_of_plan ready.sound id plan there).2
  refine ⟨fun index field rules declared parsed counted someRule => ?_, ?_,
    fun check checkListed record type fit => ?_⟩
  · have covered := (covered_linked linked (.declared id index field) rules).trans
      (drawn_covers_iff ready.closed id listed index field declared rules parsed counted someRule)
    refine ⟨covered, fun kept record type fit => ?_⟩
    obtain ⟨entry, member, covers⟩ := covered.mpr kept
    subst type
    exact covered_reported _ plan record fit index field rules entry member covers
  · obtain ⟨parts, tested⟩ := closed_checks (Fin n) ready.closed id listed
    have drawn := linked.checks
    rw [blueprint, drawChecks, tested] at drawn
    exact checks_covered_linked id _ _ parts drawn (checks_covered id _ parts tested)
  · subst type
    obtain ⟨part?, made⟩ := closed_check Slot ready.closed _ listed check checkListed
    rw [← check_agrees record fit check part? made]
    exact part_in_report _ plan record part? fun part given =>
      published_check ready plan _ there check checkListed part (given ▸ made)

def twiceNamed : Schema 1 := fun _ =>
  { name := "Pair"
    fields := [⟨"a", .str, "required", true⟩, ⟨"a", .str, "omitempty,startswith=b", true⟩]
    checks := [⟨"a", "max=3"⟩, ⟨"a", "-"⟩] }

theorem second_of_name_covered :
    let field : FieldDef 1 := ⟨"a", .str, "omitempty,startswith=b", true⟩
    let rules : List Rule := [.omitEmpty, .clause (.leaf "startswith" (some "b"))]
    let record : Instance 1 := ⟨0, [.str "", .str "X"]⟩
    ∃ plan next, ((ofRulebook .standard).after twiceNamed []).compile twiceNamed 0 = (.ok plan, next) ∧
      (twiceNamed 0).fields[1]? = some field ∧ Rulebook.standard.parse (n := 1) field.rules = .ok rules ∧
      ¬Rulebook.standard.IsReplaced twiceNamed 0 1 field ∧ record.fits twiceNamed ∧
      (∃ entry ∈ plan.fields, entry.2.Covers .standard twiceNamed (.declared 0 1 field) rules) ∧
      Rulebook.standard.interpretRules twiceNamed record "a" (.str "X") rules <:+:
        next.report twiceNamed plan record ∧
      plan.checks.length = 1 := by
  intro field rules record
  have made : (((ofRulebook .standard).after twiceNamed []).compile twiceNamed 0).1.isOk := by cbv
  have parsed : Rulebook.standard.parse (n := 1) field.rules = .ok rules := by cbv
  have kept : ¬Rulebook.standard.IsReplaced twiceNamed 0 1 field := by
    rintro ⟨behind, other, ahead, there, _⟩
    have inside := (List.getElem?_eq_some_iff.mp there).1
    have two : (twiceNamed 0).fields.length = 2 := rfl
    omega
  have fit : record.fits twiceNamed := by decide
  have counted :
      ((twiceNamed 0).checks.filter fun check => Rulebook.standard.counts (n := 1) check.rules).length = 1 := by
    cbv
  cases compiled : ((ofRulebook .standard).after twiceNamed []).compile twiceNamed 0 with
  | mk outcome next =>
      rw [compiled] at made
      cases outcome with
      | error error => cases made
      | ok plan =>
          obtain ⟨fields, checks, _⟩ := last_of_name_covered .standard twiceNamed [] [] 0 plan next compiled
          obtain ⟨covered, reported⟩ := fields 1 field rules rfl parsed (by decide) (by decide)
          exact ⟨plan, next, rfl, rfl, parsed, kept, fit, covered.mpr kept, reported kept record rfl fit,
            checks.length_eq.symm.trans counted⟩

theorem first_of_name_lost :
    let field : FieldDef 1 := ⟨"a", .str, "required", true⟩
    let rules : List Rule := [.clause (.leaf "required" none)]
    let record : Instance 1 := ⟨0, [.str "", .str "bx"]⟩
    (twiceNamed 0).fields[0]? = some field ∧ Rulebook.standard.parse (n := 1) field.rules = .ok rules ∧
    record.fits twiceNamed ∧
    (Rulebook.standard.interpretRules twiceNamed record "a" (record.field 0) rules).map Violation.gist =
      [("required", none)] ∧
    ∃ plan next, ((ofRulebook .standard).after twiceNamed []).compile twiceNamed 0 = (.ok plan, next) ∧
      (∀ entry ∈ plan.fields, entry.2.anchor ≠ .declared 0 0 field) ∧
      next.report twiceNamed plan record = [] := by
  intro field rules record
  let outcome := ((ofRulebook .standard).after twiceNamed []).compile twiceNamed 0
  let inSlot? := outcome.2.shelf.inSlot?
  have told :
      (outcome.1.map fun plan => (plan.fields.map (·.2.anchor.indices),
        (plan.parts.flatMap (·.report twiceNamed inSlot? record)).map Violation.gist)) = .ok ([[1]], []) := by
    simp only [inSlot?, outcome, record]
    cbv
  obtain ⟨plan, compiled, same⟩ := ok_of_map told
  obtain ⟨anchors, nothing⟩ := Prod.mk.inj same
  rw [← Plan.report_parts] at nothing
  refine ⟨rfl, by cbv, by decide, by cbv, plan, outcome.2, Prod.ext compiled rfl, fun entry member anchored => ?_,
    List.map_eq_nil_iff.mp nothing⟩
  have listed : entry.2.anchor.indices ∈ [[1]] := anchors ▸ List.mem_map_of_mem member
  rw [anchored] at listed
  exact absurd listed (by decide)

end Validator

end RecordRules
