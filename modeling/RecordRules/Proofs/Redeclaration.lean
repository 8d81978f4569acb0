import Mathlib.Logic.Function.Basic
import RecordRules.Proofs.Conformance
import RecordRules.Proofs.Independence

set_option autoImplicit false

namespace RecordRules

variable {n : Nat} {S T : Schema n}

def FieldDef.outline (field : FieldDef n) : FieldDef n := { field with rules := "" }

structure RecordType.SameOutline (left right : RecordType n) : Prop where
  name : left.name = right.name
  checks : left.checks = right.checks
  fields : left.fields.map FieldDef.outline = right.fields.map FieldDef.outline

-- Schemas that differ in rule strings alone: every reference leads to the same field, and the same
-- records conform. Whether the rule strings make plans is left open.
def Schema.SameOutline (S T : Schema n) : Prop := ∀ id, (S id).SameOutline (T id)

theorem outline_eq_iff (field other : FieldDef n) : field.outline = other.outline ↔
    field.name = other.name ∧ field.type = other.type ∧ field.exported = other.exported := by
  simp [FieldDef.outline]

theorem same_outline_symm (same : S.SameOutline T) : T.SameOutline S := fun id =>
  ⟨(same id).name.symm, (same id).checks.symm, (same id).fields.symm⟩

theorem same_outline_trans {U : Schema n} (same : S.SameOutline T) (more : T.SameOutline U) :
    S.SameOutline U := fun id =>
  ⟨(same id).name.trans (more id).name, (same id).checks.trans (more id).checks,
    (same id).fields.trans (more id).fields⟩

def Schema.redeclare (S : Schema n) (id : Fin n) (index : Nat) (rules : String) : Schema n :=
  Function.update S id { S id with fields := (S id).fields.modify index ({ · with rules }) }

theorem redeclared_other (S : Schema n) (id : Fin n) (index : Nat) (rules : String) (other : Fin n)
    (different : other ≠ id) : S.redeclare id index rules other = S other :=
  Function.update_of_ne different _ _

theorem redeclared_outline (S : Schema n) (id : Fin n) (index : Nat) (rules : String) :
    S.SameOutline (S.redeclare id index rules) := by
  intro other
  by_cases same : other = id
  · subst same
    rw [Schema.redeclare, Function.update_self]
    refine ⟨rfl, rfl, List.ext_getElem? fun place => ?_⟩
    rw [List.getElem?_map, List.getElem?_map, List.getElem?_modify]
    cases (S other).fields[place]? with
    | none => rfl
    | some field => by_cases here : index = place <;> simp [here, FieldDef.outline]
  · rw [redeclared_other S id index rules other same]
    exact ⟨rfl, rfl, rfl⟩

def FieldDef.redeclare (field : FieldDef n) (index : Nat) (rules : String) (place : Nat) : FieldDef n :=
  if index = place then { field with rules } else field

theorem redeclared_field (S : Schema n) (id : Fin n) (index : Nat) (rules : String) (place : Nat) :
    (S.redeclare id index rules id).fields[place]? =
      ((S id).fields[place]?).map (·.redeclare index rules place) := by
  rw [Schema.redeclare, Function.update_self, List.getElem?_modify]
  rfl

theorem redeclared_there (id : Fin n) (index : Nat) (rules : String) (place : Nat) (field : FieldDef n)
    (there : (S id).fields[place]? = some field) :
    (S.redeclare id index rules id).fields[place]? = some (field.redeclare index rules place) := by
  rw [redeclared_field, there, Option.map_some]

theorem redeclared_here (field : FieldDef n) (index : Nat) (rules : String) :
    field.redeclare index rules index = { field with rules } := if_pos rfl

theorem redeclared_elsewhere (field : FieldDef n) (index : Nat) (rules : String) (place : Nat)
    (different : index ≠ place) : field.redeclare index rules place = field := if_neg different

theorem redeclared_name (field : FieldDef n) (index : Nat) (rules : String) (place : Nat) :
    (field.redeclare index rules place).name = field.name ∧
      (field.redeclare index rules place).exported = field.exported := by
  rw [FieldDef.redeclare]
  split <;> exact ⟨rfl, rfl⟩

theorem find_field_outline (name : String) (fields : List (FieldDef n)) (start : Nat) :
    findField name (fields.map FieldDef.outline) start =
      (findField name fields start).map fun (index, field) => (index, field.outline) := by
  induction fields generalizing start with
  | nil => rfl
  | cons first rest ih =>
      rw [List.map_cons, findField, findField, ih]
      by_cases same : first.name = name
      · simp [FieldDef.outline, same]
      · simp [FieldDef.outline, same]

theorem field_outline (same : S.SameOutline T) (id : Fin n) (name : String) :
    ((S id).field? name).map (fun (index, field) => (index, field.outline)) =
      ((T id).field? name).map fun (index, field) => (index, field.outline) := by
  rw [RecordType.field?, RecordType.field?, ← find_field_outline, ← find_field_outline, (same id).fields]

namespace FieldPath

theorem resolve_steps_outline (same : S.SameOutline T) (text : String) (segments : List String)
    (current : Fin n) (passed : List String) :
    resolveSteps S text current passed segments = resolveSteps T text current passed segments := by
  induction segments generalizing current passed with
  | nil => rfl
  | cons segment rest ih =>
      have found := field_outline same current segment
      have named : S.nameOf current = T.nameOf current := (same current).name
      rw [resolveSteps, resolveSteps, named]
      cases left : (S current).field? segment with
      | none =>
          rw [left] at found
          rw [Option.map_eq_none_iff.mp found.symm]
      | some entry =>
          rw [left] at found
          obtain ⟨other, right, sameEntry⟩ := Option.map_eq_some_iff.mp found.symm
          obtain ⟨sameIndex, sameField⟩ := Prod.mk.inj sameEntry
          obtain ⟨_, sameType, sameExport⟩ := (outline_eq_iff _ _).mp sameField
          simp only [right, sameIndex, sameType, sameExport, ih]

theorem resolve_outline (same : S.SameOutline T) : resolve S = resolve T := by
  funext root text
  rw [resolve, resolve, resolve_steps_outline same]

end FieldPath

theorem sibling_outline (same : S.SameOutline T) : FieldPath.sibling S = FieldPath.sibling T := by
  funext anchor text
  rw [FieldPath.sibling, FieldPath.sibling, FieldPath.resolve_outline same]

theorem other_sibling_outline (same : S.SameOutline T) : FieldPath.otherSibling S = FieldPath.otherSibling T := by
  funext anchor rule text
  rw [FieldPath.otherSibling, FieldPath.otherSibling, sibling_outline same]

theorem clause_outline (same : S.SameOutline T) : Constraint.ofClause S = Constraint.ofClause T := by
  funext catalog anchor clause
  cases clause with
  | leaf name param => rfl
  | relational op target =>
      rw [Constraint.ofClause, Constraint.ofClause, CrossRule.relationalOf, CrossRule.relationalOf,
        other_sibling_outline same]
  | presence kind targets =>
      rw [Constraint.ofClause, Constraint.ofClause, CrossRule.presenceOf, CrossRule.presenceOf,
        other_sibling_outline same]
  | conditional kind pairs =>
      rw [Constraint.ofClause, Constraint.ofClause, CrossRule.conditionalOf, CrossRule.conditionalOf,
        other_sibling_outline same]

theorem branch_outline (same : S.SameOutline T) : Constraint.ofBranch S = Constraint.ofBranch T := by
  funext catalog anchor clause
  cases clause <;> simp only [Constraint.ofBranch, clause_outline same]

namespace Rulebook

variable {book : Rulebook n}

theorem stage_outline (same : S.SameOutline T) : book.stage S = book.stage T := by
  funext anchor rule
  cases rule with
  | skip => rfl
  | omitEmpty => rfl
  | skipUnless pairs =>
      have conditionOutline : condition S = condition T := by
        funext anchor pair
        rw [condition, condition, sibling_outline same]
      rw [stage, stage, conditionOutline]
  | clause clause => rw [stage, stage, clause_outline same]
  | anyOf branches => rw [stage, stage, Constraint.ofBranches, Constraint.ofBranches, branch_outline same]

theorem field_events_outline (same : S.SameOutline T) : book.fieldEvents S = book.fieldEvents T := by
  funext id declared
  have named : S.nameOf id = T.nameOf id := (same id).name
  rw [fieldEvents, fieldEvents, stage_outline same, named]

theorem check_events_outline (same : S.SameOutline T) : book.checkEvents S = book.checkEvents T := by
  funext id check
  have named : S.nameOf id = T.nameOf id := (same id).name
  rw [checkEvents, checkEvents, stage_outline same, FieldPath.resolve_outline same, named]

theorem events_outline (same : S.SameOutline T) (id : Fin n) (unchanged : S id = T id) :
    book.events S id = book.events T id := by
  rw [events, events, field_events_outline same, check_events_outline same, unchanged]

theorem mem_redeclared_events (id : Fin n) (index : Nat) (rules : String) (event : Event n) :
    event ∈ book.events (S.redeclare id index rules) id ↔
      (∃ place field, (S id).fields[place]? = some field ∧
        event ∈ book.fieldEvents S id (field.redeclare index rules place, place)) ∨
      ∃ check ∈ (S id).checks, event ∈ book.checkEvents S id check := by
  have outline := redeclared_outline S id index rules
  rw [events, List.mem_append, List.mem_flatMap, List.mem_flatMap, ← field_events_outline outline,
    ← check_events_outline outline, ← (outline id).checks]
  refine or_congr ?_ Iff.rfl
  constructor
  · rintro ⟨⟨own, place⟩, listed, told⟩
    have declared := List.mem_zipIdx_iff_getElem?.mp listed
    dsimp only at declared
    rw [redeclared_field] at declared
    obtain ⟨field, there, rfl⟩ := Option.map_eq_some_iff.mp declared
    exact ⟨place, field, there, told⟩
  · rintro ⟨place, field, there, told⟩
    refine ⟨(_, place), List.mem_zipIdx_iff_getElem?.mpr ?_, told⟩
    exact redeclared_there id index rules place field there

theorem field_events_made (id : Fin n) (field : FieldDef n) (index : Nat) (rules : List Rule)
    (parsed : book.parse field.rules = .ok rules) (counted : .skip ∉ rules)
    (made : ∀ rule ∈ rules, ∃ stage, book.stage S (.declared id index field) rule = .ok stage) :
    book.fieldEvents S id (field, index) = (book.nested? field).toList.map .enter := by
  obtain ⟨stages, allMade⟩ := (mapM_ok_iff _ rules).mpr made
  have admitted : ¬rules.contains .skip := fun found => counted (List.contains_iff_mem.mp found)
  simp only [fieldEvents, parsed, if_neg admitted, allMade]

theorem stages_of_clean (id : Fin n) (field : FieldDef n) (index : Nat) (rules : List Rule)
    (parsed : book.parse field.rules = .ok rules) (counted : .skip ∉ rules)
    (clean : ∀ error, .fail error ∉ book.fieldEvents S id (field, index)) :
    ∀ rule ∈ rules, ∃ stage, book.stage S (.declared id index field) rule = .ok stage := by
  have admitted : ¬rules.contains .skip := fun found => counted (List.contains_iff_mem.mp found)
  refine (mapM_ok_iff _ rules).mp ?_
  simp only [fieldEvents, parsed, if_neg admitted] at clean
  cases made : rules.mapM (book.stage S (.declared id index field)) with
  | ok stages => exact ⟨stages, rfl⟩
  | error cause =>
      rw [made] at clean
      exact absurd List.mem_cons_self (clean _)

end Rulebook

mutual

theorem value_fits_outline (same : S.SameOutline T) (type : FieldType n) :
    (value : Value n) → value.fits S type = value.fits T type
  | .nil | .bool _ | .int _ | .uint _ | .float _ | .str _ | .time _ | .seq _ => by simp only [Value.fits]
  | .record id fields => by
      rw [Value.fits, Value.fits, fields_fit_outline same _ _ (same id).fields fields]

theorem fields_fit_outline (same : S.SameOutline T) (declared others : List (FieldDef n))
    (alike : declared.map FieldDef.outline = others.map FieldDef.outline) :
    (values : List (Value n)) → fieldsFit S declared values = fieldsFit T others values
  | [] => by
      have types (fields : List (FieldDef n)) : fields.all (·.type.isOptional) =
          (fields.map FieldDef.outline).all (·.type.isOptional) := by
        rw [List.all_map]
        rfl
      rw [fieldsFit, fieldsFit, types declared, types others, alike]
  | value :: rest => by
      match declared, others with
      | [], [] => rw [fieldsFit, fieldsFit]
      | [], _ :: _ => cases alike
      | _ :: _, [] => cases alike
      | field :: more, other :: moreOthers =>
          obtain ⟨first, later⟩ := List.cons.inj alike
          obtain ⟨_, sameType, _⟩ := (outline_eq_iff field other).mp first
          rw [fieldsFit, fieldsFit, sameType, value_fits_outline same,
            fields_fit_outline same more moreOthers later rest]

end

theorem fits_outline (same : S.SameOutline T) (record : Instance n) : record.fits S = record.fits T :=
  fields_fit_outline same _ _ ((same record.type).fields) record.fields

open Rulebook

theorem compiles_iff (book : Rulebook n) (S : Schema n) (calls : List (Fin n)) (id : Fin n) :
    (((Validator.ofRulebook book).after S calls).compile S id).1.isOk = true ↔
      ∃ ids, id ∈ ids ∧ Closed (book.events S) ids := by
  obtain ⟨sameBook, ready⟩ :=
    Validator.ready_after (.ofRulebook book) calls (Validator.ready_empty S book)
  have call := Validator.compile_call _ S id ready
  constructor
  · intro made
    cases compiled : ((Validator.ofRulebook book).after S calls).compile S id with
    | mk outcome next =>
        rw [compiled] at made
        cases outcome with
        | error error => cases made
        | ok plan =>
            obtain ⟨_, nextReady, there⟩ := Validator.compiled_ready compiled
            exact ⟨next.shelf.ids, Shelf.mem_of_plan there, nextReady.closed⟩
  · rintro ⟨ids, there, closed⟩
    have failure := Validator.call_failure ready call
    have passed := first_failure_past_closed _ ids closed [] [.enter id]
    rw [List.append_nil, tour, dif_pos there, tour] at passed
    rw [sameBook] at failure
    have clean := failure.trans passed.symm
    cases ends : (((Validator.ofRulebook book).after S calls).compile S id).1 with
    | error error =>
        rw [ends] at clean
        cases clean
    | ok plan => rfl

end RecordRules
