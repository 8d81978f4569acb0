import RecordRules.Proofs.Cache
import RecordRules.Proofs.Refinement

set_option autoImplicit false

namespace RecordRules

variable {n : Nat} {S : Schema n}

theorem leaf_code (rule : LeafRule n) (value : Value n) (violation : Violation)
    (failed : rule.violation? value = some violation) : violation.code = rule.name := by
  obtain ⟨own, _, rfl⟩ := Option.map_eq_some_iff.mp failed
  cases rule.param with
  | none => rfl
  | some param =>
      dsimp only
      split <;> rfl

theorem comparison_code (record : Instance n) (value : Value n) (op : Comparison) (text : String)
    (violation : Violation) (failed : op.violation? S record value text = some violation) :
    violation.code = op.fieldTag := by
  rw [Comparison.violation?] at failed
  split at failed
  · exact Option.some.inj failed ▸ rfl
  · exact Option.some.inj failed ▸ rfl
  · split at failed
    · cases failed
    · exact Option.some.inj failed ▸ rfl
    · exact Option.some.inj failed ▸ rfl

theorem clause_code (catalog : Catalog n) (record : Instance n) (value : Value n) (clause : Clause)
    (violation : Violation) (failed : clause.violation? catalog S record value = some violation) :
    violation.code = clause.tag := by
  cases clause with
  | leaf name param =>
      rw [Clause.violation?] at failed
      split at failed
      · exact leaf_code _ value violation failed
      · cases failed
  | relational op text => exact comparison_code record value op text violation failed
  | presence kind texts =>
      rw [Clause.violation?] at failed
      split at failed
      · exact Option.some.inj failed ▸ rfl
      · cases failed
  | conditional kind pairs =>
      rw [Clause.violation?] at failed
      split at failed
      · exact Option.some.inj failed ▸ rfl
      · cases failed

def Clause.Fails (catalog : Catalog n) (S : Schema n) (record : Instance n) (value : Value n)
    (clause : Clause) (violation : Violation) : Prop :=
  clause.violation? catalog S record value = some violation ∧ violation.code = clause.tag

theorem branches_fail (catalog : Catalog n) (record : Instance n) (value : Value n) (branches : List Clause)
    (nested : List Violation) (failed : branches.mapM (Clause.violation? catalog S record value) = some nested) :
    List.Forall₂ (Clause.Fails catalog S record value) branches nested := by
  induction branches generalizing nested with
  | nil => exact Option.some.inj failed ▸ .nil
  | cons clause rest ih =>
      rw [List.mapM_cons] at failed
      obtain ⟨first, firstFailed, failed⟩ := Option.bind_eq_some_iff.mp failed
      obtain ⟨others, othersFailed, failed⟩ := Option.bind_eq_some_iff.mp failed
      obtain rfl := Option.some.inj failed
      exact .cons ⟨firstFailed, clause_code catalog record value clause first firstFailed⟩
        (ih others othersFailed)

theorem codes_of_branches {catalog : Catalog n} {record : Instance n} {value : Value n} {branches : List Clause}
    {nested : List Violation} (failed : List.Forall₂ (Clause.Fails catalog S record value) branches nested) :
    nested.map Violation.code = branches.map Clause.tag := by
  induction failed with
  | nil => rfl
  | cons first _ ih => rw [List.map_cons, List.map_cons, first.2, ih]

structure Rule.Labels (catalog : Catalog n) (S : Schema n) (record : Instance n) (value : Value n)
    (rule : Rule) (violation : Violation) : Prop where
  noGate : rule.isGate = false
  code : violation.code = rule.tag
  branches : ∀ branches, rule = .anyOf branches →
    List.Forall₂ (Clause.Fails catalog S record value) branches violation.nested ∧
      "|".intercalate (violation.nested.map Violation.code) = violation.code

theorem rule_labels (catalog : Catalog n) (record : Instance n) (value : Value n) (rule : Rule)
    (violation : Violation) (failed : rule.violation? catalog S record value = some violation) :
    rule.Labels catalog S record value violation := by
  cases rule with
  | skip => cases failed
  | omitEmpty => cases failed
  | skipUnless pairs => cases failed
  | clause body =>
      exact ⟨rfl, clause_code catalog record value body violation failed, fun _ same => nomatch same⟩
  | anyOf branches =>
      rw [Rule.violation?] at failed
      split at failed
      · cases failed
      · obtain ⟨nested, branchesFailed, rfl⟩ := Option.map_eq_some_iff.mp failed
        have each := branches_fail catalog record value branches nested branchesFailed
        refine ⟨rfl, rfl, fun own same => ?_⟩
        obtain rfl := Rule.anyOf.inj same
        exact ⟨each, congrArg ("|".intercalate) (codes_of_branches each)⟩

inductive Instance.LeadsTo (S : Schema n) : Instance n → List String → Instance n → Prop where
  | here (record : Instance n) : LeadsTo S record [] record
  | through {record inner within : Instance n} {index : Nat} {field : FieldDef n} {names : List String}
      (declared : (S record.type).fields[index]? = some field) (exported : field.exported = true)
      (type : field.type.record? = some inner.type)
      (held : record.field index = .record inner.type inner.fields)
      (onward : LeadsTo S inner names within) : LeadsTo S record (field.name :: names) within

inductive Instance.Declares (S : Schema n) (record : Instance n) : String → String → Value n → Prop where
  | field {index : Nat} {field : FieldDef n} (there : (S record.type).fields[index]? = some field) :
      Declares S record field.name field.rules (record.field index)
  | check {check : RecordCheck} {value : Value n} (there : check ∈ (S record.type).checks)
      (reached : record.lookup S check.anchor = .ok value) :
      Declares S record check.anchor check.rules value

def address (names : List String) (anchor : String) : String :=
  names.foldr (fun name rest => name ++ "." ++ rest) anchor

-- Where a violation comes from: a rule of a rule string that a record inside the record is subject to.
inductive Violation.Origin (book : Rulebook n) (S : Schema n) (record : Instance n) (violation : Violation) :
    Prop where
  | of {names : List String} {within : Instance n} {anchor rules : String} {value : Value n}
      {parsed : List Rule} {rule : Rule} (leads : record.LeadsTo S names within)
      (declares : within.Declares S anchor rules value)
      (located : violation.field = some (address names anchor)) (read : book.parse rules = .ok parsed)
      (listed : rule ∈ parsed) (labels : rule.Labels book.catalog S within value violation) :
      Origin book S record violation

variable {book : Rulebook n}

theorem labels_with_field {catalog : Catalog n} {record : Instance n} {value : Value n} {rule : Rule}
    {violation : Violation} (labels : rule.Labels catalog S record value violation) (field : String) :
    rule.Labels catalog S record value (violation.withField field) :=
  ⟨labels.noGate, labels.code, labels.branches⟩

theorem interpreted_origin {record : Instance n} {anchor rules : String} {value : Value n} {parsed : List Rule}
    (declares : record.Declares S anchor rules value) (read : book.parse rules = .ok parsed)
    (violation : Violation) (reported : violation ∈ book.interpretRules S record anchor value parsed) :
    violation.Origin book S record := by
  obtain ⟨own, told, rfl⟩ := List.mem_map.mp reported
  obtain ⟨⟨rule, place⟩, there, failed⟩ := List.mem_filterMap.mp told
  dsimp only at failed
  split at failed
  · exact .of (.here record) declares rfl read (List.fst_mem_of_mem_zipIdx there)
      (labels_with_field (rule_labels book.catalog record value rule own failed) anchor)
  · cases failed

theorem origin_below {record inner : Instance n} {index : Nat} {field : FieldDef n} {violation : Violation}
    (declared : (S record.type).fields[index]? = some field) (exported : field.exported = true)
    (type : field.type.record? = some inner.type) (held : record.field index = .record inner.type inner.fields)
    (origin : violation.Origin book S inner) : (violation.under field.name).Origin book S record := by
  cases origin with
  | of leads declares located read listed labels =>
      refine .of (.through declared exported type held leads) declares ?_ read listed (labels_with_field labels _)
      rw [Violation.under, located]
      rfl

theorem check_origin (record : Instance n) (fit : record.fits S) (follow : Fin n → Option (Plan n (Fin n)))
    (part : FieldPlan n (Fin n)) (drawn : book.OfCheck S record.type part) (violation : Violation)
    (reported : violation ∈ part.report S follow record) : violation.Origin book S record := by
  obtain ⟨check, listed, made⟩ := drawn
  have agrees := Rulebook.check_agrees record fit check (some part) made follow
  rw [Option.toList_some, List.flatMap_singleton] at agrees
  rw [agrees, Rulebook.interpretCheck] at reported
  split at reported
  case h_1 rules value parsed reached =>
    split at reported
    case isTrue => cases reported
    case isFalse => exact interpreted_origin (.check listed reached) parsed violation reported
  case h_2 => cases reported

theorem record_held {value : Value n} {inner : Instance n} (held : value.record? = some inner) :
    value = .record inner.type inner.fields := by
  cases value with
  | record type fields => exact Option.some.inj held ▸ rfl
  | _ => cases held

theorem link_origin (record inner : Instance n) (fit : record.fits S) (index : Nat) (field : FieldDef n)
    (declared : (S record.type).fields[index]? = some field) (id : Fin n) (linked : book.nested? field = some id)
    (held : record.field index = .record inner.type inner.fields) :
    inner.type = id ∧ inner.fits S ∧
      ∀ violation : Violation, violation.Origin book S inner → (violation.under field.name).Origin book S record := by
  obtain ⟨_, exported, type⟩ := (Rulebook.nested_eq_some field id).mp linked
  have fieldFits := fits_field S record fit index field declared
  rw [held, fits_record] at fieldFits
  obtain ⟨sameType, innerFits⟩ := fieldFits
  obtain rfl := Option.some.inj (type.symm.trans sameType)
  exact ⟨rfl, innerFits, fun violation => origin_below declared exported type held⟩

theorem blueprint_origin (record : Instance n) (fit : record.fits S) (violation : Violation)
    (reported : violation ∈
      (book.blueprint S record.type).report S (fun id => some (book.blueprint S id)) record) :
    violation.Origin book S record := by
  induction size : sizeOf record using Nat.strongRecOn generalizing record violation with
  | _ limit ih =>
      rw [Plan.report_parts] at reported
      obtain ⟨part, member, reported⟩ := List.mem_flatMap.mp reported
      rcases Rulebook.mem_blueprint record.type part member with field | check
      · obtain ⟨index, field, stages, declared, stagesRead, rfl⟩ := field
        obtain ⟨rules, parsed, ⟨_, skipped⟩ | ⟨_, ownStages, same, made⟩⟩ :=
          Rulebook.stages_ok (Rulebook.field_stages_ok stagesRead)
        · cases skipped
        · obtain rfl := Option.some.inj same
          simp only [FieldPlan.report, FieldPath.read_declared] at reported
          rcases List.mem_append.mp reported with own | below
          · rw [own_report_agrees record rfl fit _ rules stages _ made] at own
            exact interpreted_origin (.field declared) parsed violation own
          · split at below
            case h_1 inner plan isRecord leads =>
              obtain ⟨innerViolation, told, rfl⟩ := List.mem_map.mp below
              obtain ⟨id, linked, same⟩ := Option.bind_eq_some_iff.mp leads
              obtain rfl := Option.some.inj same
              have held := record_held isRecord
              obtain ⟨rfl, innerFits, outer⟩ := link_origin record inner fit index field declared id linked held
              have smaller := size ▸ record.size_field index held
              exact outer _ (ih _ smaller inner innerFits _ told rfl)
            case h_2 => cases below
      · exact check_origin record fit _ part check violation reported

namespace Validator

theorem violations_have_origins (book : Rulebook n) (S : Schema n) (calls more : List (Fin n)) (id : Fin n)
    (plan : Plan n Slot) (next : Validator n)
    (compiled : ((ofRulebook book).after S calls).compile S id = (.ok plan, next)) (record : Instance n)
    (type : record.type = id) (fit : record.fits S) (violation : Violation)
    (reported : violation ∈ (next.after S more).report S plan record) : violation.Origin book S record := by
  obtain ⟨rfl, ready, there⟩ := compiled_ready compiled
  subst type
  rw [published_report next ready record.type plan there more record] at reported
  exact blueprint_origin record fit violation reported

def grumbling : Rulebook 1 :=
  Rulebook.standard.withCheck "grumble" fun _ =>
    some ⟨"elsewhere", "No", some "nowhere", [], [.ofCode "deeper" "No"]⟩

def shapes : Schema 1 := fun id =>
  { name := "Shape"
    fields := [⟨"tint", .str, "grumble|startswith=a", true⟩, ⟨"base", .optional (.record id), "", true⟩]
    checks := [⟨"base.tint", "grumble"⟩] }

def shapeId : Fin 1 := ⟨0, Nat.one_pos⟩

def shape : Instance 1 := ⟨shapeId, [.str "ash", .record shapeId [.str "dull", .nil]]⟩

theorem grumbles_have_origins :
    ∃ plan next, ((ofRulebook grumbling).after shapes []).compile shapes shapeId = (.ok plan, next) ∧
      shape.fits shapes ∧
      (next.report shapes plan shape).map (fun violation => (violation.code, violation.field)) =
        [("grumble|startswith", some "base.tint"), ("grumble", some "base.tint")] ∧
      ∀ violation ∈ next.report shapes plan shape, violation.Origin grumbling shapes shape := by
  have fit : shape.fits shapes := by decide
  let outcome := ((ofRulebook grumbling).after shapes []).compile shapes shapeId
  have told :
      (outcome.1.map fun plan => (outcome.2.report shapes plan shape).map fun violation =>
        (violation.code, violation.field)) =
        .ok [("grumble|startswith", some "base.tint"), ("grumble", some "base.tint")] := by
    simp only [outcome]
    cbv
  obtain ⟨plan, compiled, gists⟩ := ok_of_map told
  have compiled : outcome = (.ok plan, outcome.2) := Prod.ext compiled rfl
  exact ⟨plan, outcome.2, compiled, fit, gists, fun violation reported =>
    violations_have_origins grumbling shapes [] [] shapeId plan outcome.2 compiled shape rfl fit violation reported⟩

end Validator

end RecordRules
