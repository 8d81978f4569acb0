import RecordRules.Proofs.Comparability
import RecordRules.Proofs.References

set_option autoImplicit false

namespace RecordRules

variable {n : Nat} {S : Schema n}

namespace FieldPath

theorem resolves_some {root : Fin n} {names : List String} {steps : List (Step n)}
    (resolves : Resolves S root names steps) : steps ≠ [] := by
  cases resolves <;> exact List.cons_ne_nil _ _

theorem resolves_once {root : Fin n} {names : List String} {steps others : List (Step n)}
    (resolves : Resolves S root names steps) (again : Resolves S root names others) : steps = others := by
  induction resolves generalizing others with
  | last found =>
      cases again with
      | last foundAgain =>
          obtain ⟨rfl, rfl⟩ := Prod.mk.inj (Option.some.inj (found.symm.trans foundAgain))
          rfl
  | on found record more ih =>
      cases again with
      | on foundAgain recordAgain moreAgain =>
          obtain ⟨rfl, rfl⟩ := Prod.mk.inj (Option.some.inj (found.symm.trans foundAgain))
          obtain rfl := Option.some.inj (record.symm.trans recordAgain)
          rw [ih moreAgain]

-- Paths are told apart by positions. A position is that of one field only, so that positions stand for
-- names.
theorem names_of_indices {root : Fin n} {names others : List String} {steps more : List (Step n)}
    (resolves : Resolves S root names steps) (again : Resolves S root others more)
    (same : steps.map Step.index = more.map Step.index) : names = others := by
  induction resolves generalizing others more with
  | last found =>
      cases again with
      | last foundAgain =>
          obtain ⟨rfl, _⟩ := List.cons.inj same
          obtain ⟨there, rfl⟩ := field_of_name _ _ _ _ found
          obtain ⟨thereAgain, rfl⟩ := field_of_name _ _ _ _ foundAgain
          rw [Option.some.inj (there.symm.trans thereAgain)]
      | on _ _ deeper =>
          exact absurd (List.map_eq_nil_iff.mp (List.cons.inj same).2.symm) (resolves_some deeper)
  | on found record deeper ih =>
      cases again with
      | last => exact absurd (List.map_eq_nil_iff.mp (List.cons.inj same).2) (resolves_some deeper)
      | on foundAgain recordAgain deeperAgain =>
          obtain ⟨rfl, behind⟩ := List.cons.inj same
          obtain ⟨there, rfl⟩ := field_of_name _ _ _ _ found
          obtain ⟨thereAgain, rfl⟩ := field_of_name _ _ _ _ foundAgain
          obtain rfl := Option.some.inj (there.symm.trans thereAgain)
          obtain rfl := Option.some.inj (record.symm.trans recordAgain)
          rw [ih deeperAgain behind]

def Spelled (S : Schema n) (path : FieldPath n) : Prop :=
  Resolves S path.root ((Text.pieces '.' path.text.toList).map String.ofList) path.steps

theorem resolved_spelled {root : Fin n} {text : String} {path : FieldPath n}
    (resolved : resolve S root text = .ok path) : path.text = text ∧ path.root = root ∧ path.Spelled S := by
  obtain ⟨rfl, rfl, resolves⟩ := resolve_ok S root text path resolved
  exact ⟨rfl, rfl, resolves⟩

theorem same_field_iff {path other : FieldPath n} (spelled : path.Spelled S) (again : other.Spelled S)
    (root : path.root = other.root) : path.sameField other = true ↔ path.text = other.text := by
  rw [sameField, Bool.and_eq_true, decide_eq_true_iff, decide_eq_true_iff, and_iff_right root]
  constructor
  · intro same
    unfold Spelled at again
    rw [← root] at again
    have segments := names_of_indices spelled again same
    have whole (text : String) : dotted ((Text.pieces '.' text.toList).map String.ofList) = text :=
      ((segments_iff _ text (segments_ne_nil text)).mp rfl).1
    rw [← whole path.text, segments, whole]
  · intro same
    unfold Spelled at again
    rw [← root, ← same] at again
    exact congrArg (List.map Step.index) (resolves_once spelled again)

end FieldPath

-- No two fields of a record type have one name, and no name can be taken for several segments.
structure Schema.NamesApart (S : Schema n) : Prop where
  distinct : ∀ id, ((S id).fields.map FieldDef.name).Nodup
  plain : ∀ id, ∀ field ∈ (S id).fields, '.' ∉ field.name.toList

inductive Schema.IsAnchor (S : Schema n) : FieldPath n → Prop where
  | field {id : Fin n} {index : Nat} {field : FieldDef n} (declared : (S id).fields[index]? = some field) :
      IsAnchor S (.declared id index field)
  | check {id : Fin n} {text : String} {anchor : FieldPath n}
      (resolved : FieldPath.resolve S id text = .ok anchor) : IsAnchor S anchor

theorem anchor_spelled (names : S.NamesApart) {anchor : FieldPath n} (isAnchor : S.IsAnchor anchor) :
    anchor.Spelled S := by
  cases isAnchor with
  | check resolved => exact (FieldPath.resolved_spelled resolved).2.2
  | @field id index field declared =>
      have member : field ∈ (S id).fields := List.mem_of_getElem? declared
      have whole : Text.pieces '.' field.name.toList = [field.name.toList] :=
        List.splitOn_eq_singleton (names.plain id field member)
      unfold FieldPath.Spelled
      rw [FieldPath.declared, whole, List.map_singleton, String.ofList_toList]
      exact .last (field_of_distinct _ (names.distinct id) index field declared)

theorem own_text_iff (names : S.NamesApart) {anchor target : FieldPath n} (isAnchor : S.IsAnchor anchor)
    {text : String} (resolved : FieldPath.resolve S anchor.root text = .ok target) :
    target.sameField anchor = true ↔ text = anchor.text := by
  obtain ⟨rfl, root, spelled⟩ := FieldPath.resolved_spelled resolved
  exact FieldPath.same_field_iff spelled (anchor_spelled names isAnchor) root

def Clause.references : Clause → List String
  | leaf _ _ => []
  | relational _ target => [target]
  | presence _ targets => targets
  | conditional _ pairs => pairs.map Pair.field

def Clause.isLeaf : Clause → Bool
  | leaf _ _ => true
  | relational _ _ | presence _ _ | conditional _ _ => false

def Schema.Knows (S : Schema n) (root : Fin n) (text : String) : Prop :=
  ∃ target, FieldPath.resolve S root text = .ok target

theorem other_sibling_resolved {anchor target : FieldPath n} {text : String}
    (resolved : FieldPath.resolve S anchor.root text = .ok target) (rule : String) :
    anchor.otherSibling S rule text =
      if target.sameField anchor then .error (.selfReference rule text) else .ok target := by
  rw [FieldPath.otherSibling, FieldPath.sibling, resolved]
  rfl

section Refused

variable {anchor : FieldPath n} (names : S.NamesApart) (isAnchor : S.IsAnchor anchor)
include names isAnchor

theorem other_sibling_cases {text : String} (known : S.Knows anchor.root text) (rule : String) :
    (text = anchor.text ∧ anchor.otherSibling S rule text = .error (.selfReference rule anchor.text)) ∨
      (text ≠ anchor.text ∧ ∃ target, anchor.otherSibling S rule text = .ok target) := by
  obtain ⟨target, resolved⟩ := known
  have own := own_text_iff names isAnchor resolved
  rw [other_sibling_resolved resolved]
  by_cases same : text = anchor.text
  · rw [if_pos (own.mpr same), same]
    exact .inl ⟨rfl, rfl⟩
  · rw [if_neg fun found => same (own.mp found)]
    exact .inr ⟨same, target, rfl⟩

theorem relational_refused {text : String} (known : S.Knows anchor.root text) (op : Comparison)
    (rule field : String) :
    CrossRule.relationalOf S anchor op text = .error (.selfReference rule field) ↔
      anchor.text ∈ [text] ∧ rule = op.fieldTag ∧ field = anchor.text := by
  rw [CrossRule.relationalOf, List.mem_singleton, eq_comm (a := anchor.text)]
  rcases other_sibling_cases names isAnchor known op.fieldTag with ⟨same, refused⟩ | ⟨different, target, made⟩
  · rw [refused, and_iff_right same, ← RuleError.selfReference.injEq, eq_comm (a := RuleError.selfReference rule field)]
    exact ⟨fun failed => Except.error.inj failed, fun told => congrArg Except.error told⟩
  · rw [made]
    constructor
    · -- Types that cannot be compared are another error.
      intro failed
      simp only [bind, Except.bind] at failed
      split at failed
      · split at failed <;> cases failed
      · cases failed
    · exact fun told => absurd told.1 different

theorem presence_refused {texts : List String} (known : ∀ text ∈ texts, S.Knows anchor.root text)
    (kind : Presence) (rule field : String) :
    CrossRule.presenceOf S anchor kind texts = .error (.selfReference rule field) ↔
      anchor.text ∈ texts ∧ rule = kind.tag ∧ field = anchor.text := by
  have each := fun text member => other_sibling_cases names isAnchor (known text member) kind.tag
  rw [CrossRule.presenceOf, return_error_iff, mapM_refused _ texts (· = anchor.text) _ each,
    exists_eq_right, RuleError.selfReference.injEq]

theorem conditional_refused {pairs : List Pair} (known : ∀ pair ∈ pairs, S.Knows anchor.root pair.field)
    (kind : Conditional) (rule field : String) :
    CrossRule.conditionalOf S anchor kind pairs = .error (.selfReference rule field) ↔
      anchor.text ∈ pairs.map Pair.field ∧ rule = kind.tag ∧ field = anchor.text := by
  rw [CrossRule.conditionalOf, return_error_iff, mapM_refused _ pairs (·.field = anchor.text)
    (.selfReference kind.tag anchor.text), RuleError.selfReference.injEq, List.mem_map]
  intro pair member
  have either := other_sibling_cases names isAnchor (known pair member) kind.tag
  rcases either with ⟨same, refused⟩ | ⟨different, target, made⟩
  · exact .inl ⟨same, by rw [refused]; rfl⟩
  · exact .inr ⟨different, ⟨target, pair.literal⟩, by rw [made]; rfl⟩

theorem clause_refused (catalog : Catalog n) (clause : Clause) (notLeaf : clause.isLeaf = false)
    (known : ∀ text ∈ clause.references, S.Knows anchor.root text) (rule field : String) :
    Constraint.ofClause S catalog anchor clause = .error (.selfReference rule field) ↔
      anchor.text ∈ clause.references ∧ rule = clause.tag ∧ field = anchor.text := by
  cases clause with
  | leaf name param => cases notLeaf
  | relational op text =>
      exact (map_error_iff _ _ _).trans
        (relational_refused names isAnchor (known text List.mem_cons_self) op rule field)
  | presence kind texts => exact (map_error_iff _ _ _).trans (presence_refused names isAnchor known kind rule field)
  | conditional kind pairs =>
      exact (map_error_iff _ _ _).trans
        (conditional_refused names isAnchor (List.forall_mem_map.mp known) kind rule field)

end Refused

namespace Rulebook

variable {book : Rulebook n}

theorem gate_made_iff (anchor : FieldPath n) (pairs : List Pair) :
    (∃ stage, book.stage S anchor (.skipUnless pairs) = .ok stage) ↔
      ∀ pair ∈ pairs, S.Knows anchor.root pair.field := by
  refine (return_ok_iff _ _).trans ((mapM_ok_iff _ pairs).trans (forall₂_congr fun pair _ => ?_))
  refine (return_ok_iff (anchor.sibling S pair.field) _).trans ?_
  rw [FieldPath.sibling, Schema.Knows]
  cases FieldPath.resolve S anchor.root pair.field with
  | error error => exact iff_of_false (by rintro ⟨_, ⟨⟩⟩) (by rintro ⟨_, ⟨⟩⟩)
  | ok target => exact ⟨fun _ => ⟨target, rfl⟩, fun _ => ⟨target, rfl⟩⟩

theorem gate_refused (anchor : FieldPath n) (pairs : List Pair) (error : RuleError)
    (failed : book.stage S anchor (.skipUnless pairs) = .error error) : ∃ cause, error = .path cause := by
  obtain ⟨_, pair, _, _, _, unread⟩ := (mapM_error_iff _ pairs _).mp ((return_error_iff _ _ _).mp failed)
  have unresolved := (return_error_iff (anchor.sibling S pair.field) _ _).mp unread
  rw [FieldPath.sibling] at unresolved
  cases resolved : FieldPath.resolve S anchor.root pair.field with
  | error cause =>
      rw [resolved] at unresolved
      exact ⟨cause, (Except.error.inj unresolved).symm⟩
  | ok target =>
      rw [resolved] at unresolved
      cases unresolved

theorem group_error_iff (anchor : FieldPath n) (branches : List Clause) (error : RuleError) :
    book.stage S anchor (.anyOf branches) = .error error ↔ ∃ front branch back,
      branches = front ++ branch :: back ∧
      (∀ earlier ∈ front, ∃ constraint, Constraint.ofBranch S book.catalog anchor earlier = .ok constraint) ∧
      Constraint.ofBranch S book.catalog anchor branch = .error error := by
  rw [stage, map_error_iff, Constraint.ofBranches, return_error_iff, mapM_error_iff]

theorem stages_error_iff (anchor : FieldPath n) {rules : String} {parsed : List Rule}
    (read : book.parse rules = .ok parsed) (counted : Rule.skip ∉ parsed) (error : RuleError) :
    book.stages? S anchor rules = .error error ↔ ∃ front rule back, parsed = front ++ rule :: back ∧
      (∀ earlier ∈ front, ∃ stage, book.stage S anchor earlier = .ok stage) ∧
      book.stage S anchor rule = .error error := by
  have admitted : ¬parsed.contains .skip := fun found => counted (List.contains_iff_mem.mp found)
  rw [← mapM_error_iff, ← return_error_iff (parsed.mapM (book.stage S anchor)) some error, stages?, read]
  simp only [bind, Except.bind, if_neg admitted]

-- A gate may refer to its own anchor. Leaf checks are left out, since a factory that a program adds
-- may refuse a parameter with any error.
structure RefusesSelf (book : Rulebook n) (S : Schema n) (anchor : FieldPath n) : Prop where
  alone : ∀ clause : Clause, clause.isLeaf = false → (∀ text ∈ clause.references, S.Knows anchor.root text) →
    ∀ rule field, book.stage S anchor (.clause clause) = .error (.selfReference rule field) ↔
      anchor.text ∈ clause.references ∧ rule = clause.tag ∧ field = anchor.text
  branch : ∀ (op : Comparison) text, S.Knows anchor.root text → ∀ rule field,
    Constraint.ofBranch S book.catalog anchor (.relational op text) = .error (.selfReference rule field) ↔
      text = anchor.text ∧ rule = op.fieldTag ∧ field = anchor.text
  group : ∀ branches error, book.stage S anchor (.anyOf branches) = .error error ↔ ∃ front branch back,
    branches = front ++ branch :: back ∧
    (∀ earlier ∈ front, ∃ constraint, Constraint.ofBranch S book.catalog anchor earlier = .ok constraint) ∧
    Constraint.ofBranch S book.catalog anchor branch = .error error
  gate : ∀ pairs, (∀ rule field, book.stage S anchor (.skipUnless pairs) ≠ .error (.selfReference rule field)) ∧
    ((∃ stage, book.stage S anchor (.skipUnless pairs) = .ok stage) ↔
      ∀ pair ∈ pairs, S.Knows anchor.root pair.field)
  row : ∀ rules parsed, book.parse rules = .ok parsed → Rule.skip ∉ parsed → ∀ error,
    book.stages? S anchor rules = .error error ↔ ∃ front rule back, parsed = front ++ rule :: back ∧
      (∀ earlier ∈ front, ∃ stage, book.stage S anchor earlier = .ok stage) ∧
      book.stage S anchor rule = .error error

theorem refuses_self (book : Rulebook n) (names : S.NamesApart) {anchor : FieldPath n}
    (isAnchor : S.IsAnchor anchor) : book.RefusesSelf S anchor where
  alone clause notLeaf known rule field :=
    (map_error_iff _ _ _).trans (clause_refused names isAnchor book.catalog clause notLeaf known rule field)
  branch op text known rule field := by
    refine (clause_refused names isAnchor book.catalog (.relational op text) rfl
      (List.forall_mem_singleton.mpr known) rule field).trans ?_
    rw [Clause.references, List.mem_singleton, eq_comm (a := anchor.text)]
    rfl
  group := group_error_iff anchor
  gate pairs := by
    refine ⟨fun rule field failed => ?_, gate_made_iff anchor pairs⟩
    obtain ⟨cause, told⟩ := gate_refused anchor pairs _ failed
    cases told
  row rules parsed read counted := stages_error_iff anchor read counted

end Rulebook

structure FieldPath.Apart (S : Schema n) (anchor target : FieldPath n) : Prop where
  resolved : ∃ text, resolve S anchor.root text = .ok target
  other : target.sameField anchor = false

section Apart

variable {anchor target : FieldPath n} {rule : CrossRule n}

theorem other_sibling_apart {tag text : String} (made : anchor.otherSibling S tag text = .ok target) :
    anchor.Apart S target := by
  have resolved := other_sibling_ok made
  rw [other_sibling_resolved resolved] at made
  split at made
  case isTrue => cases made
  case isFalse other => exact ⟨⟨text, resolved⟩, Bool.eq_false_iff.mpr other⟩

theorem relational_apart {op : Comparison} {text : String}
    (made : CrossRule.relationalOf S anchor op text = .ok rule) (member : target ∈ rule.targets) :
    anchor.Apart S target := by
  rw [CrossRule.relationalOf] at made
  obtain ⟨found, resolved, made⟩ := ok_of_bind made
  have same : rule = .relational op found := by
    split at made
    · split at made
      · exact (Except.ok.inj made).symm
      · cases made
    · exact (Except.ok.inj made).symm
  rw [same] at member
  exact List.mem_singleton.mp member ▸ other_sibling_apart resolved

theorem presence_apart {kind : Presence} {texts : List String}
    (made : CrossRule.presenceOf S anchor kind texts = .ok rule) (member : target ∈ rule.targets) :
    anchor.Apart S target := by
  rw [CrossRule.presenceOf] at made
  obtain ⟨targets, resolved, made⟩ := ok_of_bind made
  obtain rfl := Except.ok.inj made
  obtain ⟨text, _, found⟩ := pointwise_mem (pointwise_of_mapM _ texts targets resolved) target member
  exact other_sibling_apart found

theorem conditional_apart {kind : Conditional} {pairs : List Pair}
    (made : CrossRule.conditionalOf S anchor kind pairs = .ok rule) (member : target ∈ rule.targets) :
    anchor.Apart S target := by
  rw [CrossRule.conditionalOf] at made
  obtain ⟨conditions, resolved, made⟩ := ok_of_bind made
  obtain rfl := Except.ok.inj made
  obtain ⟨condition, listed, rfl⟩ := List.mem_map.mp member
  obtain ⟨pair, _, read⟩ := pointwise_mem (pointwise_of_mapM _ pairs conditions resolved) condition listed
  obtain ⟨target, found, read⟩ := ok_of_bind read
  obtain rfl := Except.ok.inj read
  exact other_sibling_apart found

theorem made_apart (made : rule.MadeAt S anchor) (member : target ∈ rule.targets) : anchor.Apart S target := by
  cases made with
  | relational made => exact relational_apart made member
  | presence made => exact presence_apart made member
  | conditional made => exact conditional_apart made member

end Apart

theorem blueprint_apart {book : Rulebook n} (id : Fin n) (part : FieldPlan n (Fin n))
    (member : part ∈ (book.blueprint S id).parts) :
    S.IsAnchor part.anchor ∧ ∀ constraint ∈ part.constraints, ∀ rule, constraint.Uses rule →
      ∀ target ∈ rule.targets, part.anchor.Apart S target := by
  rcases Rulebook.mem_blueprint id part member with field | check
  · obtain ⟨index, field, stages, declared, read, rfl⟩ := field
    exact ⟨.field declared, fun constraint listed rule uses target =>
      made_apart (stages_uses (Rulebook.field_stages_ok read) listed uses)⟩
  · obtain ⟨check, _, made⟩ := check
    obtain ⟨anchor, stages?, resolved, read, same⟩ := Rulebook.check_plan_ok made
    cases stages? with
    | none => cases same
    | some stages =>
        obtain rfl := Option.some.inj same
        exact ⟨.check resolved, fun constraint listed rule uses target =>
          made_apart (stages_uses read listed uses)⟩

open Rulebook

namespace Validator

theorem compiled_apart {book : Rulebook n} {calls : List (Fin n)} {id : Fin n} {plan : Plan n Slot}
    {next : Validator n} (compiled : ((ofRulebook book).after S calls).compile S id = (.ok plan, next))
    {inner : Plan n Slot} (reach : next.shelf.Reaches plan inner) {part : FieldPlan n Slot}
    (member : part ∈ inner.parts) :
    S.IsAnchor part.anchor ∧ ∀ constraint ∈ part.constraints, ∀ rule, constraint.Uses rule →
      ∀ target ∈ rule.targets, part.anchor.Apart S target := by
  obtain ⟨rfl, ready, there⟩ := compiled_ready compiled
  have record := (linked_of_plan ready.sound id plan there).1
  have published := reaches_published ready plan inner (record.symm ▸ there) reach
  have linked := (linked_of_plan ready.sound _ inner published).2
  obtain ⟨drawn, listed, same⟩ := linked_part_of_mem linked part member
  have constraints : part.constraints = drawn.constraints := by
    rw [FieldPlan.constraints, FieldPlan.constraints, same.stages]
  rw [same.anchor, constraints]
  exact blueprint_apart inner.record drawn listed

theorem self_reference_detected (book : Rulebook n) (S : Schema n) (names : S.NamesApart) :
    (∀ root text other path another, FieldPath.resolve S root text = .ok path →
      FieldPath.resolve S root other = .ok another → (path.sameField another = true ↔ text = other)) ∧
    (∀ anchor, S.IsAnchor anchor → book.RefusesSelf S anchor) ∧
    ∀ calls id plan next, ((ofRulebook book).after S calls).compile S id = (.ok plan, next) →
      ∀ inner, next.shelf.Reaches plan inner → ∀ part ∈ inner.parts, ∀ constraint ∈ part.constraints,
        ∀ rule, constraint.Uses rule → ∀ target ∈ rule.targets, target.root = part.anchor.root ∧
          target.indices ≠ part.anchor.indices ∧ target.text ≠ part.anchor.text := by
  refine ⟨fun root text other path another resolved again => ?_, fun anchor isAnchor =>
    refuses_self book names isAnchor, ?_⟩
  · obtain ⟨rfl, rfl, spelled⟩ := FieldPath.resolved_spelled resolved
    obtain ⟨rfl, root, spelledAgain⟩ := FieldPath.resolved_spelled again
    exact FieldPath.same_field_iff spelled spelledAgain root.symm
  · intro calls id plan next compiled inner reach part member constraint listed rule uses target there
    obtain ⟨isAnchor, apart⟩ := compiled_apart compiled reach member
    obtain ⟨⟨text, resolved⟩, other⟩ := apart constraint listed rule uses target there
    obtain ⟨sameText, root, _⟩ := FieldPath.resolved_spelled resolved
    have own := own_text_iff names isAnchor resolved
    rw [other, ← sameText] at own
    refine ⟨root, fun same => ?_, fun same => Bool.false_ne_true (own.mpr same)⟩
    rw [FieldPath.sameField, root, same] at other
    simp at other

theorem spans_self_reference :
    let anchor : FieldPath 1 := .declared spanId 1 ⟨"end", .optional .int, "gtfield=start", true⟩
    spans.NamesApart ∧ spans.IsAnchor anchor ∧
      Rulebook.standard.stage spans anchor (.clause (.presence ⟨true, true, false⟩ ["start", "end"])) =
        .error (.selfReference "required_with" "end") ∧
      Rulebook.standard.stage spans anchor (.anyOf [.relational .gt "start", .relational .eq "end"]) =
        .error (.selfReference "eqfield" "end") ∧
      ∃ plan next, ((ofRulebook .standard).after spans []).compile spans spanId = (.ok plan, next) ∧
        ∃ part ∈ plan.parts, ∃ constraint ∈ part.constraints, ∃ rule, constraint.Uses rule ∧
          ∃ target ∈ rule.targets, part.anchor.text = "end" ∧ target.text = "start" ∧
            target.indices ≠ part.anchor.indices := by
  intro anchor
  have names : spans.NamesApart := ⟨by decide, by decide⟩
  have isAnchor : spans.IsAnchor anchor := .field rfl
  obtain ⟨_, refused, apart⟩ := self_reference_detected .standard spans names
  have startKnown : spans.Knows spanId "start" := ⟨⟨"start", spanId, [⟨"start", 0, .int⟩]⟩, by cbv⟩
  have endKnown : spans.Knows spanId "end" := ⟨⟨"end", spanId, [⟨"end", 1, .optional .int⟩]⟩, by cbv⟩
  have own := refused anchor isAnchor
  refine ⟨names, isAnchor, ?_, ?_, ?_⟩
  · have known : ∀ text ∈ ["start", "end"], spans.Knows spanId text :=
      List.forall_mem_cons.mpr ⟨startKnown, List.forall_mem_singleton.mpr endKnown⟩
    exact (own.alone (.presence ⟨true, true, false⟩ _) rfl known _ _).mpr ⟨by decide, rfl, rfl⟩
  · have first : ∃ constraint, Constraint.ofBranch spans (Rulebook.standard).catalog anchor (.relational .gt "start") =
        .ok constraint := ⟨.cross (.relational .gt ⟨"start", spanId, [⟨"start", 0, .int⟩]⟩), by cbv⟩
    refine (own.group _ _).mpr ⟨[_], _, [], rfl, List.forall_mem_singleton.mpr first, ?_⟩
    exact (own.branch .eq "end" endKnown _ _).mpr ⟨rfl, rfl, rfl⟩
  · have made : (((ofRulebook .standard).after spans []).compile spans spanId).1.toOption.bind
        (·.parts.head?) = some openEnd := by cbv
    cases compiled : ((ofRulebook .standard).after spans []).compile spans spanId with
    | mk outcome next =>
        rw [compiled] at made
        cases outcome with
        | error error => cases made
        | ok plan =>
            have member : openEnd ∈ plan.parts := List.mem_of_mem_head? made
            have held := apart [] spanId plan next compiled plan .here openEnd member _ List.mem_cons_self _
              (.alone _) _ List.mem_cons_self
            exact ⟨plan, next, rfl, openEnd, member, _, List.mem_cons_self, _, .alone _, _, List.mem_cons_self, rfl,
              rfl, held.2.1⟩

end Validator

end RecordRules
