import RecordRules.Proofs.Comparability
import RecordRules.Proofs.ComparisonLaws
import RecordRules.Proofs.Coverage
import RecordRules.Proofs.Printing
import RecordRules.Proofs.Redeclaration
import RecordRules.Proofs.Rows

set_option autoImplicit false

namespace RecordRules

variable {n : Nat} {S : Schema n}

-- A field that references of its own type lead to: exported, with a name that no other field has and that
-- is one segment of a path.
structure Schema.Names (S : Schema n) (id : Fin n) (index : Nat) (field : FieldDef n) : Prop where
  there : (S id).fields[index]? = some field
  exported : field.exported = true
  alone : ∀ place other, (S id).fields[place]? = some other → other.name = field.name → place = index
  filled : field.name ≠ ""
  noDot : '.' ∉ field.name.toList

theorem names_of_distinct {id : Fin n} {index : Nat} {field : FieldDef n}
    (distinct : ((S id).fields.map FieldDef.name).Nodup) (there : (S id).fields[index]? = some field)
    (exported : field.exported = true) (filled : field.name ≠ "") (noDot : '.' ∉ field.name.toList) :
    S.Names id index field :=
  ⟨there, exported, alone_of_nodup _ distinct index field there, filled, noDot⟩

theorem resolve_named {id : Fin n} {index : Nat} {field : FieldDef n} (named : S.Names id index field) :
    FieldPath.resolve S id field.name = .ok (.declared id index field) := by
  have found : (S id).field? field.name = some (index, field) := by
    rw [RecordType.field?, find_field_alone _ 0 index field named.there named.alone, Nat.zero_add]
  have filled : field.name.isEmpty = false := by simpa using named.filled
  rw [FieldPath.resolve, pieces_whole '.' _ named.noDot]
  simp only [List.map_cons, List.map_nil, String.ofList_toList, FieldPath.resolveSteps, filled, found,
    named.exported]
  rfl

theorem names_redeclared {id : Fin n} {index : Nat} {field : FieldDef n} (named : S.Names id index field)
    (changed : Nat) (rules : String) :
    (S.redeclare id changed rules).Names id index (field.redeclare changed rules index) := by
  obtain ⟨sameName, sameExport⟩ := redeclared_name field changed rules index
  constructor
  · exact redeclared_there id changed rules index field named.there
  · rw [sameExport, named.exported]
  · intro place other found same
    rw [redeclared_field] at found
    obtain ⟨own, there, rfl⟩ := Option.map_eq_some_iff.mp found
    have ownName := (redeclared_name own changed rules place).1
    exact named.alone place own there (ownName.symm.trans (same.trans sameName))
  · rw [sameName]
    exact named.filled
  · rw [sameName]
    exact named.noDot

theorem admits_flip (op : Comparison) (left right : FieldKind) :
    op.flip.admits right left = op.admits left right := by
  cases op <;> cases left <;> cases right <;> rfl

variable {id : Fin n} {i j : Nat} {a b : FieldDef n}

theorem relational_named (right : S.Names id j b) (apart : i ≠ j) (op : Comparison) :
    CrossRule.relationalOf S (.declared id i a) op b.name =
      if op.admits a.type.kind b.type.kind then .ok (.relational op (.declared id j b))
      else .error (.incompatibleTypes op.fieldTag b.name a.type.kind b.type.kind) := by
  have other : (FieldPath.declared id j b).sameField (.declared id i a) = false := by
    simp [FieldPath.sameField, FieldPath.indices, FieldPath.declared, Ne.symm apart]
  have target : FieldPath.otherSibling S (.declared id i a) op.fieldTag b.name = .ok (.declared id j b) := by
    rw [FieldPath.otherSibling, FieldPath.sibling, FieldPath.declared, resolve_named right]
    simp only [Except.mapError, bind, Except.bind]
    rw [← FieldPath.declared, other]
    rfl
  rw [CrossRule.relationalOf, target]
  rfl

open Rulebook

def Rulebook.Inserts (book : Rulebook n) (op : Comparison) (target : String) (before after : String) : Prop :=
  ∃ front back, book.parse before = .ok (front ++ back) ∧ .skip ∉ front ++ back ∧
    book.parse after = .ok (front ++ .clause (.relational op target) :: back)

variable {book : Rulebook n} {op : Comparison} {forward backward : String}

-- A comparison that is written out alone, for a name in one word.
theorem inserts_written (name : String) (word : isItem name.toList)
    (unaliased : Grammar.aliasExpansion book.settings.aliases (Clause.relational op name).spelling = none) :
    book.Inserts op name "" (Rule.print [.clause (.relational op name)]) := by
  refine ⟨[], [], rfl, List.not_mem_nil, ?_⟩
  have segment := ((Clause.relational op name).spelling_branch word).toIsSegment
  have read := Grammar.read_spelling (Grammar.aliasExpansion book.settings.aliases) (.clause (.relational op name))
    word (by simpa [Rule.lookups, Rule.spelling] using unaliased)
  rw [Rule.spelling] at read
  rw [Rulebook.parse, Grammar.parse, Rule.print, String.toList_ofList, List.map_cons, List.map_nil,
    List.intercalate_singleton, Rule.spelling, Grammar.read_alone _ _ segment, unaliased, read]
  rfl

theorem forall_mem_inserted {α : Type} (holds : α → Prop) (item : α) (front back : List α) :
    (∀ other ∈ front ++ item :: back, holds other) ↔ holds item ∧ ∀ other ∈ front ++ back, holds other := by
  simp only [List.forall_mem_append, List.forall_mem_cons]
  tauto

theorem relational_stage_iff (right : S.Names id j b) (apart : i ≠ j) :
    (∃ stage, book.stage S (.declared id i a) (.clause (.relational op b.name)) = .ok stage) ↔
      op.admits a.type.kind b.type.kind = true := by
  rw [stage, Constraint.ofClause, relational_named right apart]
  by_cases admitted : op.admits a.type.kind b.type.kind = true
  · rw [if_pos admitted]
    exact ⟨fun _ => admitted, fun _ => ⟨_, rfl⟩⟩
  · rw [if_neg admitted]
    refine ⟨?_, fun held => absurd held admitted⟩
    rintro ⟨stage, made⟩
    cases made

theorem mirrored_field_events (left : S.Names id i a) (right : S.Names id j b) (apart : i ≠ j)
    (front : book.Inserts op b.name a.rules forward) (back : book.Inserts op.flip a.name b.rules backward)
    (clean : ∀ place field, (S id).fields[place]? = some field →
      ∀ error, .fail error ∉ book.fieldEvents S id (field.redeclare i forward place, place))
    (place : Nat) (field : FieldDef n) (there : (S id).fields[place]? = some field) :
    book.fieldEvents S id (field.redeclare j backward place, place) =
      book.fieldEvents S id (field.redeclare i forward place, place) := by
  obtain ⟨frontRules, frontRest, bare, bareCounted, forwardRead⟩ := front
  obtain ⟨backRules, backRest, plain, plainCounted, backwardRead⟩ := back
  have leftClean := clean i a left.there
  rw [redeclared_here] at leftClean
  have leftMade := stages_of_clean id { a with rules := forward } i _ forwardRead
    (by simpa using bareCounted) leftClean
  obtain ⟨compared, bareMade⟩ := (forall_mem_inserted _ _ _ _).mp leftMade
  by_cases atLeft : i = place
  · subst atLeft
    obtain rfl := Option.some.inj (left.there.symm.trans there)
    rw [redeclared_here, redeclared_elsewhere _ _ _ _ (Ne.symm apart),
      field_events_made id a i _ bare bareCounted bareMade,
      field_events_made id { a with rules := forward } i _ forwardRead (by simpa using bareCounted) leftMade]
    rfl
  by_cases atRight : j = place
  · subst atRight
    obtain rfl := Option.some.inj (right.there.symm.trans there)
    have rightClean := clean j b there
    rw [redeclared_elsewhere _ _ _ _ atLeft] at rightClean
    have plainMade := stages_of_clean id b j _ plain plainCounted rightClean
    have admitted : op.admits a.type.kind b.type.kind = true := (relational_stage_iff right apart).mp compared
    have turned : ∃ stage, book.stage S (.declared id j b) (.clause (.relational op.flip a.name)) = .ok stage :=
      (relational_stage_iff left (Ne.symm apart)).mpr ((admits_flip op _ _).trans admitted)
    rw [redeclared_here, redeclared_elsewhere _ _ _ _ atLeft,
      field_events_made id b j _ plain plainCounted plainMade,
      field_events_made id { b with rules := backward } j _ backwardRead (by simpa using plainCounted)
        ((forall_mem_inserted _ _ _ _).mpr ⟨turned, plainMade⟩)]
    rfl
  · rw [redeclared_elsewhere _ _ _ _ atLeft, redeclared_elsewhere _ _ _ _ atRight]

theorem mirrored_closed (left : S.Names id i a) (right : S.Names id j b) (apart : i ≠ j)
    (front : book.Inserts op b.name a.rules forward) (back : book.Inserts op.flip a.name b.rules backward)
    (ids : List (Fin n)) (closed : Closed (book.events (S.redeclare id i forward)) ids) :
    Closed (book.events (S.redeclare id j backward)) ids := by
  intro type member event met
  by_cases same : type = id
  · subst same
    have clean : ∀ place field, (S type).fields[place]? = some field →
        ∀ error, .fail error ∉ book.fieldEvents S type (field.redeclare i forward place, place) :=
      fun place field there error failed =>
        closed_clean closed member error ((mem_redeclared_events ..).mpr (.inl ⟨place, field, there, failed⟩))
    refine closed type member event ((mem_redeclared_events ..).mpr ?_)
    rcases (mem_redeclared_events ..).mp met with ⟨place, field, there, told⟩ | inChecks
    · rw [mirrored_field_events left right apart front back clean place field there] at told
      exact .inl ⟨place, field, there, told⟩
    · exact .inr inChecks
  · have unchanged : S.redeclare id i forward type = S.redeclare id j backward type := by
      rw [redeclared_other _ _ _ _ _ same, redeclared_other _ _ _ _ _ same]
    have outline := same_outline_trans (same_outline_symm (redeclared_outline S id i forward))
      (redeclared_outline S id j backward)
    rw [← events_outline outline type unchanged] at met
    exact closed type member event met

theorem mirrored_compiles (left : S.Names id i a) (right : S.Names id j b) (apart : i ≠ j)
    (front : book.Inserts op b.name a.rules forward) (back : book.Inserts op.flip a.name b.rules backward)
    (calls others : List (Fin n)) :
    (((Validator.ofRulebook book).after (S.redeclare id i forward) calls).compile
        (S.redeclare id i forward) id).1.isOk =
      (((Validator.ofRulebook book).after (S.redeclare id j backward) others).compile
        (S.redeclare id j backward) id).1.isOk := by
  have frontAgain : book.Inserts op.flip.flip b.name a.rules forward := op.flip_flip.symm ▸ front
  rw [Bool.eq_iff_iff, compiles_iff, compiles_iff]
  constructor
  · rintro ⟨ids, member, closed⟩
    exact ⟨ids, member, mirrored_closed left right apart front back ids closed⟩
  · rintro ⟨ids, member, closed⟩
    exact ⟨ids, member, mirrored_closed right left (Ne.symm apart) back frontAgain ids closed⟩

def Violation.cause? (violation : Violation) : Option String := violation.param? "cause"

def Instance.compared (S : Schema n) (record : Instance n) (op : Comparison) (index place : Nat)
    (other : FieldDef n) : Option Violation :=
  CrossRule.relationalViolation? S record (record.field index) op (.declared record.type place other)

def Comparison.causeOf : Option Bool → Option (Option String)
  | some true => none
  | some false => some none
  | none => some (some "incomparable")

theorem compared_cause (S : Schema n) (record : Instance n) (op : Comparison) (index place : Nat)
    (other : FieldDef n) :
    (record.compared S op index place other).map Violation.cause? =
      Comparison.causeOf (Value.compare op (record.field index) (record.field place)).toOption := by
  rw [Instance.compared, CrossRule.relationalViolation?, FieldPath.read_declared]
  dsimp only
  cases Value.compare op (record.field index) (record.field place) with
  | error error => rfl
  | ok outcome => cases outcome <;> rfl

theorem compared_failed (S : Schema n) (record : Instance n) (op : Comparison) (index place : Nat)
    (other : FieldDef n) :
    (record.compared S op index place other).isSome =
      (Comparison.causeOf (Value.compare op (record.field index) (record.field place)).toOption).isSome := by
  rw [← compared_cause S record op index place other, Option.isSome_map]

theorem mirrored_cause (S T : Schema n) (record : Instance n) (op : Comparison) (i j : Nat) (a b : FieldDef n) :
    (record.compared S op i j b).map Violation.cause? =
      (record.compared T op.flip j i a).map Violation.cause? := by
  rw [compared_cause, compared_cause, Value.compare_flip]

theorem is_nil_iff (value : Value n) : value.isNil = true ↔ value = .nil := by
  cases value <;> simp [Value.isNil]

theorem compare_one_nil (op : Comparison) (value other : Value n) (oneNil : value.isNil ≠ other.isNil) :
    (Value.compare op value other).toOption = none := by
  by_cases unset : value = .nil
  · have set : other ≠ .nil := fun same => oneNil (by rw [unset, same])
    rw [unset, compare_nil_left op other set]
    rfl
  · by_cases otherUnset : other = .nil
    · rw [otherUnset, compare_nil_right op value unset]
      rfl
    · have bothSet : value.isNil = other.isNil := by
        rw [Bool.eq_iff_iff, is_nil_iff, is_nil_iff]
        exact iff_of_false unset otherUnset
      exact absurd bothSet oneNil

theorem opposed_compare (left right : FieldType n)
    (admitted : Comparison.eq.admits left.kind right.kind = true) (value other : Value n)
    (valueFits : value.fits S left) (otherFits : other.fits S right) (sameNil : value.isNil = other.isNil) :
    ∃ outcome, Value.compare .eq value other = .ok outcome ∧ Value.compare .ne value other = .ok !outcome := by
  have both : value = .nil ↔ other = .nil := by rw [← is_nil_iff, ← is_nil_iff, sameNil]
  by_cases unset : value = .nil
  · rw [unset, both.mp unset]
    exact ⟨true, rfl, rfl⟩
  · cases compared : Value.compare .eq value other with
    | error error =>
        have oneNil := one_nil_of_failed .eq left right admitted value other valueFits otherFits error compared
        exact absurd sameNil oneNil.1
    | ok outcome =>
        refine ⟨outcome, rfl, ?_⟩
        rw [Value.compare_ne unset (mt both.mpr unset), compared]
        rfl

theorem admitted_append (record : Instance n) (value : Value n) (front back : List (Stage n))
    (admitted : ∀ stage ∈ front, stage.admits S record value = true) :
    ∃ tests, Stage.admitted S record value (front ++ back) = tests ++ Stage.admitted S record value back := by
  induction front with
  | nil => exact ⟨[], rfl⟩
  | cons stage rest ih =>
      obtain ⟨first, later⟩ := List.forall_mem_cons.mp admitted
      obtain ⟨tests, left⟩ := ih later
      cases stage with
      | gate gate =>
          have opens : gate.admits S record value = true := first
          exact ⟨tests, by rw [List.cons_append, Stage.admitted, if_pos opens, left]⟩
      | test constraint => exact ⟨constraint :: tests, by rw [List.cons_append, Stage.admitted, left]; rfl⟩

theorem own_report_holds {Link : Type} (record : Instance n) (value : Value n) (anchor : FieldPath n)
    (front back : List (Stage n)) (constraint : Constraint n) (nested : Option Link)
    (admitted : ∀ stage ∈ front, stage.admits S record value = true) :
    (constraint.violation? S record value).toList.map (·.withField anchor.text) <:+:
      FieldPlan.ownReport S record value ⟨anchor, front ++ .test constraint :: back, nested⟩ := by
  obtain ⟨tests, left⟩ := admitted_append record value front (.test constraint :: back) admitted
  rw [FieldPlan.ownReport]
  dsimp only
  rw [left, Stage.admitted, List.filterMap_append]
  refine List.IsInfix.map _ (List.IsInfix.trans ?_ (List.suffix_append _ _).isInfix)
  rw [List.filterMap_cons]
  cases constraint.violation? S record value with
  | none => exact List.nil_infix
  | some violation => exact (List.prefix_append [violation] _).isInfix

-- In every plan of its type the comparison stands among the rules of the field, and what it says of the
-- record is reported, unless a gate ahead of it keeps it from being looked at.
def ComparesAt (book : Rulebook n) (S : Schema n) (record : Instance n) (op : Comparison) (index place : Nat)
    (other : FieldDef n) : Prop :=
  ∀ calls more plan next,
    ((Validator.ofRulebook book).after S calls).compile S record.type = (.ok plan, next) →
    ∃ name field front back nested, (S record.type).fields[index]? = some field ∧
      (name, ⟨.declared record.type index field,
        front ++ .test (.cross (.relational op (.declared record.type place other))) :: back,
        nested⟩) ∈ plan.fields ∧
      ((∀ stage ∈ front, stage.admits S record (record.field index) = true) →
        (record.compared S op index place other).toList.map (·.withField field.name) <:+:
          (next.after S more).report S plan record)

theorem relational_stage {stage : Stage n} (right : S.Names id j b) (apart : i ≠ j)
    (made : book.stage S (.declared id i a) (.clause (.relational op b.name)) = .ok stage) :
    stage = .test (.cross (.relational op (.declared id j b))) := by
  obtain ⟨constraint, rfl, clauseMade⟩ := stage_ok made
  obtain ⟨rule, read, rfl⟩ := ok_of_map clauseMade
  rw [relational_named right apart] at read
  split at read
  · rw [Except.ok.inj read]
  · cases read

theorem compares_at (record : Instance n) (left : S.Names record.type i a) (right : S.Names record.type j b)
    (apart : i ≠ j) (before : String) (inserted : book.Inserts op b.name before a.rules) :
    ComparesAt book S record op i j b := by
  intro calls more plan next compiled
  obtain ⟨rfl, ready, there⟩ := Validator.compiled_ready compiled
  obtain ⟨front, back, _, counted, read⟩ := inserted
  have kept : ¬next.book.IsReplaced S record.type i a := by
    rintro ⟨behind, other, ahead, found, same, _⟩
    exact absurd (left.alone behind other found same) (Nat.ne_of_gt ahead)
  have linked := (linked_of_plan ready.sound _ plan there).2
  obtain ⟨⟨name, anchor, stages, nested⟩, member, rfl, made⟩ := (covered_linked linked _ _).mpr
    ((drawn_covers_iff ready.closed _ (Shelf.mem_of_plan there) i a left.there _ read (by simpa using counted)
      (by simp)).mpr kept)
  obtain ⟨ahead, stage, behind, rfl, stageMade⟩ := pointwise_middle made
  obtain rfl := relational_stage right apart stageMade
  refine ⟨name, a, ahead, behind, nested, left.there, member, fun admitted => ?_⟩
  exact (own_report_holds record (record.field i) (.declared record.type i a) ahead behind _ nested admitted).trans
    (Plan.own_in_report _ record plan name i a _ nested member)

theorem names_changed (left : S.Names id i a) (right : S.Names id j b) (apart : i ≠ j) (rules : String) :
    (S.redeclare id i rules).Names id i { a with rules } ∧ (S.redeclare id i rules).Names id j b := by
  have own := names_redeclared left i rules
  have other := names_redeclared right i rules
  rw [redeclared_here] at own
  rw [redeclared_elsewhere _ _ _ _ apart] at other
  exact ⟨own, other⟩

theorem changed_compares (record : Instance n) (type : record.type = id) (left : S.Names id i a)
    (right : S.Names id j b) (apart : i ≠ j) (front : book.Inserts op b.name a.rules forward) :
    ComparesAt book (S.redeclare id i forward) record op i j b := by
  subst type
  obtain ⟨own, other⟩ := names_changed left right apart forward
  exact compares_at record own other apart a.rules front

theorem changed_admits (left : S.Names id i a) (right : S.Names id j b) (apart : i ≠ j)
    (front : book.Inserts op b.name a.rules forward) (calls : List (Fin n))
    (made : (((Validator.ofRulebook book).after (S.redeclare id i forward) calls).compile
      (S.redeclare id i forward) id).1.isOk = true) :
    op.admits a.type.kind b.type.kind = true := by
  obtain ⟨ids, member, closed⟩ := (compiles_iff book _ calls id).mp made
  obtain ⟨frontRules, backRules, _, counted, read⟩ := front
  have clean : ∀ error, .fail error ∉ book.fieldEvents S id ({ a with rules := forward }, i) := by
    intro error failed
    rw [← redeclared_here a i forward] at failed
    exact closed_clean closed member error
      ((mem_redeclared_events ..).mpr (.inl ⟨i, a, left.there, failed⟩))
  have stages := stages_of_clean id { a with rules := forward } i _ read (by simpa using counted) clean
  exact (relational_stage_iff right apart).mp (stages _ (by simp))

namespace Validator

-- First, an operator on the one side and its converse on the other side; then both operators that need no
-- order, on one side.
theorem comparisons_mirrored (book : Rulebook n) (S : Schema n) (id : Fin n) (i j : Nat) (a b : FieldDef n)
    (left : S.Names id i a) (right : S.Names id j b) (apart : i ≠ j) :
    (∀ op forward backward, book.Inserts op b.name a.rules forward →
      book.Inserts op.flip a.name b.rules backward →
      let T := S.redeclare id i forward
      let U := S.redeclare id j backward
      (∀ calls others, (((ofRulebook book).after T calls).compile T id).1.isOk =
        (((ofRulebook book).after U others).compile U id).1.isOk) ∧
      ∀ record : Instance n, record.type = id →
        ComparesAt book T record op i j b ∧ ComparesAt book U record op.flip j i a ∧
        (record.compared T op i j b).map Violation.cause? =
          (record.compared U op.flip j i a).map Violation.cause? ∧
        (record.compared T op i j b).map Violation.cause? ∈ [none, some none, some (some "incomparable")]) ∧
    ∀ equal unequal, book.Inserts .eq b.name a.rules equal → book.Inserts .ne b.name a.rules unequal →
      let T := S.redeclare id i equal
      let U := S.redeclare id i unequal
      ∀ calls, (((ofRulebook book).after T calls).compile T id).1.isOk = true →
        ∀ record : Instance n, record.type = id → record.fits T →
          ComparesAt book T record .eq i j b ∧ ComparesAt book U record .ne i j b ∧
          if (record.field i).isNil = (record.field j).isNil then
            (record.compared T .eq i j b).isSome ≠ (record.compared U .ne i j b).isSome
          else
            (record.compared T .eq i j b).map Violation.cause? = some (some "incomparable") ∧
              (record.compared U .ne i j b).map Violation.cause? = some (some "incomparable") := by
  constructor
  · intro op forward backward front back T U
    refine ⟨mirrored_compiles left right apart front back, fun record type => ⟨?_, ?_, ?_, ?_⟩⟩
    · exact changed_compares record type left right apart front
    · exact changed_compares record type right left (Ne.symm apart) back
    · exact mirrored_cause T U record op i j a b
    · rw [compared_cause]
      cases (Value.compare op (record.field i) (record.field j)).toOption with
      | none => decide
      | some outcome => cases outcome <;> decide
  · intro equal unequal same different T U calls made record type fit
    refine ⟨changed_compares record type left right apart same,
      changed_compares record type left right apart different, ?_⟩
    have admitted := changed_admits left right apart same calls made
    rw [← fits_outline (redeclared_outline S id i equal)] at fit
    subst type
    have leftFits := fits_field S record fit i a left.there
    have rightFits := fits_field S record fit j b right.there
    split
    case isTrue sameNil =>
      obtain ⟨outcome, equalTold, unequalTold⟩ :=
        opposed_compare a.type b.type admitted _ _ leftFits rightFits sameNil
      rw [compared_failed, compared_failed, equalTold, unequalTold]
      cases outcome <;> decide
    case isFalse oneNil =>
      rw [compared_cause, compared_cause, compare_one_nil .eq _ _ oneNil, compare_one_nil .ne _ _ oneNil]
      exact ⟨rfl, rfl⟩

def stays : Schema 1 := fun _ =>
  { name := "Stay"
    fields := [⟨"from", .int, "", true⟩, ⟨"to", .optional .float, "isdefault", true⟩]
    checks := [] }

def openStay : Instance 1 := ⟨⟨0, Nat.one_pos⟩, [.int 3, .nil]⟩

theorem open_stay_mirrored :
    let a : FieldDef 1 := ⟨"from", .int, "", true⟩
    let b : FieldDef 1 := ⟨"to", .optional .float, "isdefault", true⟩
    let T := stays.redeclare 0 0 "ltfield=to"
    let U := stays.redeclare 0 1 "isdefault,gtfield=from"
    let E := stays.redeclare 0 0 "eqfield=to"
    let D := stays.redeclare 0 0 "nefield=to"
    stays.Names 0 0 a ∧ stays.Names 0 1 b ∧
    Rulebook.standard.Inserts (n := 1) .lt b.name a.rules "ltfield=to" ∧
    Rulebook.standard.Inserts (n := 1) .gt a.name b.rules "isdefault,gtfield=from" ∧
    Rulebook.standard.Inserts (n := 1) .eq b.name a.rules "eqfield=to" ∧
    Rulebook.standard.Inserts (n := 1) .ne b.name a.rules "nefield=to" ∧
    (((ofRulebook .standard).after E []).compile E 0).1.isOk = true ∧ openStay.fits E ∧
    (((ofRulebook .standard).after T []).compile T 0).1.isOk =
      (((ofRulebook .standard).after U []).compile U 0).1.isOk ∧
    (openStay.compared T .lt 0 1 b).map Violation.cause? = (openStay.compared U .gt 1 0 a).map Violation.cause? ∧
    (openStay.compared E .eq 0 1 b).map Violation.cause? = some (some "incomparable") ∧
    (openStay.compared D .ne 0 1 b).map Violation.cause? = some (some "incomparable") := by
  intro a b T U E D
  have distinct : ((stays 0).fields.map FieldDef.name).Nodup := by decide
  have left : stays.Names 0 0 a := names_of_distinct distinct rfl rfl (by decide) (by decide)
  have right : stays.Names 0 1 b := names_of_distinct distinct rfl rfl (by decide) (by decide)
  have less : Rulebook.standard.Inserts (n := 1) .lt b.name a.rules "ltfield=to" :=
    inserts_written "to" (by decide) (by cbv)
  have more : Rulebook.standard.Inserts (n := 1) .gt a.name b.rules "isdefault,gtfield=from" :=
    ⟨[.clause (.leaf "isdefault" none)], [], by cbv, by decide, by cbv⟩
  have same : Rulebook.standard.Inserts (n := 1) .eq b.name a.rules "eqfield=to" :=
    inserts_written "to" (by decide) (by cbv)
  have different : Rulebook.standard.Inserts (n := 1) .ne b.name a.rules "nefield=to" :=
    inserts_written "to" (by decide) (by cbv)
  have made : (((ofRulebook .standard).after E []).compile E 0).1.isOk = true := by
    simp only [E]
    cbv
  have fit : openStay.fits E := by decide
  obtain ⟨turned, opposed⟩ := comparisons_mirrored .standard stays 0 0 1 a b left right (by decide)
  obtain ⟨compiles, verdicts⟩ := turned .lt "ltfield=to" "isdefault,gtfield=from" less more
  obtain ⟨_, _, causes, _⟩ := verdicts openStay rfl
  obtain ⟨_, _, oneNil⟩ := opposed "eqfield=to" "nefield=to" same different [] made openStay rfl fit
  rw [if_neg (by decide)] at oneNil
  exact ⟨left, right, less, more, same, different, made, fit, compiles [] [], causes, oneNil⟩

def triple (first second third : String) : Schema 1 := fun _ =>
  { name := "Triple"
    fields := [⟨first, .int, "", true⟩, ⟨second, .int, "", true⟩, ⟨third, .int, "required", true⟩]
    checks := [] }

-- A dot separates the segments of a path, nothing can be written for an empty name, and of two fields with
-- one name the first is referred to, but the last is validated.
theorem unnamed_not_mirrored :
    let record : Instance 1 := ⟨0, [.int 1, .int 2, .int 3]⟩
    let isMade (S : Schema 1) : Bool := (((ofRulebook .standard).after S []).compile S 0).1.isOk
    let codes (S : Schema 1) : Except CompileError (List String) :=
      let (outcome, next) := ((ofRulebook .standard).after S []).compile S 0
      outcome.map fun plan => (next.report S plan record).map Violation.code
    isMade ((triple "a" "x.y" "z").redeclare 0 0 "eqfield=x.y") = false ∧
    isMade ((triple "a" "x.y" "z").redeclare 0 1 "eqfield=a") = true ∧
    isMade ((triple "" "b" "z").redeclare 0 0 "eqfield=b") = true ∧
    isMade ((triple "" "b" "z").redeclare 0 1 "eqfield=") = false ∧
    record.fits (triple "a" "b" "a") ∧
    codes ((triple "a" "b" "a").redeclare 0 0 "eqfield=b") = .ok [] ∧
    codes ((triple "a" "b" "a").redeclare 0 1 "eqfield=a") = .ok ["eqfield"] := by
  intro record isMade codes
  simp only [isMade, codes, record]
  exact ⟨by cbv, by cbv, by cbv, by cbv, by decide, by cbv, by cbv⟩

end Validator

end RecordRules
