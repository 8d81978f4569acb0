import RecordRules.Proofs.History

set_option autoImplicit false

namespace RecordRules

variable {n : Nat}

namespace Rulebook

-- The records in a field of the outer type are validated along with it.
def Nests (book : Rulebook n) (S : Schema n) (outer inner : Fin n) : Prop :=
  book.settings.recurseNested = true ∧ ∃ field ∈ (S outer).fields,
    field.exported = true ∧ field.type.record? = some inner ∧
      ∃ rules, book.parse field.rules = .ok rules ∧ Rule.skip ∉ rules

variable {book : Rulebook n} {S : Schema n}

theorem nested_eq_some (field : FieldDef n) (inner : Fin n) :
    book.nested? field = some inner ↔ book.settings.recurseNested = true ∧ field.exported = true ∧
      field.type.record? = some inner := by
  rw [nested?]
  split
  case isTrue on =>
    obtain ⟨recurse, exported⟩ := Bool.and_eq_true_iff.mp on
    simp [recurse, exported]
  case isFalse off =>
    constructor
    · intro same
      cases same
    · intro both
      exact absurd (Bool.and_eq_true_iff.mpr ⟨both.1, both.2.1⟩) off

theorem check_events_enter (id : Fin n) (check : RecordCheck) (inner : Fin n) :
    .enter inner ∉ book.checkEvents S id check := by
  rw [check_events_eq Slot]
  split
  · simp
  · simp

theorem field_events_enter (id : Fin n) (field : FieldDef n) (index : Nat) (inner : Fin n)
    (enters : .enter inner ∈ book.fieldEvents S id (field, index)) :
    book.nested? field = some inner ∧ ∃ rules, book.parse field.rules = .ok rules ∧ Rule.skip ∉ rules := by
  rw [fieldEvents] at enters
  cases read : book.parse field.rules with
  | error cause => simp [read] at enters
  | ok rules =>
      by_cases skipped : rules.contains .skip
      · simp only [read, if_pos skipped] at enters
        cases enters
      · simp only [read, if_neg skipped] at enters
        cases made : rules.mapM (book.stage S (.declared id index field)) with
        | error cause => simp [made] at enters
        | ok stages =>
            simp only [made, List.mem_map, Event.enter.injEq, exists_eq_right, Option.mem_toList] at enters
            exact ⟨enters, rules, rfl, fun member => skipped (List.contains_iff_mem.mpr member)⟩

theorem field_events_nests (id : Fin n) (field : FieldDef n) (index : Nat) (inner : Fin n)
    (nested : book.nested? field = some inner) (rules : List Rule)
    (read : book.parse field.rules = .ok rules) (counted : Rule.skip ∉ rules)
    (clean : ∀ error, .fail error ∉ book.fieldEvents S id (field, index)) :
    .enter inner ∈ book.fieldEvents S id (field, index) := by
  have admitted : ¬rules.contains .skip := fun found => counted (List.contains_iff_mem.mp found)
  rw [fieldEvents] at clean ⊢
  simp only [read, if_neg admitted] at clean ⊢
  cases made : rules.mapM (book.stage S (.declared id index field)) with
  | error cause =>
      simp only [made] at clean
      exact absurd List.mem_cons_self (clean _)
  | ok stages => simp [nested]

theorem nests_of_enter (outer inner : Fin n) (enters : .enter inner ∈ book.events S outer) :
    book.Nests S outer inner := by
  rcases List.mem_append.mp enters with field | check
  · obtain ⟨⟨field, index⟩, listed, there⟩ := List.mem_flatMap.mp field
    obtain ⟨nested, rules, read, counted⟩ := field_events_enter outer field index inner there
    obtain ⟨recurse, exported, type⟩ := (nested_eq_some field inner).mp nested
    exact ⟨recurse, field, List.mem_of_getElem? (List.mem_zipIdx_iff_getElem?.mp listed), exported, type,
      rules, read, counted⟩
  · obtain ⟨check, _, there⟩ := List.mem_flatMap.mp check
    exact absurd there (check_events_enter outer check inner)

theorem enter_of_nests (outer inner : Fin n) (nests : book.Nests S outer inner)
    (clean : ∀ error, .fail error ∉ book.events S outer) : .enter inner ∈ book.events S outer := by
  obtain ⟨recurse, field, member, exported, type, rules, read, counted⟩ := nests
  obtain ⟨index, there⟩ := List.mem_iff_getElem?.mp member
  have listed : (field, index) ∈ (S outer).fields.zipIdx := List.mem_zipIdx_iff_getElem?.mpr there
  have within := field_event_mem book S outer (field, index) listed
  exact within _ (field_events_nests outer field index inner
    ((nested_eq_some field inner).mpr ⟨recurse, exported, type⟩) rules read counted
    fun error met => clean error (within _ met))

theorem closed_nests (ids : List (Fin n)) (closed : Closed (book.events S) ids) (outer inner : Fin n)
    (there : outer ∈ ids) (nests : book.Nests S outer inner) : inner ∈ ids :=
  closed_enter closed there (enter_of_nests outer inner nests (closed_clean closed there))

theorem closed_reaches (ids : List (Fin n)) (closed : Closed (book.events S) ids) (start id : Fin n)
    (there : start ∈ ids) (reach : Relation.ReflTransGen (book.Nests S) start id) : id ∈ ids := by
  induction reach with
  | refl => exact there
  | tail _ nests ih => exact closed_nests ids closed _ _ ih nests

theorem tour_nests (old : List (Fin n)) (id other : Fin n)
    (met : other ∈ enters (tour (book.events S) old [.enter id])) :
    Relation.ReflTransGen (book.Nests S) id other := by
  obtain ⟨start, member, reach⟩ := tour_reaches _ _ _ other ((mem_enters _ _).mp met)
  obtain rfl := Event.enter.inj (List.mem_singleton.mp member)
  exact Relation.ReflTransGen.mono nests_of_enter _ _ reach

theorem added_iff_reaches (old later : List (Fin n)) (id : Fin n) (closed : Closed (book.events S) later)
    (there : id ∈ later)
    (reaches : ∀ other, other ∈ later ↔
      other ∈ enters (tour (book.events S) old [.enter id]) ∨ other ∈ old)
    (other : Fin n) :
    other ∈ later ↔ Relation.ReflTransGen (book.Nests S) id other ∨ other ∈ old := by
  constructor
  · exact fun member => ((reaches other).mp member).imp_left (tour_nests old id other)
  · rintro (reach | before)
    · exact closed_reaches later closed id other there reach
    · exact (reaches other).mpr (.inr before)

theorem nests_nothing (off : book.settings.recurseNested = false) (id other : Fin n)
    (reach : Relation.ReflTransGen (book.Nests S) id other) : other = id := by
  cases reach with
  | refl => rfl
  | tail _ nests => cases nests.1.symm.trans off

end Rulebook

namespace Shelf

inductive Reaches (shelf : Shelf n) (plan : Plan n Slot) : Plan n Slot → Prop where
  | here : Reaches shelf plan plan
  | follow {inner next : Plan n Slot} {part : FieldPlan n Slot} {slot : Slot}
      (before : Reaches shelf plan inner) (member : part ∈ inner.parts)
      (link : part.nested = some slot) (filled : shelf.inSlot? slot = some next) :
      Reaches shelf plan next

def Fulfils (S : Schema n) (shelf : Shelf n) (plan : Plan n Slot) : Prop :=
  ∀ part ∈ plan.parts, ∀ slot, part.nested = some slot →
    ∃ index field type next, (S plan.record).fields[index]? = some field ∧
      part.anchor = .declared plan.record index field ∧ field.type.record? = some type ∧
      shelf.inSlot? slot = some next ∧ next.record = type ∧ shelf.plan? type = some next

end Shelf

open Rulebook

namespace Validator

variable {S : Schema n} {book : Rulebook n} {shelf : Shelf n}

theorem ready_fulfils (ready : Ready S book shelf) (plan : Plan n Slot)
    (there : shelf.plan? plan.record = some plan) : shelf.Fulfils S plan := by
  intro part member slot link
  have linked := (linked_of_plan ready.sound _ plan there).2
  obtain ⟨drawn, listed, same⟩ := linked_part_of_mem linked part member
  have nested := same.nested
  rw [link] at nested
  rcases mem_blueprint plan.record drawn listed with field | check
  · obtain ⟨index, field, stages, declared, _, rfl⟩ := field
    cases inner : book.nested? field with
    | none =>
        rw [inner] at nested
        cases nested
    | some type =>
        rw [inner, Option.rel_some_some] at nested
        obtain ⟨next, held, record, published⟩ := promise_filled ready slot type nested
        exact ⟨index, field, type, next, declared, same.anchor,
          ((nested_eq_some field type).mp inner).2.2, held, record, published⟩
  · obtain ⟨check, _, made⟩ := check
    rw [check_plan_nested made] at nested
    cases nested

theorem reaches_published (ready : Ready S book shelf) (plan inner : Plan n Slot)
    (there : shelf.plan? plan.record = some plan) (reach : shelf.Reaches plan inner) :
    shelf.plan? inner.record = some inner := by
  cases reach with
  | here => exact there
  | follow _ _ _ filled => exact ready.sound.published _ _ filled

theorem call_adds {validator : Validator n} {id : Fin n}
    {result : Except CompileError (Plan n Slot) × Validator n}
    (ready : Ready S validator.book validator.shelf) (call : Call S validator id result)
    (plan : Plan n Slot) (ends : result.1 = .ok plan) :
    (∃ new, result.2.shelf.ids = new ++ validator.shelf.ids) ∧ ∀ other, other ∈ result.2.shelf.ids ↔
      Relation.ReflTransGen (validator.book.Nests S) id other ∨ other ∈ validator.shelf.ids := by
  have there := call_plan call plan ends
  have member : id ∈ result.2.shelf.ids := Shelf.mem_of_plan there
  cases call with
  | cached found _ =>
      refine ⟨⟨[], rfl⟩, fun other => ⟨.inr, ?_⟩⟩
      rintro (reach | before)
      · exact closed_reaches _ ready.closed id other member reach
      · exact before
  | failed error fresh first => cases ends
  | made madePlan shelf fresh publishes =>
      exact ⟨publishes.ids, added_iff_reaches _ _ id publishes.ready.closed member publishes.reaches⟩

theorem call_new {validator : Validator n} {id : Fin n}
    {result : Except CompileError (Plan n Slot) × Validator n}
    (ready : Ready S validator.book validator.shelf) (call : Call S validator id result)
    (plan : Plan n Slot) (ends : result.1 = .ok plan) :
    ∃ new, result.2.shelf.ids = new ++ validator.shelf.ids ∧ new.Nodup ∧ ∀ other, other ∈ new ↔
      Relation.ReflTransGen (validator.book.Nests S) id other ∧ other ∉ validator.shelf.ids := by
  obtain ⟨⟨new, ids⟩, reaches⟩ := call_adds ready call plan ends
  have distinct : (new ++ validator.shelf.ids).Nodup := ids ▸ (call_ready ready call).2.sound.unique
  refine ⟨new, ids, (List.nodup_append.mp distinct).1, fun other => ?_⟩
  have apart (member : other ∈ new) : other ∉ validator.shelf.ids := fun old =>
    (List.nodup_append.mp distinct).2.2 other member other old rfl
  have either := reaches other
  rw [ids, List.mem_append] at either
  tauto

theorem call_failed {validator : Validator n} {id : Fin n}
    {result : Except CompileError (Plan n Slot) × Validator n} (call : Call S validator id result)
    (error : CompileError) (ends : result.1 = .error error) : result.2 = validator := by
  cases call with
  | cached plan there => cases ends
  | failed => rfl
  | made plan shelf fresh publishes => cases ends

theorem cache_over_calls (book : Rulebook n) (S : Schema n) (calls : List (Fin n)) (id : Fin n) :
    let before := (ofRulebook book).after S calls
    let later := (before.compile S id).2
    (∀ other slot, later.shelf.slot? other = some slot →
      ∃ plan, later.shelf.inSlot? slot = some plan ∧ plan.record = other) ∧
    (∀ plan inner,
      ((before.compile S id).1 = .ok plan ∨ ∃ other, later.shelf.plan? other = some plan) →
        later.shelf.Reaches plan inner → later.shelf.Fulfils S inner) ∧
    (∀ other plan, later.shelf.plan? other = some plan →
      ∀ more, ((later.after S more).compile S other).1 = .ok plan) ∧
    match (before.compile S id).1 with
    | .error _ => later = before
    | .ok plan =>
        later.shelf.plan? id = some plan ∧ before.shelf.Kept later.shelf ∧
        (∃ new, later.shelf.ids = new ++ before.shelf.ids ∧ new.Nodup ∧ ∀ other, other ∈ new ↔
          Relation.ReflTransGen (book.Nests S) id other ∧ other ∉ before.shelf.ids) ∧
        (book.settings.recurseNested = false → ∀ other,
          other ∈ later.shelf.ids ↔ other = id ∨ other ∈ before.shelf.ids) := by
  intro before later
  obtain ⟨sameBook, ready⟩ := ready_after (S := S) (ofRulebook book) calls (ready_empty S book)
  have call := compile_call before S id ready
  have readyLater := (call_ready ready call).2
  refine ⟨?_, ?_, ?_, ?_⟩
  · intro other slot owner
    obtain ⟨plan, held, record, _⟩ := promise_filled readyLater slot other (.inl owner)
    exact ⟨plan, held, record⟩
  · intro plan inner source reach
    have there : later.shelf.plan? plan.record = some plan := by
      rcases source with returned | ⟨other, cached⟩
      · have found := call_plan call plan returned
        exact (linked_of_plan readyLater.sound id plan found).1.symm ▸ found
      · exact (linked_of_plan readyLater.sound other plan cached).1.symm ▸ cached
    exact ready_fulfils readyLater inner (reaches_published readyLater plan inner there reach)
  · intro other plan cached more
    have kept := kept_after later more readyLater
    rw [compile_cached _ other plan (Shelf.kept_plan kept other plan cached)]
  · cases ends : (before.compile S id).1 with
    | error error => exact call_failed call error ends
    | ok plan =>
        obtain ⟨new, ids, distinct, adds⟩ := call_new ready call plan ends
        rw [sameBook] at adds
        refine ⟨call_plan call plan ends, call_kept call, ⟨new, ids, distinct, adds⟩, fun off other => ?_⟩
        rw [(call_adds ready call plan ends).2 other, sameBook]
        refine or_congr_left ⟨nests_nothing off id other, fun same => ?_⟩
        exact same ▸ .refl

end Validator

end RecordRules
