import RecordRules.Proofs.Tour
import RecordRules.Rulebook.Derivation

set_option autoImplicit false

namespace RecordRules.Rulebook

variable {n : Nat} {book : Rulebook n} {S : Schema n}

structure Grown (run later : Run n) : Prop where
  slots : run.shelf.slots <+: later.shelf.slots
  index : ∃ new, later.shelf.index = new ++ run.shelf.index ∧
    later.entered = new.map Prod.fst ++ run.entered
  unique : run.shelf.ids.Nodup → later.shelf.ids.Nodup

theorem grown_refl (run : Run n) : Grown run run := ⟨List.prefix_refl _, ⟨[], rfl, rfl⟩, id⟩

theorem grown_trans {run middle later : Run n} (first : Grown run middle)
    (second : Grown middle later) : Grown run later := by
  obtain ⟨new, index, entered⟩ := first.index
  obtain ⟨newer, indexLater, enteredLater⟩ := second.index
  refine ⟨first.slots.trans second.slots, ⟨newer ++ new, ?_, ?_⟩, second.unique ∘ first.unique⟩
  · rw [indexLater, index, List.append_assoc]
  · rw [enteredLater, entered, List.map_append, List.append_assoc]

theorem grown_enter (run : Run n) (id : Fin n) (fresh : run.shelf.slot? id = none) :
    Grown run (run.enter id) := by
  have out : id ∉ run.shelf.ids := (run.shelf.slot_eq_none id).mp fresh
  have others : run.shelf.index.filter (fun entry => entry.1 ≠ id) = run.shelf.index := by
    refine List.filter_eq_self.mpr fun entry member => ?_
    simp only [ne_eq, decide_not, Bool.not_eq_true', decide_eq_false_iff_not]
    exact fun same => out (same ▸ List.mem_map_of_mem member)
  refine ⟨List.prefix_append _ _, ⟨[(id, run.shelf.nextSlot)], ?_, rfl⟩, fun unique => ?_⟩
  · exact congrArg ((id, run.shelf.nextSlot) :: ·) others
  · rw [run.ids_enter]
    exact List.nodup_cons.mpr ⟨by simp, unique.filter _⟩

theorem grown_hold (run : Run n) (plan : Plan n Slot) : Grown run (run.hold plan) :=
  ⟨List.prefix_append _ _, ⟨[], rfl, rfl⟩, id⟩

theorem grown_fill {run later : Run n} (grown : Grown run later) (plan : Plan n Slot) :
    Grown run (later.fill run.shelf.nextSlot plan) := by
  obtain ⟨behind, appended⟩ := grown.slots
  refine ⟨⟨behind.modifyHead (·.or (some plan)), ?_⟩, grown.index, grown.unique⟩
  simp [Run.fill, Shelf.fill, Shelf.nextSlot, ← appended, List.modify_eq_take_drop]

mutual

theorem builds_grow {run later : Run n} {id : Fin n} {outcome : Except CompileError (Plan n Slot)}
    (built : Builds book S run id outcome later) (fresh : run.shelf.slot? id = none) :
    Grown run later := by
  have entered := grown_enter run id fresh
  match built with
  | .noField fields => exact grown_trans entered (adds_grow fields)
  | .noCheck fields _ => exact grown_trans entered (adds_grow fields)
  | .made fields _ => exact grown_fill (grown_trans entered (adds_grow fields)) _

theorem adds_grow {run later : Run n} {id : Fin n} {done : List (String × FieldPlan n Slot)}
    {fields : List (FieldDef n × Nat)}
    {outcome : Except CompileError (List (String × FieldPlan n Slot))}
    (adds : Adds book S run id done fields outcome later) : Grown run later := by
  match adds with
  | .nil => exact grown_refl run
  | .noStages _ => exact grown_refl run
  | .skipped _ others => exact adds_grow others
  | .noLink _ nested => exact links_grow nested
  | .added _ nested others => exact grown_trans (links_grow nested) (adds_grow others)

theorem links_grow {run later : Run n} {nested : Option (Fin n)}
    {outcome : Except CompileError (Option Slot)}
    (links : Links book S run nested outcome later) : Grown run later := by
  match links with
  | .none => exact grown_refl run
  | .known _ => exact grown_refl run
  | .failed fresh build => exact builds_grow build fresh
  | .made fresh build => exact grown_trans (builds_grow build fresh) (grown_hold _ _)

end

def failureOf {α : Type} : Except CompileError α → Option CompileError
  | .ok _ => none
  | .error error => some error

structure Follows (book : Rulebook n) (S : Schema n) (run later : Run n) (work : List (Event n))
    (failure : Option CompileError) : Prop where
  meets : firstFailure (tour (book.events S) run.shelf.ids work) = failure
  reaches : failure = none → ∀ id, id ∈ later.shelf.ids ↔
    id ∈ enters (tour (book.events S) run.shelf.ids work) ∨ id ∈ run.shelf.ids

theorem follows_nothing (run : Run n) (work : List (Event n))
    (idle : tour (book.events S) run.shelf.ids work = []) : Follows book S run run work none := by
  refine ⟨by rw [idle]; rfl, fun _ id => ?_⟩
  simp [idle, enters]

theorem follows_fail (run later : Run n) (error : CompileError) (rest : List (Event n)) :
    Follows book S run later (.fail error :: rest) (some error) := by
  refine ⟨?_, fun clean => by cases clean⟩
  rw [tour]
  rfl

theorem follows_stop {run later : Run n} {first : List (Event n)} {error : CompileError}
    (stopped : Follows book S run later first (some error)) (second : List (Event n)) :
    Follows book S run later (first ++ second) (some error) := by
  refine ⟨?_, fun clean => by cases clean⟩
  rw [tour_append, first_failure_append, stopped.meets]
  rfl

theorem follows_on {run middle later : Run n} {first second : List (Event n)}
    {failure : Option CompileError} (begun : Follows book S run middle first none)
    (ended : Follows book S middle later second failure) :
    Follows book S run later (first ++ second) failure := by
  have same : tour (book.events S) middle.shelf.ids second = tour (book.events S)
      (enters (tour (book.events S) run.shelf.ids first) ++ run.shelf.ids) second :=
    tour_congr _ _ _ second fun id => by rw [begun.reaches rfl id, ← List.mem_append]
  refine ⟨?_, fun clean id => ?_⟩
  · rw [tour_append, first_failure_append, begun.meets, ← same, ended.meets]
    rfl
  · rw [tour_append, enters_append, ← same, ended.reaches clean id, begun.reaches rfl id,
      List.mem_append]
    tauto

theorem follows_enter {run later : Run n} {id : Fin n} {failure : Option CompileError}
    (fresh : run.shelf.slot? id = none)
    (built : Follows book S (run.enter id) later (book.events S id) failure) :
    Follows book S run later [.enter id] failure := by
  have out : id ∉ run.shelf.ids := (run.shelf.slot_eq_none id).mp fresh
  have same : tour (book.events S) run.shelf.ids [.enter id] =
      .enter id :: tour (book.events S) (run.enter id).shelf.ids (book.events S id) := by
    rw [tour, dif_neg out, List.append_nil]
    refine congrArg (Event.enter id :: ·) (tour_congr _ _ _ _ fun other => ?_)
    rw [run.mem_ids_enter, List.mem_cons]
  refine ⟨?_, fun clean other => ?_⟩
  · rw [same]
    exact built.meets
  · rw [same, built.reaches clean other, run.mem_ids_enter, mem_enters, mem_enters]
    simp only [List.mem_cons, Event.enter.injEq]
    tauto

theorem field_events_eq (id : Fin n) (field : FieldDef n) (index : Nat) :
    book.fieldEvents S id (field, index) =
      match book.fieldStages? S id field index with
      | .error error => [.fail error]
      | .ok none => []
      | .ok (some _) => (book.nested? field).toList.map .enter := by
  rw [fieldEvents, fieldStages?, stages?]
  cases book.parse field.rules with
  | error cause => rfl
  | ok rules =>
      simp only [bind, Except.bind]
      by_cases skipped : rules.contains .skip
      · simp only [if_pos skipped]
        rfl
      · simp only [if_neg skipped]
        cases rules.mapM (book.stage S (.declared id index field)) <;> rfl

theorem check_events_eq (Link : Type) (id : Fin n) (check : RecordCheck) :
    book.checkEvents S id check =
      match (book.checkPlan? S id check : Except _ (Option (FieldPlan n Link))) with
      | .error cause => [.fail ⟨S.nameOf id, check.anchor, cause⟩]
      | .ok _ => [] := by
  rw [checkEvents, checkPlan?]
  cases FieldPath.resolve S id check.anchor with
  | error error => rfl
  | ok anchor =>
      simp only [Except.mapError, bind, Except.bind, stages?]
      cases book.parse check.rules with
      | error cause => rfl
      | ok rules =>
          by_cases skipped : rules.contains .skip
          · simp only [if_pos skipped]
            rfl
          · simp only [if_neg skipped]
            cases rules.mapM (book.stage S anchor) <;> rfl

theorem checks_follow {run : Run n} {id : Fin n} {checks : List RecordCheck}
    {outcome : Except CompileError (List (FieldPlan n Slot))}
    (tested : book.checkPlans S id checks = outcome) :
    Follows book S run run (checks.flatMap (book.checkEvents S id)) (failureOf outcome) := by
  induction checks generalizing outcome with
  | nil => exact tested ▸ follows_nothing run [] (by rw [tour])
  | cons check rest ih =>
      rw [List.flatMap_cons, check_events_eq Slot]
      rw [checkPlans] at tested
      cases made : (book.checkPlan? S id check : Except _ (Option (FieldPlan n Slot))) with
      | error cause =>
          rw [made] at tested
          exact tested ▸ follows_fail run run _ _
      | ok part =>
          rw [made] at tested
          cases others : (book.checkPlans S id rest : Except _ (List (FieldPlan n Slot))) with
          | error error =>
              have followed := ih others
              rw [others] at tested
              exact tested ▸ followed
          | ok parts =>
              have followed := ih others
              rw [others] at tested
              subst tested
              exact followed

mutual

theorem builds_follow {run later : Run n} {id : Fin n} {outcome : Except CompileError (Plan n Slot)}
    (built : Builds book S run id outcome later) :
    Follows book S (run.enter id) later (book.events S id) (failureOf outcome) := by
  match built with
  | .noField fields => exact follows_stop (adds_follow fields) _
  | .noCheck fields checks => exact follows_on (adds_follow fields) (checks_follow checks)
  | .made fields checks =>
      have followed := follows_on (adds_follow fields) (checks_follow checks)
      exact ⟨followed.meets, followed.reaches⟩

theorem adds_follow {run later : Run n} {id : Fin n} {done : List (String × FieldPlan n Slot)}
    {fields : List (FieldDef n × Nat)}
    {outcome : Except CompileError (List (String × FieldPlan n Slot))}
    (adds : Adds book S run id done fields outcome later) :
    Follows book S run later (fields.flatMap (book.fieldEvents S id)) (failureOf outcome) := by
  match adds with
  | .nil => exact follows_nothing run [] (by rw [tour])
  | .noStages stages =>
      rw [List.flatMap_cons, field_events_eq, stages]
      exact follows_fail run run _ _
  | .skipped stages others =>
      rw [List.flatMap_cons, field_events_eq, stages]
      exact adds_follow others
  | .noLink read nested =>
      rw [List.flatMap_cons, field_events_eq, read]
      exact follows_stop (links_follow nested) _
  | .added read nested others =>
      rw [List.flatMap_cons, field_events_eq, read]
      exact follows_on (links_follow nested) (adds_follow others)

theorem links_follow {run later : Run n} {nested : Option (Fin n)}
    {outcome : Except CompileError (Option Slot)}
    (links : Links book S run nested outcome later) :
    Follows book S run later (nested.toList.map .enter) (failureOf outcome) := by
  match links with
  | .none => exact follows_nothing run [] (by rw [tour])
  | .known there =>
      have known := (run.shelf.slot_isSome _).mp (Option.isSome_of_eq_some there)
      exact follows_nothing run _ (by rw [Option.toList, List.map, List.map, tour, dif_pos known, tour])
  | .failed fresh build => exact follows_enter fresh (builds_follow build)
  | .made fresh build =>
      have followed := follows_enter fresh (builds_follow build)
      exact ⟨followed.meets, followed.reaches⟩

end

end RecordRules.Rulebook
