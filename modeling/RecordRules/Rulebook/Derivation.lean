import RecordRules.Rulebook.Build

set_option autoImplicit false

namespace RecordRules

namespace Rulebook

variable {n : Nat} (book : Rulebook n) (S : Schema n)

-- One clause for each way that a step of a run can end. Every step has a derivation, so that what
-- holds of all derivations holds of all runs.
mutual

inductive Builds : Run n → Fin n → Except CompileError (Plan n Slot) → Run n → Prop where
  | noField {run later : Run n} {id : Fin n} {error : CompileError}
      (fields : Adds (run.enter id) id [] (S id).fields.zipIdx (.error error) later) :
      Builds run id (.error error) later
  | noCheck {run later : Run n} {id : Fin n} {done : List (String × FieldPlan n Slot)}
      {error : CompileError}
      (fields : Adds (run.enter id) id [] (S id).fields.zipIdx (.ok done) later)
      (checks : (book.checkPlans S id (S id).checks : Except _ (List (FieldPlan n Slot))) =
        .error error) :
      Builds run id (.error error) later
  | made {run later : Run n} {id : Fin n} {done : List (String × FieldPlan n Slot)}
      {tested : List (FieldPlan n Slot)}
      (fields : Adds (run.enter id) id [] (S id).fields.zipIdx (.ok done) later)
      (checks : book.checkPlans S id (S id).checks = .ok tested) :
      Builds run id (.ok ⟨id, done, tested⟩) (later.fill run.shelf.nextSlot ⟨id, done, tested⟩)

inductive Adds : Run n → Fin n → List (String × FieldPlan n Slot) → List (FieldDef n × Nat) →
    Except CompileError (List (String × FieldPlan n Slot)) → Run n → Prop where
  | nil {run : Run n} {id : Fin n} {done : List (String × FieldPlan n Slot)} :
      Adds run id done [] (.ok done) run
  | noStages {run : Run n} {id : Fin n} {done : List (String × FieldPlan n Slot)}
      {field : FieldDef n} {index : Nat} {rest : List (FieldDef n × Nat)} {error : CompileError}
      (stages : book.fieldStages? S id field index = .error error) :
      Adds run id done ((field, index) :: rest) (.error error) run
  | skipped {run later : Run n} {id : Fin n} {done : List (String × FieldPlan n Slot)}
      {field : FieldDef n} {index : Nat} {rest : List (FieldDef n × Nat)}
      {outcome : Except CompileError (List (String × FieldPlan n Slot))}
      (stages : book.fieldStages? S id field index = .ok none)
      (others : Adds run id done rest outcome later) :
      Adds run id done ((field, index) :: rest) outcome later
  | noLink {run later : Run n} {id : Fin n} {done : List (String × FieldPlan n Slot)}
      {field : FieldDef n} {index : Nat} {rest : List (FieldDef n × Nat)} {stages : List (Stage n)}
      {error : CompileError} (read : book.fieldStages? S id field index = .ok (some stages))
      (nested : Links run (book.nested? field) (.error error) later) :
      Adds run id done ((field, index) :: rest) (.error error) later
  | added {run middle later : Run n} {id : Fin n} {done : List (String × FieldPlan n Slot)}
      {field : FieldDef n} {index : Nat} {rest : List (FieldDef n × Nat)} {stages : List (Stage n)}
      {link : Option Slot} {outcome : Except CompileError (List (String × FieldPlan n Slot))}
      (read : book.fieldStages? S id field index = .ok (some stages))
      (nested : Links run (book.nested? field) (.ok link) middle)
      (others : Adds middle id
        (Plan.addField field.name ⟨.declared id index field, stages, link⟩ done) rest outcome later) :
      Adds run id done ((field, index) :: rest) outcome later

inductive Links : Run n → Option (Fin n) → Except CompileError (Option Slot) → Run n → Prop where
  | none {run : Run n} : Links run none (.ok none) run
  | known {run : Run n} {id : Fin n} {slot : Slot} (there : run.shelf.slot? id = some slot) :
      Links run (some id) (.ok (some slot)) run
  | failed {run later : Run n} {id : Fin n} {error : CompileError}
      (fresh : run.shelf.slot? id = none) (build : Builds run id (.error error) later) :
      Links run (some id) (.error error) later
  | made {run later : Run n} {id : Fin n} {plan : Plan n Slot}
      (fresh : run.shelf.slot? id = none) (build : Builds run id (.ok plan) later) :
      Links run (some id) (.ok (some later.shelf.nextSlot)) (later.hold plan)

end

variable {book S}

mutual

theorem builds_build (run : Run n) (id : Fin n) :
    Builds book S run id (book.build S run id).result (book.build S run id).later := by
  have fields := adds_add_fields (run.enter id) id [] (S id).fields.zipIdx
  rw [build]
  cases ends : (book.addFields S (run.enter id) id [] (S id).fields.zipIdx).result with
  | error error =>
      rw [ends] at fields
      simp only [Progress.since, ends]
      exact .noField fields
  | ok done =>
      rw [ends] at fields
      simp only [Progress.since, ends]
      cases checks : (book.checkPlans S id (S id).checks : Except _ (List (FieldPlan n Slot))) with
      | error error => exact .noCheck fields checks
      | ok tested => exact .made fields checks
termination_by (remaining (run.enter id).shelf.ids, (S id).fields.length + 3)
decreasing_by
  rw [List.length_zipIdx]
  exact Prod.Lex.right _ (Nat.lt_succ_self _)

theorem adds_add_fields (run : Run n) (id : Fin n) (done : List (String × FieldPlan n Slot))
    (fields : List (FieldDef n × Nat)) :
    Adds book S run id done fields (book.addFields S run id done fields).result
      (book.addFields S run id done fields).later := by
  cases fields with
  | nil =>
      rw [addFields]
      exact .nil
  | cons declared rest =>
      obtain ⟨field, index⟩ := declared
      rw [addFields]
      cases read : book.fieldStages? S id field index with
      | error error => exact .noStages read
      | ok stages? =>
          cases stages? with
          | none => exact .skipped read (adds_add_fields run id done rest)
          | some stages =>
              have nested := links_link run (book.nested? field)
              cases ends : (book.link? S run (book.nested? field)).result with
              | error error =>
                  rw [ends] at nested
                  simp only [ends]
                  exact .noLink read nested
              | ok link =>
                  rw [ends] at nested
                  simp only [ends]
                  exact .added read nested (adds_add_fields _ id _ rest)
termination_by (remaining run.shelf.ids, fields.length + 2)
decreasing_by
  · exact Prod.Lex.right _ (Nat.lt_succ_self _)
  · exact Prod.Lex.right _ (Nat.succ_lt_succ (Nat.succ_pos _))
  · exact Prod.Lex.right' _ (remaining_le (Progress.kept _)) (Nat.lt_succ_self _)

theorem links_link (run : Run n) (nested : Option (Fin n)) :
    Links book S run nested (book.link? S run nested).result (book.link? S run nested).later := by
  cases nested with
  | none =>
      rw [link?]
      exact .none
  | some id =>
      rw [link?]
      split
      case isTrue filled =>
        obtain ⟨slot, there⟩ := Option.isSome_iff_exists.mp filled
        rw [there]
        exact .known there
      case isFalse missing =>
        have fresh := Option.not_isSome_iff_eq_none.mp missing
        have build := builds_build run id
        dsimp only
        split
        case h_1 error ends => exact .failed fresh (ends ▸ build)
        case h_2 plan ends => exact .made fresh (ends ▸ build)
termination_by (remaining run.shelf.ids, 1)
decreasing_by
  exact Prod.Lex.left _ _ (run.remaining_enter id (Option.not_isSome_iff_eq_none.mp (by assumption)))

end

end Rulebook

end RecordRules
