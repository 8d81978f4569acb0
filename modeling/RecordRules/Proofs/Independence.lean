import RecordRules.Proofs.History

set_option autoImplicit false

namespace RecordRules

open Rulebook

namespace Validator

variable {n : Nat} {S : Schema n}

-- A type that is on the shelf already is passed over, but nothing below it fails. So the first failure
-- is that of a tour which starts from nothing.
theorem call_failure {validator : Validator n} {id : Fin n}
    {result : Except CompileError (Plan n Slot) × Validator n}
    (ready : Ready S validator.book validator.shelf) (call : Call S validator id result) :
    failureOf result.1 = firstFailure (tour (validator.book.events S) [] [.enter id]) := by
  have passed := first_failure_past_closed _ validator.shelf.ids ready.closed [] [.enter id]
  rw [List.append_nil] at passed
  rw [← passed]
  cases call with
  | cached plan there =>
      rw [tour, dif_pos (Shelf.mem_of_plan there), tour]
      rfl
  | failed error fresh first => exact first.symm
  | made plan shelf fresh publishes => exact publishes.clean.symm

theorem published_report (validator : Validator n) (ready : Ready S validator.book validator.shelf)
    (id : Fin n) (plan : Plan n Slot) (there : validator.shelf.plan? id = some plan)
    (more : List (Fin n)) (record : Instance n) :
    (validator.after S more).report S plan record =
      (validator.book.blueprint S id).report S (fun id => some (validator.book.blueprint S id)) record := by
  obtain ⟨moreBook, readyMore⟩ := ready_after validator more ready
  have stillThere := Shelf.kept_plan (kept_after validator more ready) id plan there
  rw [report, report_ready readyMore id plan stillThere, moreBook]

theorem compile_any_history (book : Rulebook n) (S : Schema n) (calls : List (Fin n)) (id : Fin n) :
    let used := (ofRulebook book).after S calls
    let fresh := ofRulebook book
    failureOf (fresh.compile S id).1 = firstFailure (tour (book.events S) [] [.enter id]) ∧
    match (used.compile S id).1, (fresh.compile S id).1 with
    | .error error, .error first => error = first
    | .ok plan, .ok first => ∀ more others record,
        ((used.compile S id).2.after S more).report S plan record =
          ((fresh.compile S id).2.after S others).report S first record
    | _, _ => False := by
  intro used fresh
  obtain ⟨sameBook, ready⟩ := ready_after (S := S) fresh calls (ready_empty S book)
  have usedCall := compile_call used S id ready
  have freshCall := compile_call fresh S id (ready_empty S book)
  have usedFailure := call_failure ready usedCall
  have freshFailure := call_failure (ready_empty S book) freshCall
  rw [sameBook] at usedFailure
  refine ⟨freshFailure, ?_⟩
  have same := usedFailure.trans freshFailure.symm
  cases usedEnds : (used.compile S id).1 with
  | error error =>
      cases freshEnds : (fresh.compile S id).1 with
      | error first =>
          rw [usedEnds, freshEnds] at same
          exact Option.some.inj same
      | ok first =>
          rw [usedEnds, freshEnds] at same
          cases same
  | ok plan =>
      cases freshEnds : (fresh.compile S id).1 with
      | error first =>
          rw [usedEnds, freshEnds] at same
          cases same
      | ok first =>
          intro more others record
          obtain ⟨usedBook, usedReady⟩ := call_ready ready usedCall
          obtain ⟨freshBook, freshReady⟩ := call_ready (ready_empty S book) freshCall
          rw [published_report _ usedReady id plan (call_plan usedCall plan usedEnds) more record,
            published_report _ freshReady id first (call_plan freshCall first freshEnds) others record,
            usedBook, freshBook, sameBook]

end Validator

end RecordRules
