import RecordRules.Proofs.Sound
import RecordRules.Validator

set_option autoImplicit false

namespace RecordRules

variable {n : Nat}

namespace Rulebook

variable {book : Rulebook n} {S : Schema n}

theorem withdraw_grown (shelf : Shelf n) (later : Run n) (grown : Grown ⟨shelf, []⟩ later)
    (unique : shelf.ids.Nodup) : later.shelf.withdraw later.entered shelf.nextSlot = shelf := by
  obtain ⟨behind, appended⟩ := grown.slots
  obtain ⟨new, index, entered⟩ := grown.index
  have distinct := grown.unique unique
  rw [Shelf.ids, index, List.map_append] at distinct
  rw [List.append_nil] at entered
  have slots : later.shelf.slots.take shelf.nextSlot = shelf.slots := by
    rw [← appended]
    exact List.take_left
  have removed : new.filter (fun entry => !later.entered.contains entry.1) = [] := by
    refine List.filter_eq_nil_iff.mpr fun entry member => ?_
    rw [entered]
    simpa using ⟨entry.2, member⟩
  have others : shelf.index.filter (fun entry => !later.entered.contains entry.1) = shelf.index := by
    refine List.filter_eq_self.mpr fun entry member => ?_
    have old : entry.1 ∈ shelf.ids := List.mem_map_of_mem member
    have outside : entry.1 ∉ later.entered := fun newToo =>
      (List.nodup_append.mp distinct).2.2 entry.1 (entered ▸ newToo) entry.1 old rfl
    simpa using outside
  rw [Shelf.withdraw, slots, index, List.filter_append, removed, others]
  rfl

theorem closed_after (old later : List (Fin n)) (work : List (Event n))
    (closed : Closed (book.events S) old)
    (clean : firstFailure (tour (book.events S) old work) = none)
    (reaches : ∀ id, id ∈ later ↔ id ∈ enters (tour (book.events S) old work) ∨ id ∈ old) :
    Closed (book.events S) later := by
  intro id member event follows
  rcases (reaches id).mp member with entered | before
  · rcases tour_meets_next _ _ _ id event ((mem_enters _ _).mp entered) follows with met | known
    · cases event with
      | enter other => exact ⟨other, (reaches other).mpr (.inl ((mem_enters _ _).mpr met)), rfl⟩
      | fail error => exact absurd met (no_failure _ clean error)
    · obtain ⟨other, there, same⟩ := known
      exact ⟨other, (reaches other).mpr (.inr there), same⟩
  · obtain ⟨other, there, same⟩ := closed id before event follows
    exact ⟨other, (reaches other).mpr (.inr there), same⟩

end Rulebook

open Rulebook

namespace Validator

-- Between calls no slot waits for its plan, and the types on the shelf refer to nothing but each other
-- and have no rule string that makes no plan.
structure Ready (S : Schema n) (book : Rulebook n) (shelf : Shelf n) : Prop where
  sound : Sound book S shelf
  filled : ∀ id ∈ shelf.ids, (shelf.plan? id).isSome
  closed : Closed (book.events S) shelf.ids

theorem ready_empty (S : Schema n) (book : Rulebook n) : Ready S book .empty :=
  ⟨sound_empty, nofun, nofun⟩

theorem promise_filled {S : Schema n} {book : Rulebook n} {shelf : Shelf n} (ready : Ready S book shelf)
    (slot : Slot) (id : Fin n) (promised : shelf.Promises slot id) :
    ∃ plan, shelf.inSlot? slot = some plan ∧ plan.record = id ∧ shelf.plan? id = some plan := by
  rcases promised with owner | ⟨plan, held, record⟩
  · have member := (shelf.slot_isSome id).mp (Option.isSome_of_eq_some owner)
    obtain ⟨plan, there⟩ := Option.isSome_iff_exists.mp (ready.filled id member)
    have held : shelf.inSlot? slot = some plan := by
      rw [Shelf.plan?, owner] at there
      exact there
    exact ⟨plan, held, ready.sound.owned id slot plan owner held, there⟩
  · exact ⟨plan, held, record, record ▸ ready.sound.published slot plan held⟩

theorem report_ready {S : Schema n} {book : Rulebook n} {shelf : Shelf n} (ready : Ready S book shelf)
    (id : Fin n) (plan : Plan n Slot) (there : shelf.plan? id = some plan) (record : Instance n) :
    plan.report S shelf.inSlot? record =
      (book.blueprint S id).report S (fun id => some (book.blueprint S id)) record := by
  refine report_linked shelf.Promises S _ _ (fun slot type promised => ?_) record
    (linked_of_plan ready.sound id plan there).2
  obtain ⟨next, held, record, published⟩ := promise_filled ready slot type promised
  exact ⟨next, _, held, rfl, (linked_of_plan ready.sound type next published).2⟩

structure Publishes (S : Schema n) (book : Rulebook n) (id : Fin n) (plan : Plan n Slot)
    (old later : Shelf n) : Prop where
  ready : Ready S book later
  kept : old.Kept later
  ids : ∃ new, later.ids = new ++ old.ids
  clean : firstFailure (tour (book.events S) old.ids [.enter id]) = none
  reaches : ∀ other, other ∈ later.ids ↔
    other ∈ enters (tour (book.events S) old.ids [.enter id]) ∨ other ∈ old.ids
  plan : later.plan? id = some plan

inductive Call (S : Schema n) (validator : Validator n) (id : Fin n) :
    Except CompileError (Plan n Slot) × Validator n → Prop where
  | cached (plan : Plan n Slot) (there : validator.shelf.plan? id = some plan) :
      Call S validator id (.ok plan, validator)
  | failed (error : CompileError) (fresh : id ∉ validator.shelf.ids)
      (first : firstFailure (tour (validator.book.events S) validator.shelf.ids [.enter id]) =
        some error) :
      Call S validator id (.error error, validator)
  | made (plan : Plan n Slot) (shelf : Shelf n) (fresh : id ∉ validator.shelf.ids)
      (publishes : Publishes S validator.book id plan validator.shelf shelf) :
      Call S validator id (.ok plan, { validator with shelf })

theorem publishes_made {S : Schema n} {book : Rulebook n} {shelf : Shelf n} (ready : Ready S book shelf)
    (id : Fin n) (fresh : shelf.slot? id = none) (plan : Plan n Slot) (later : Run n)
    (built : Builds book S ⟨shelf, []⟩ id (.ok plan) later) :
    Publishes S book id plan shelf later.shelf := by
  obtain ⟨made, record, there⟩ := builds_sound built plan rfl ready.sound fresh
  have followed := follows_enter fresh (builds_follow built)
  obtain ⟨new, index, _⟩ := (builds_grow built fresh).index
  refine ⟨⟨made.sound, ?_, ?_⟩, made.kept, ⟨new.map (·.1), ?_⟩, followed.meets, followed.reaches rfl,
    there⟩
  · intro other member
    obtain ⟨slot, owner⟩ := Option.isSome_iff_exists.mp ((later.shelf.slot_isSome other).mpr member)
    rcases made.filled other slot owner with before | filled
    · have old := (shelf.slot_isSome other).mp (Option.isSome_of_eq_some before)
      obtain ⟨inner, held⟩ := Option.isSome_iff_exists.mp (ready.filled other old)
      exact Option.isSome_of_eq_some (Shelf.kept_plan made.kept other inner held)
    · obtain ⟨inner, held⟩ := Option.isSome_iff_exists.mp filled
      exact Option.isSome_of_eq_some (Shelf.plan_of_slot _ other slot inner owner held)
  · exact closed_after _ _ _ ready.closed followed.meets (followed.reaches rfl)
  · rw [Shelf.ids, index, List.map_append]
    rfl

theorem compile_call (validator : Validator n) (S : Schema n) (id : Fin n)
    (ready : Ready S validator.book validator.shelf) :
    Call S validator id (validator.compile S id) := by
  rw [compile]
  cases there : validator.shelf.plan? id with
  | some plan => exact .cached plan there
  | none =>
      have fresh : id ∉ validator.shelf.ids := fun member => by
        have filled := ready.filled id member
        rw [there] at filled
        cases filled
      have noSlot := (validator.shelf.slot_eq_none id).mpr fresh
      have built : Builds validator.book S ⟨validator.shelf, []⟩ id _ _ :=
        builds_build ⟨validator.shelf, []⟩ id
      cases ends : (validator.book.build S ⟨validator.shelf, []⟩ id).result with
      | ok plan =>
          rw [ends] at built
          simp only [ends]
          exact .made plan _ fresh (publishes_made ready id noSlot plan _ built)
      | error error =>
          rw [ends] at built
          have first := (follows_enter noSlot (builds_follow built)).meets
          have restored := withdraw_grown validator.shelf _ (builds_grow built noSlot)
            ready.sound.unique
          simp only [ends, restored]
          exact .failed error fresh first

def after (validator : Validator n) (S : Schema n) (calls : List (Fin n)) : Validator n :=
  calls.foldl (fun current id => (current.compile S id).2) validator

variable {S : Schema n}

theorem call_ready {validator : Validator n} {id : Fin n}
    {result : Except CompileError (Plan n Slot) × Validator n}
    (ready : Ready S validator.book validator.shelf) (call : Call S validator id result) :
    result.2.book = validator.book ∧ Ready S result.2.book result.2.shelf := by
  cases call with
  | cached plan there => exact ⟨rfl, ready⟩
  | failed error fresh first => exact ⟨rfl, ready⟩
  | made plan shelf fresh publishes => exact ⟨rfl, publishes.ready⟩

theorem call_kept {validator : Validator n} {id : Fin n}
    {result : Except CompileError (Plan n Slot) × Validator n} (call : Call S validator id result) :
    validator.shelf.Kept result.2.shelf := by
  cases call with
  | cached plan there => exact validator.shelf.kept_refl
  | failed error fresh first => exact validator.shelf.kept_refl
  | made plan shelf fresh publishes => exact publishes.kept

theorem call_plan {validator : Validator n} {id : Fin n}
    {result : Except CompileError (Plan n Slot) × Validator n} (call : Call S validator id result)
    (plan : Plan n Slot) (ends : result.1 = .ok plan) : result.2.shelf.plan? id = some plan := by
  cases call with
  | cached there found => exact Except.ok.inj ends ▸ found
  | failed error fresh first => cases ends
  | made madePlan shelf fresh publishes => exact Except.ok.inj ends ▸ publishes.plan

theorem ready_after (validator : Validator n) (calls : List (Fin n))
    (ready : Ready S validator.book validator.shelf) :
    (validator.after S calls).book = validator.book ∧
      Ready S (validator.after S calls).book (validator.after S calls).shelf := by
  induction calls generalizing validator with
  | nil => exact ⟨rfl, ready⟩
  | cons id rest ih =>
      obtain ⟨book, readyNext⟩ := call_ready ready (compile_call validator S id ready)
      obtain ⟨bookRest, readyRest⟩ := ih _ readyNext
      exact ⟨bookRest.trans book, readyRest⟩

theorem kept_after (validator : Validator n) (calls : List (Fin n))
    (ready : Ready S validator.book validator.shelf) :
    validator.shelf.Kept (validator.after S calls).shelf := by
  induction calls generalizing validator with
  | nil => exact validator.shelf.kept_refl
  | cons id rest ih =>
      have call := compile_call validator S id ready
      exact Shelf.kept_trans (call_kept call) (ih _ (call_ready ready call).2)

theorem compiled_ready {book : Rulebook n} {calls : List (Fin n)} {id : Fin n} {plan : Plan n Slot}
    {next : Validator n}
    (compiled : ((ofRulebook book).after S calls).compile S id = (.ok plan, next)) :
    next.book = book ∧ Ready S book next.shelf ∧ next.shelf.plan? id = some plan := by
  obtain ⟨sameBook, ready⟩ := ready_after (S := S) (ofRulebook book) calls (ready_empty S book)
  have call := compile_call _ S id ready
  rw [compiled] at call
  obtain ⟨nextBook, readyNext⟩ := call_ready ready call
  have same : next.book = book := nextBook.trans sameBook
  exact ⟨same, same ▸ readyNext, call_plan call plan rfl⟩

theorem compile_cached (validator : Validator n) (id : Fin n) (plan : Plan n Slot)
    (there : validator.shelf.plan? id = some plan) :
    validator.compile S id = (.ok plan, validator) := by
  rw [compile, there]

end Validator

end RecordRules
