import RecordRules.Plan.Shelf
import RecordRules.Rulebook.Plan

set_option autoImplicit false

namespace RecordRules

structure CompileError where
  record : String
  field : String
  cause : RuleError
deriving DecidableEq, Repr

def CompileError.message (error : CompileError) : String :=
  s!"invalid rules on `{error.record}.{error.field}`: {error.cause.message}"

-- The shelf as it is by now, and the types entered so far, the last one first.
structure Run (n : Nat) where
  shelf : Shelf n
  entered : List (Fin n)

namespace Run

variable {n : Nat}

def enter (run : Run n) (id : Fin n) : Run n :=
  ⟨(run.shelf.hold none).place id run.shelf.nextSlot, id :: run.entered⟩

def hold (run : Run n) (plan : Plan n Slot) : Run n :=
  { run with shelf := run.shelf.hold (some plan) }

def fill (run : Run n) (slot : Slot) (plan : Plan n Slot) : Run n :=
  { run with shelf := run.shelf.fill slot plan }

theorem ids_enter (run : Run n) (id : Fin n) :
    (run.enter id).shelf.ids = id :: run.shelf.ids.filter (· ≠ id) :=
  Shelf.ids_place (run.shelf.hold none) id run.shelf.nextSlot

theorem mem_ids_enter (run : Run n) (id other : Fin n) :
    other ∈ (run.enter id).shelf.ids ↔ other = id ∨ other ∈ run.shelf.ids := by
  by_cases same : other = id <;> simp [ids_enter, same]

theorem ids_subset_enter (run : Run n) (id : Fin n) : run.shelf.ids ⊆ (run.enter id).shelf.ids := by
  intro other member
  exact (run.mem_ids_enter id other).mpr (.inr member)

end Run

-- What a step of a run comes to: a result or the first failure, and the run that is left behind.
-- What was done before a failure stays done, and a type that has got a slot keeps it.
structure Progress {n : Nat} (run : Run n) (α : Type) where
  result : Except CompileError α
  later : Run n
  kept : run.shelf.ids ⊆ later.shelf.ids

def Progress.since {n : Nat} {α : Type} {run middle : Run n} (progress : Progress middle α)
    (kept : run.shelf.ids ⊆ middle.shelf.ids) : Progress run α :=
  ⟨progress.result, progress.later, fun _ member => progress.kept (kept member)⟩

def remaining {n : Nat} (ids : List (Fin n)) : Nat :=
  (List.finRange n).countP (fun id => !ids.contains id)

theorem count_lt {α : Type} (small large : α → Bool) (items : List α) (item : α)
    (present : item ∈ items) (implies : ∀ other, small other = true → large other = true)
    (out : small item = false) (within : large item = true) :
    items.countP small < items.countP large := by
  induction items with
  | nil => simp at present
  | cons first rest ih =>
      have less : rest.countP small ≤ rest.countP large :=
        List.countP_mono_left fun other _ => implies other
      rcases List.mem_cons.mp present with same | later
      · subst same
        simp only [List.countP_cons, out, within]
        simp only [Bool.false_eq_true, if_false, if_true]
        omega
      · have ahead := ih later
        have heads : (if small first then 1 else 0) ≤ if large first then 1 else 0 := by
          by_cases hit : small first
          · exact Nat.le_of_eq (by rw [if_pos hit, if_pos (implies first hit)])
          · rw [if_neg hit]
            exact Nat.zero_le _
        rw [List.countP_cons, List.countP_cons]
        omega

section Remaining

variable {n : Nat} {old new : List (Fin n)} (kept : old ⊆ new)
include kept

theorem remaining_le : remaining new ≤ remaining old := by
  refine List.countP_mono_left fun other _ out => ?_
  simp only [Bool.not_eq_true', List.contains_eq_mem, decide_eq_false_iff_not] at out ⊢
  exact fun member => out (kept member)

theorem remaining_lt (id : Fin n) (fresh : id ∉ old) (there : id ∈ new) :
    remaining new < remaining old := by
  refine count_lt _ _ _ id (List.mem_finRange id) (fun other out => ?_) ?_ ?_
  · simp only [Bool.not_eq_true', List.contains_eq_mem, decide_eq_false_iff_not] at out ⊢
    exact fun member => out (kept member)
  · simpa using there
  · simpa using fresh

end Remaining

theorem Run.remaining_enter {n : Nat} (run : Run n) (id : Fin n) (fresh : run.shelf.slot? id = none) :
    remaining (run.enter id).shelf.ids < remaining run.shelf.ids :=
  remaining_lt (run.ids_subset_enter id) id ((run.shelf.slot_eq_none id).mp fresh)
    ((run.mem_ids_enter id id).mpr (.inl rfl))

namespace Rulebook

variable {n : Nat}

def fieldStages? (book : Rulebook n) (S : Schema n) (id : Fin n) (field : FieldDef n)
    (index : Nat) : Except CompileError (Option (List (Stage n))) :=
  (book.stages? S (.declared id index field) field.rules).mapError fun cause =>
    ⟨S.nameOf id, field.name, cause⟩

def checkPlans {Link : Type} (book : Rulebook n) (S : Schema n) (id : Fin n) :
    List RecordCheck → Except CompileError (List (FieldPlan n Link))
  | [] => return []
  | check :: rest => do
      let part ← (book.checkPlan? S id check).mapError fun cause =>
        ⟨S.nameOf id, check.anchor, cause⟩
      return part.toList ++ (← checkPlans book S id rest)

-- A type gets its slot before its fields are looked at, so that a type that is met again is linked to
-- that slot and not entered again. The first rule string that makes no plan ends everything.
mutual

def build (book : Rulebook n) (S : Schema n) (run : Run n) (id : Fin n) : Progress run (Plan n Slot) :=
  let fields := (addFields book S (run.enter id) id [] (S id).fields.zipIdx).since
    (run.ids_subset_enter id)
  match fields.result with
  | .error error => ⟨.error error, fields.later, fields.kept⟩
  | .ok done =>
      match book.checkPlans S id (S id).checks with
      | .error error => ⟨.error error, fields.later, fields.kept⟩
      | .ok checks =>
          let plan := ⟨id, done, checks⟩
          ⟨.ok plan, fields.later.fill run.shelf.nextSlot plan, fields.kept⟩
termination_by (remaining (run.enter id).shelf.ids, (S id).fields.length + 3)
decreasing_by
  rw [List.length_zipIdx]
  exact Prod.Lex.right _ (Nat.lt_succ_self _)

def addFields (book : Rulebook n) (S : Schema n) (run : Run n) (id : Fin n)
    (done : List (String × FieldPlan n Slot)) :
    List (FieldDef n × Nat) → Progress run (List (String × FieldPlan n Slot))
  | [] => ⟨.ok done, run, List.Subset.refl _⟩
  | (field, index) :: rest =>
      match book.fieldStages? S id field index with
      | .error error => ⟨.error error, run, List.Subset.refl _⟩
      | .ok none => addFields book S run id done rest
      | .ok (some stages) =>
          let nested := link? book S run (book.nested? field)
          match nested.result with
          | .error error => ⟨.error error, nested.later, nested.kept⟩
          | .ok link =>
              let part := ⟨.declared id index field, stages, link⟩
              (addFields book S nested.later id (Plan.addField field.name part done) rest).since
                nested.kept
termination_by fields => (remaining run.shelf.ids, fields.length + 2)
decreasing_by
  · exact Prod.Lex.right _ (Nat.lt_succ_self _)
  · exact Prod.Lex.right _ (Nat.succ_lt_succ (Nat.succ_pos _))
  · exact Prod.Lex.right' _ (remaining_le (Progress.kept _)) (Nat.lt_succ_self _)

-- A slot that the plan of the type is in, or will be.
def link? (book : Rulebook n) (S : Schema n) (run : Run n) :
    Option (Fin n) → Progress run (Option Slot)
  | none => ⟨.ok none, run, List.Subset.refl _⟩
  | some id =>
      if (run.shelf.slot? id).isSome then ⟨.ok (run.shelf.slot? id), run, List.Subset.refl _⟩
      else
        let made := build book S run id
        match made.result with
        | .error error => ⟨.error error, made.later, made.kept⟩
        | .ok plan => ⟨.ok (some made.later.shelf.nextSlot), made.later.hold plan, made.kept⟩
termination_by (remaining run.shelf.ids, 1)
decreasing_by
  exact Prod.Lex.left _ _ (run.remaining_enter id (Option.not_isSome_iff_eq_none.mp (by assumption)))

end

end Rulebook

end RecordRules
