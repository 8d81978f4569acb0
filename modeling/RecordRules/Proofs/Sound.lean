import RecordRules.Proofs.Blueprint

set_option autoImplicit false

namespace RecordRules

variable {n : Nat}

namespace Shelf

structure Kept (old later : Shelf n) : Prop where
  slot : ∀ id slot, old.slot? id = some slot → later.slot? id = some slot
  plan : ∀ slot plan, old.inSlot? slot = some plan → later.inSlot? slot = some plan

-- The slot of the type, or a slot that a plan of the type was put in.
def Promises (shelf : Shelf n) (slot : Slot) (id : Fin n) : Prop :=
  shelf.slot? id = some slot ∨ ∃ plan, shelf.inSlot? slot = some plan ∧ plan.record = id

theorem kept_refl (shelf : Shelf n) : shelf.Kept shelf := ⟨fun _ _ => id, fun _ _ => id⟩

theorem kept_trans {old middle later : Shelf n} (first : old.Kept middle) (second : middle.Kept later) :
    old.Kept later :=
  ⟨fun id slot there => second.slot id slot (first.slot id slot there),
    fun slot plan there => second.plan slot plan (first.plan slot plan there)⟩

theorem kept_plan {old later : Shelf n} (kept : old.Kept later) (id : Fin n) (plan : Plan n Slot)
    (there : old.plan? id = some plan) : later.plan? id = some plan := by
  obtain ⟨slot, owner, held⟩ := Option.bind_eq_some_iff.mp there
  exact Option.bind_eq_some_iff.mpr ⟨slot, kept.slot id slot owner, kept.plan slot plan held⟩

theorem kept_promises {old later : Shelf n} (kept : old.Kept later) (slot : Slot) (id : Fin n)
    (promised : old.Promises slot id) : later.Promises slot id := by
  rcases promised with owner | ⟨plan, held, record⟩
  · exact .inl (kept.slot id slot owner)
  · exact .inr ⟨plan, kept.plan slot plan held, record⟩

theorem in_slot_lt (shelf : Shelf n) (slot : Slot) (plan : Plan n Slot)
    (held : shelf.inSlot? slot = some plan) : slot < shelf.nextSlot := by
  refine Nat.lt_of_not_le fun behind => ?_
  rw [inSlot?, List.getElem?_eq_none behind] at held
  cases held

theorem plan_of_slot (shelf : Shelf n) (id : Fin n) (slot : Slot) (plan : Plan n Slot)
    (owner : shelf.slot? id = some slot) (held : shelf.inSlot? slot = some plan) :
    shelf.plan? id = some plan := by
  rw [plan?, owner]
  exact held

theorem mem_of_plan {shelf : Shelf n} {id : Fin n} {plan : Plan n Slot}
    (there : shelf.plan? id = some plan) : id ∈ shelf.ids := by
  obtain ⟨slot, owner, _⟩ := Option.bind_eq_some_iff.mp there
  exact (shelf.slot_isSome id).mp (Option.isSome_of_eq_some owner)

theorem kept_hold (shelf : Shelf n) (content : Option (Plan n Slot)) :
    shelf.Kept (shelf.hold content) := by
  refine ⟨fun _ _ there => there, fun slot plan held => ?_⟩
  rw [in_slot_hold, if_neg (Nat.ne_of_lt (shelf.in_slot_lt slot plan held)), held]

theorem kept_place (shelf : Shelf n) (id : Fin n) (slot : Slot) (fresh : shelf.slot? id = none) :
    shelf.Kept (shelf.place id slot) := by
  refine ⟨fun other old there => ?_, fun _ _ held => held⟩
  have different : other ≠ id := by
    rintro rfl
    cases there.symm.trans fresh
  rw [slot_place, if_neg different, there]

theorem kept_fill (shelf : Shelf n) (slot : Slot) (plan : Plan n Slot) (there : slot < shelf.nextSlot)
    (pending : shelf.inSlot? slot = none) : shelf.Kept (shelf.fill slot plan) := by
  refine ⟨fun _ _ there => there, fun other old held => ?_⟩
  have different : other ≠ slot := by
    rintro rfl
    cases held.symm.trans pending
  rw [in_slot_fill shelf slot other plan there pending, if_neg different, held]

end Shelf

namespace Rulebook

variable {book : Rulebook n} {S : Schema n}

theorem grown_in_slot {run later : Run n} (grown : Grown run later) (slot : Slot)
    (there : slot < run.shelf.nextSlot) : later.shelf.inSlot? slot = run.shelf.inSlot? slot := by
  obtain ⟨behind, appended⟩ := grown.slots
  rw [Shelf.inSlot?, ← appended, List.getElem?_append_left there]
  rfl

-- A slot may still wait for its plan, but every plan is linked to the blueprint of its type and is
-- also in the slot of that type.
structure Sound (book : Rulebook n) (S : Schema n) (shelf : Shelf n) : Prop where
  unique : shelf.ids.Nodup
  within : ∀ id slot, shelf.slot? id = some slot → slot < shelf.nextSlot
  apart : ∀ id other slot, shelf.slot? id = some slot → shelf.slot? other = some slot → id = other
  owned : ∀ id slot plan, shelf.slot? id = some slot → shelf.inSlot? slot = some plan →
    plan.record = id
  published : ∀ slot plan, shelf.inSlot? slot = some plan → shelf.plan? plan.record = some plan
  linked : ∀ slot plan, shelf.inSlot? slot = some plan →
    plan.Linked shelf.Promises (book.blueprint S plan.record)

theorem sound_empty : Sound book S (.empty : Shelf n) :=
  ⟨List.nodup_nil, nofun, nofun, nofun, nofun, nofun⟩

theorem linked_of_plan {shelf : Shelf n} (sound : Sound book S shelf) (id : Fin n) (plan : Plan n Slot)
    (there : shelf.plan? id = some plan) :
    plan.record = id ∧ plan.Linked shelf.Promises (book.blueprint S id) := by
  obtain ⟨slot, owner, held⟩ := Option.bind_eq_some_iff.mp there
  have record := sound.owned id slot plan owner held
  exact ⟨record, record ▸ sound.linked slot plan held⟩

theorem sound_enter {run : Run n} (sound : Sound book S run.shelf) (id : Fin n)
    (fresh : run.shelf.slot? id = none) : Sound book S (run.enter id).shelf := by
  have slots (other : Fin n) : (run.enter id).shelf.slot? other =
      if other = id then some run.shelf.nextSlot else run.shelf.slot? other :=
    Shelf.slot_place (run.shelf.hold none) id other run.shelf.nextSlot
  have contents (slot : Slot) : (run.enter id).shelf.inSlot? slot = run.shelf.inSlot? slot := by
    refine (run.shelf.in_slot_hold none slot).trans ?_
    split
    case isTrue last =>
      rw [Shelf.inSlot?, last, Shelf.nextSlot, List.getElem?_eq_none (Nat.le_refl _)]
      rfl
    case isFalse => rfl
  have kept : run.shelf.Kept (run.enter id).shelf :=
    Shelf.kept_trans (run.shelf.kept_hold none) (Shelf.kept_place _ id _ fresh)
  have longer : (run.enter id).shelf.nextSlot = run.shelf.nextSlot + 1 := List.length_append
  refine ⟨(grown_enter run id fresh).unique sound.unique, ?_, ?_, ?_, ?_, ?_⟩
  · intro other slot there
    rw [slots] at there
    rw [longer]
    split at there
    · exact Option.some.inj there ▸ Nat.lt_succ_self _
    · exact Nat.lt_succ_of_lt (sound.within other slot there)
  · intro one other slot first second
    rw [slots] at first second
    split at first <;> split at second
    case isTrue.isTrue here there => exact here.trans there.symm
    case isTrue.isFalse =>
      exact absurd (Option.some.inj first).symm (Nat.ne_of_lt (sound.within other slot second))
    case isFalse.isTrue =>
      exact absurd (Option.some.inj second).symm (Nat.ne_of_lt (sound.within one slot first))
    case isFalse.isFalse => exact sound.apart one other slot first second
  · intro other slot plan there held
    rw [slots] at there
    rw [contents] at held
    split at there
    · exact absurd (Option.some.inj there).symm (Nat.ne_of_lt (run.shelf.in_slot_lt slot plan held))
    · exact sound.owned other slot plan there held
  · intro slot plan held
    rw [contents] at held
    exact Shelf.kept_plan kept _ _ (sound.published slot plan held)
  · intro slot plan held
    rw [contents] at held
    exact linked_plan_mono (Shelf.kept_promises kept) (sound.linked slot plan held)

theorem sound_fill {shelf : Shelf n} (sound : Sound book S shelf) (slot : Slot) (plan : Plan n Slot)
    (owner : shelf.slot? plan.record = some slot) (pending : shelf.inSlot? slot = none)
    (linked : plan.Linked shelf.Promises (book.blueprint S plan.record)) :
    Sound book S (shelf.fill slot plan) := by
  have there := sound.within _ _ owner
  have contents := fun other => shelf.in_slot_fill slot other plan there pending
  have kept := shelf.kept_fill slot plan there pending
  have longer : (shelf.fill slot plan).nextSlot = shelf.nextSlot := List.length_modify ..
  refine ⟨sound.unique, fun id other there => ?_, sound.apart, ?_, ?_, ?_⟩
  · rw [longer]
    exact sound.within id other there
  · intro id other inner there held
    rw [contents] at held
    split at held
    case isTrue same =>
      exact Option.some.inj held ▸ sound.apart _ _ slot owner (same ▸ there)
    case isFalse => exact sound.owned id other inner there held
  · intro other inner held
    rw [contents] at held
    split at held
    case isTrue =>
      obtain rfl := Option.some.inj held
      exact Shelf.plan_of_slot _ _ slot plan owner (by rw [contents, if_pos rfl])
    case isFalse => exact Shelf.kept_plan kept _ _ (sound.published other inner held)
  · intro other inner held
    rw [contents] at held
    split at held
    case isTrue => exact Option.some.inj held ▸ linked_plan_mono (Shelf.kept_promises kept) linked
    case isFalse => exact linked_plan_mono (Shelf.kept_promises kept) (sound.linked other inner held)

theorem sound_hold {shelf : Shelf n} (sound : Sound book S shelf) (plan : Plan n Slot)
    (there : shelf.plan? plan.record = some plan) : Sound book S (shelf.hold (some plan)) := by
  have contents := shelf.in_slot_hold (some plan)
  have kept := shelf.kept_hold (some plan)
  have longer : (shelf.hold (some plan)).nextSlot = shelf.nextSlot + 1 := List.length_append
  refine ⟨sound.unique, fun id slot there => ?_, sound.apart, ?_, ?_, ?_⟩
  · rw [longer]
    exact Nat.lt_succ_of_lt (sound.within id slot there)
  · intro id slot inner owner held
    rw [contents, if_neg (Nat.ne_of_lt (sound.within id slot owner))] at held
    exact sound.owned id slot inner owner held
  · intro slot inner held
    refine Shelf.kept_plan kept _ _ ?_
    rw [contents] at held
    split at held
    case isTrue => exact Option.some.inj held ▸ there
    case isFalse => exact sound.published slot inner held
  · intro slot inner held
    refine linked_plan_mono (Shelf.kept_promises kept) ?_
    rw [contents] at held
    split at held
    case isTrue => exact Option.some.inj held ▸ (linked_of_plan sound _ plan there).2
    case isFalse => exact sound.linked slot inner held

structure Makes (book : Rulebook n) (S : Schema n) (run later : Run n) : Prop where
  sound : Sound book S later.shelf
  kept : run.shelf.Kept later.shelf
  filled : ∀ id slot, later.shelf.slot? id = some slot →
    run.shelf.slot? id = some slot ∨ (later.shelf.inSlot? slot).isSome

theorem makes_refl {run : Run n} (sound : Sound book S run.shelf) : Makes book S run run :=
  ⟨sound, run.shelf.kept_refl, fun _ _ => .inl⟩

theorem makes_trans {run middle later : Run n} (first : Makes book S run middle)
    (second : Makes book S middle later) : Makes book S run later := by
  refine ⟨second.sound, Shelf.kept_trans first.kept second.kept, fun id slot there => ?_⟩
  rcases second.filled id slot there with before | filled
  · refine (first.filled id slot before).imp_right fun filled => ?_
    obtain ⟨plan, held⟩ := Option.isSome_iff_exists.mp filled
    exact Option.isSome_of_eq_some (second.kept.plan slot plan held)
  · exact .inr filled

theorem makes_hold {run : Run n} {plan : Plan n Slot} (sound : Sound book S run.shelf)
    (there : run.shelf.plan? plan.record = some plan) : Makes book S run (run.hold plan) :=
  ⟨sound_hold sound plan there, run.shelf.kept_hold _, fun _ _ => .inl⟩

theorem makes_fill {run later : Run n} (id : Fin n) (plan : Plan n Slot)
    (fresh : run.shelf.slot? id = none) (made : Makes book S (run.enter id) later)
    (grown : Grown (run.enter id) later) (record : plan.record = id)
    (linked : plan.Linked later.shelf.Promises (book.blueprint S id)) :
    Makes book S run (later.fill run.shelf.nextSlot plan) ∧
      (later.fill run.shelf.nextSlot plan).shelf.plan? id = some plan := by
  subst record
  have slots (other : Fin n) : (run.enter plan.record).shelf.slot? other =
      if other = plan.record then some run.shelf.nextSlot else run.shelf.slot? other :=
    Shelf.slot_place (run.shelf.hold none) plan.record other run.shelf.nextSlot
  have owner : later.shelf.slot? plan.record = some run.shelf.nextSlot :=
    made.kept.slot _ _ (by rw [slots, if_pos rfl])
  have there := made.sound.within _ _ owner
  have pending : later.shelf.inSlot? run.shelf.nextSlot = none := by
    have within : run.shelf.nextSlot < (run.enter plan.record).shelf.nextSlot := by
      rw [Shelf.nextSlot, Shelf.nextSlot, Run.enter, Shelf.place, Shelf.hold, List.length_append]
      exact Nat.lt_succ_self _
    rw [grown_in_slot grown _ within]
    exact (run.shelf.in_slot_hold none _).trans (if_pos rfl)
  have filled : (later.fill run.shelf.nextSlot plan).shelf.inSlot? run.shelf.nextSlot = some plan :=
    (later.shelf.in_slot_fill _ _ plan there pending).trans (if_pos rfl)
  have kept := later.shelf.kept_fill _ plan there pending
  refine ⟨⟨sound_fill made.sound _ plan owner pending linked, ?_, ?_⟩,
    Shelf.plan_of_slot _ _ _ plan owner filled⟩
  · exact Shelf.kept_trans (Shelf.kept_trans (run.shelf.kept_hold none)
      (Shelf.kept_place _ _ _ fresh)) (Shelf.kept_trans made.kept kept)
  · intro other slot placed
    rcases made.filled other slot placed with entered | before
    · rw [slots] at entered
      split at entered
      · obtain rfl := Option.some.inj entered
        exact .inr (Option.isSome_of_eq_some filled)
      · exact .inl entered
    · obtain ⟨inner, held⟩ := Option.isSome_iff_exists.mp before
      exact .inr (Option.isSome_of_eq_some (kept.plan slot inner held))

mutual

theorem builds_sound {run later : Run n} {id : Fin n} {outcome : Except CompileError (Plan n Slot)}
    (built : Builds book S run id outcome later) (plan : Plan n Slot) (ends : outcome = .ok plan)
    (sound : Sound book S run.shelf) (fresh : run.shelf.slot? id = none) :
    Makes book S run later ∧ plan.record = id ∧ later.shelf.plan? id = some plan := by
  match built with
  | .noField _ => cases ends
  | .noCheck _ _ => cases ends
  | .made fields checks =>
      obtain ⟨made, entries⟩ := adds_sound fields _ rfl (sound_enter sound id fresh)
      cases ends
      have linked : Plan.Linked _ ⟨id, _, _⟩ (book.blueprint S id) :=
        ⟨rfl, entries [] .nil, linked_draw_checks _ checks⟩
      obtain ⟨filled, there⟩ := makes_fill id _ fresh made (adds_grow fields) rfl linked
      exact ⟨filled, rfl, there⟩

theorem adds_sound {run later : Run n} {id : Fin n} {done : List (String × FieldPlan n Slot)}
    {fields : List (FieldDef n × Nat)}
    {outcome : Except CompileError (List (String × FieldPlan n Slot))}
    (adds : Adds book S run id done fields outcome later) (all : List (String × FieldPlan n Slot))
    (ends : outcome = .ok all) (sound : Sound book S run.shelf) :
    Makes book S run later ∧ ∀ drawn, List.Forall₂ (LinkedEntry run.shelf.Promises) done drawn →
      List.Forall₂ (LinkedEntry later.shelf.Promises) all
        (fields.foldl (book.drawField S id) drawn) := by
  match adds with
  | .nil =>
      cases ends
      exact ⟨makes_refl sound, fun _ linked => linked⟩
  | .noStages _ => cases ends
  | .skipped stages others =>
      obtain ⟨made, linked⟩ := adds_sound others all ends sound
      refine ⟨made, fun drawn before => ?_⟩
      rw [List.foldl_cons, drawField, stages]
      exact linked drawn before
  | .noLink _ _ => cases ends
  | .added read nested others =>
      obtain ⟨made, link⟩ := links_sound nested _ rfl sound
      obtain ⟨madeRest, linked⟩ := adds_sound others all ends made.sound
      refine ⟨makes_trans made madeRest, fun drawn before => ?_⟩
      rw [List.foldl_cons, drawField, read]
      exact linked _ (linked_add_field _ _ _ _ ⟨rfl, rfl, link⟩
        (linked_entries_mono (Shelf.kept_promises made.kept) before))

theorem links_sound {run later : Run n} {nested : Option (Fin n)}
    {outcome : Except CompileError (Option Slot)} (links : Links book S run nested outcome later)
    (link : Option Slot) (ends : outcome = .ok link) (sound : Sound book S run.shelf) :
    Makes book S run later ∧ Option.Rel later.shelf.Promises link nested := by
  match links with
  | .none =>
      cases ends
      exact ⟨makes_refl sound, .none⟩
  | .known there =>
      cases ends
      exact ⟨makes_refl sound, .some (.inl there)⟩
  | .failed _ _ => cases ends
  | .made fresh build =>
      obtain ⟨made, record, there⟩ := builds_sound build _ rfl sound fresh
      cases ends
      refine ⟨makes_trans made (makes_hold made.sound (record.symm ▸ there)), .some (.inr ⟨_, ?_, record⟩)⟩
      exact (Shelf.in_slot_hold _ _ _).trans (if_pos rfl)

end

end Rulebook

end RecordRules
