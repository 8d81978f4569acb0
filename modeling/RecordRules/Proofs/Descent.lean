import Mathlib.Logic.Relation
import RecordRules.Proofs.Growth
import RecordRules.Validator

set_option autoImplicit false

namespace RecordRules

namespace Rulebook

variable {n : Nat} {book : Rulebook n} {S : Schema n}

mutual

theorem builds_ends {run later : Run n} {id : Fin n} {outcome : Except CompileError (Plan n Slot)}
    (built : Builds book S run id outcome later) :
    (book.build S run id).result = outcome ∧ (book.build S run id).later = later := by
  match built with
  | .noField fields =>
      obtain ⟨result, left⟩ := adds_ends fields
      rw [build]
      simp [Progress.since, result, left]
  | .noCheck fields checks =>
      obtain ⟨result, left⟩ := adds_ends fields
      rw [build]
      simp [Progress.since, result, left, checks]
  | .made fields checks =>
      obtain ⟨result, left⟩ := adds_ends fields
      rw [build]
      simp [Progress.since, result, left, checks]

theorem adds_ends {run later : Run n} {id : Fin n} {done : List (String × FieldPlan n Slot)}
    {fields : List (FieldDef n × Nat)}
    {outcome : Except CompileError (List (String × FieldPlan n Slot))}
    (adds : Adds book S run id done fields outcome later) :
    (book.addFields S run id done fields).result = outcome ∧
      (book.addFields S run id done fields).later = later := by
  match adds with
  | .nil => simp [addFields]
  | .noStages stages => simp [addFields, stages]
  | .skipped stages others =>
      obtain ⟨result, left⟩ := adds_ends others
      simp [addFields, stages, result, left]
  | .noLink read nested =>
      obtain ⟨result, left⟩ := links_ends nested
      rw [addFields]
      simp [read, result, left]
  | .added read nested others =>
      obtain ⟨linked, between⟩ := links_ends nested
      obtain ⟨result, left⟩ := adds_ends others
      subst between
      rw [addFields]
      simp [read, linked, Progress.since, result, left]

theorem links_ends {run later : Run n} {nested : Option (Fin n)}
    {outcome : Except CompileError (Option Slot)} (links : Links book S run nested outcome later) :
    (book.link? S run nested).result = outcome ∧ (book.link? S run nested).later = later := by
  match links with
  | .none => simp [link?]
  | .known there => simp [link?, there]
  | .failed fresh build =>
      obtain ⟨result, left⟩ := builds_ends build
      rw [link?]
      simp [fresh, result, left]
  | .made fresh build =>
      obtain ⟨result, left⟩ := builds_ends build
      rw [link?]
      simp [fresh, result, left]

end

theorem adds_append {run middle later : Run n} {id : Fin n}
    {before done : List (String × FieldPlan n Slot)} {front : List (FieldDef n × Nat)}
    {outcome : Except CompileError (List (String × FieldPlan n Slot))}
    (ahead : Adds book S run id before front (.ok done) middle) (back : List (FieldDef n × Nat))
    (others : Adds book S middle id done back outcome later) :
    Adds book S run id before (front ++ back) outcome later := by
  match ahead with
  | .nil => exact others
  | .skipped stages rest => exact .skipped stages (adds_append rest back others)
  | .added read nested rest => exact .added read nested (adds_append rest back others)

-- A build is named by the run that it finds and by its record type. It opens another one at a field
-- whose type has no slot by then.
inductive Opens (book : Rulebook n) (S : Schema n) : Run n × Fin n → Run n × Fin n → Prop where
  | field {run middle : Run n} {id inner : Fin n} {front back : List (FieldDef n × Nat)}
      {field : FieldDef n} {index : Nat} {done : List (String × FieldPlan n Slot)}
      {stages : List (Stage n)} (declared : (S id).fields.zipIdx = front ++ (field, index) :: back)
      (ahead : Adds book S (run.enter id) id [] front (.ok done) middle)
      (read : book.fieldStages? S id field index = .ok (some stages))
      (nests : book.nested? field = some inner) (fresh : middle.shelf.slot? inner = none) :
      Opens book S (run, id) (middle, inner)

structure Visits (run later : Run n) (new : List (Fin n)) : Prop where
  entered : later.entered = new ++ run.entered
  ids : ∀ id, id ∈ later.shelf.ids ↔ id ∈ new ∨ id ∈ run.shelf.ids
  once : new.Nodup
  apart : ∀ id ∈ new, id ∉ run.shelf.ids

theorem visits_nothing (run : Run n) : Visits run run [] :=
  ⟨rfl, by simp, List.nodup_nil, nofun⟩

theorem visits_enter (run : Run n) (id : Fin n) (fresh : run.shelf.slot? id = none) :
    Visits run (run.enter id) [id] := by
  have out : id ∉ run.shelf.ids := (run.shelf.slot_eq_none id).mp fresh
  refine ⟨rfl, fun other => ?_, by simp, ?_⟩
  · rw [run.mem_ids_enter, List.mem_singleton]
  · intro other member
    rw [List.mem_singleton.mp member]
    exact out

theorem visits_trans {run middle later : Run n} {first second : List (Fin n)}
    (before : Visits run middle first) (after : Visits middle later second) :
    Visits run later (second ++ first) := by
  have behind : ∀ id ∈ second, id ∉ first ∧ id ∉ run.shelf.ids := fun id member => by
    have unknown := after.apart id member
    rw [before.ids] at unknown
    exact not_or.mp unknown
  refine ⟨?_, fun id => ?_, ?_, ?_⟩
  · rw [after.entered, before.entered, List.append_assoc]
  · rw [after.ids, before.ids, List.mem_append, or_assoc]
  · refine List.nodup_append.mpr ⟨after.once, before.once, ?_⟩
    intro id late other early same
    exact (behind id late).1 (same ▸ early)
  · intro id member
    rcases List.mem_append.mp member with late | early
    · exact (behind id late).2
    · exact before.apart id early

mutual

theorem builds_visit {run later : Run n} {id : Fin n} {outcome : Except CompileError (Plan n Slot)}
    (built : Builds book S run id outcome later) : ∃ new, Visits (run.enter id) later new := by
  match built with
  | .noField fields => exact adds_visit fields
  | .noCheck fields _ => exact adds_visit fields
  | .made fields _ =>
      obtain ⟨new, visits⟩ := adds_visit fields
      exact ⟨new, visits.entered, visits.ids, visits.once, visits.apart⟩

theorem adds_visit {run later : Run n} {id : Fin n} {done : List (String × FieldPlan n Slot)}
    {fields : List (FieldDef n × Nat)}
    {outcome : Except CompileError (List (String × FieldPlan n Slot))}
    (adds : Adds book S run id done fields outcome later) : ∃ new, Visits run later new := by
  match adds with
  | .nil => exact ⟨[], visits_nothing run⟩
  | .noStages _ => exact ⟨[], visits_nothing run⟩
  | .skipped _ others => exact adds_visit others
  | .noLink _ nested => exact links_visit nested
  | .added _ nested others =>
      obtain ⟨first, before⟩ := links_visit nested
      obtain ⟨second, after⟩ := adds_visit others
      exact ⟨second ++ first, visits_trans before after⟩

theorem links_visit {run later : Run n} {nested : Option (Fin n)}
    {outcome : Except CompileError (Option Slot)} (links : Links book S run nested outcome later) :
    ∃ new, Visits run later new := by
  match links with
  | .none => exact ⟨[], visits_nothing run⟩
  | .known _ => exact ⟨[], visits_nothing run⟩
  | .failed fresh build =>
      obtain ⟨new, visits⟩ := builds_visit build
      exact ⟨new ++ [_], visits_trans (visits_enter run _ fresh) visits⟩
  | .made fresh build =>
      obtain ⟨new, visits⟩ := builds_visit build
      have through := visits_trans (visits_enter run _ fresh) visits
      exact ⟨new ++ [_], through.entered, through.ids, through.once, through.apart⟩

end

theorem Visits.suffix {run later : Run n} {new : List (Fin n)} (visits : Visits run later new) :
    run.entered <:+ later.entered := ⟨new, visits.entered.symm⟩

theorem fields_entered {run later : Run n} {id : Fin n} {outcome : Except CompileError (Plan n Slot)}
    (built : Builds book S run id outcome later) :
    later.entered = (book.addFields S (run.enter id) id [] (S id).fields.zipIdx).later.entered := by
  match built with
  | .noField fields => rw [(adds_ends fields).2]
  | .noCheck fields _ => rw [(adds_ends fields).2]
  | .made fields _ =>
      rw [(adds_ends fields).2]
      rfl

theorem link_entered {run later : Run n} {id : Fin n} {outcome : Except CompileError (Option Slot)}
    (fresh : run.shelf.slot? id = none) (links : Links book S run (some id) outcome later) :
    later.entered = (book.build S run id).later.entered := by
  match links with
  | .known there => simp [fresh] at there
  | .failed _ build => rw [(builds_ends build).2]
  | .made _ build =>
      rw [(builds_ends build).2]
      rfl

theorem field_entered {run middle : Run n} {id : Fin n} {field : FieldDef n} {index : Nat}
    {stages : List (Stage n)} {link : Except CompileError (Option Slot)}
    (read : book.fieldStages? S id field index = .ok (some stages))
    (nested : Links book S run (book.nested? field) link middle)
    (done : List (String × FieldPlan n Slot)) (rest : List (FieldDef n × Nat)) :
    middle.entered <:+ (book.addFields S run id done ((field, index) :: rest)).later.entered := by
  cases link with
  | error error =>
      have adds : Adds book S run id done ((field, index) :: rest) (.error error) middle :=
        .noLink read nested
      simp [(adds_ends adds).2]
  | ok slot =>
      have others : Adds book S middle id
          (Plan.addField field.name ⟨.declared id index field, stages, slot⟩ done) rest _ _ :=
        adds_add_fields middle id _ rest
      obtain ⟨new, visits⟩ := adds_visit others
      rw [(adds_ends (.added read nested others)).2]
      exact visits.suffix

theorem opens_entered {outer inner : Run n × Fin n} (opens : Opens book S outer inner) :
    (book.build S inner.1 inner.2).later.entered <:+ (book.build S outer.1 outer.2).later.entered := by
  obtain @⟨run, middle, id, type, front, back, field, index, done, stages, declared, ahead, read, nests,
    fresh⟩ := opens
  have nested : Links book S middle (book.nested? field) _ _ := links_link middle (book.nested? field)
  have kept := field_entered read nested done back
  rw [nests] at kept nested
  rw [link_entered fresh nested] at kept
  have rest : Adds book S middle id done ((field, index) :: back) _ _ := adds_add_fields middle id done _
  have whole := adds_append ahead ((field, index) :: back) rest
  rw [← declared] at whole
  rw [fields_entered (builds_build run id), (adds_ends whole).2]
  exact kept

abbrev Within (book : Rulebook n) (S : Schema n) (outer inner : Run n × Fin n) : Prop :=
  Relation.ReflTransGen (Opens book S) outer inner

theorem within_entered {outer inner : Run n × Fin n} (within : Within book S outer inner) :
    (book.build S inner.1 inner.2).later.entered <:+ (book.build S outer.1 outer.2).later.entered := by
  induction within with
  | refl => exact List.suffix_refl _
  | tail _ opens ih => exact (opens_entered opens).trans ih

theorem within_place {outer inner : Run n × Fin n} (within : Within book S outer inner) :
    inner.2 :: inner.1.entered <:+ (book.build S outer.1 outer.2).later.entered := by
  have built : Builds book S inner.1 inner.2 _ _ := builds_build inner.1 inner.2
  obtain ⟨new, visits⟩ := builds_visit built
  exact visits.suffix.trans (within_entered within)

def Accounts (book : Rulebook n) (S : Schema n) (outer : Run n × Fin n) (entered : List (Fin n)) :
    Prop :=
  ∀ type ∈ entered, type ∈ outer.1.entered ∨ ∃ run, Within book S outer (run, type)

theorem accounts_enter (run : Run n) (id : Fin n) :
    Accounts book S (run, id) (run.enter id).entered := by
  intro type entered
  rcases List.mem_cons.mp entered with same | before
  · subst same
    exact .inr ⟨run, .refl⟩
  · exact .inl before

theorem accounts_inner {outer : Run n × Fin n} {run : Run n} {id : Fin n} {entered : List (Fin n)}
    (opens : Opens book S outer (run, id)) (known : Accounts book S outer run.entered)
    (inside : Accounts book S (run, id) entered) : Accounts book S outer entered := by
  intro type member
  rcases inside type member with before | ⟨found, within⟩
  · exact known type before
  · exact .inr ⟨found, .head opens within⟩

mutual

theorem builds_account {run later : Run n} {id : Fin n} {outcome : Except CompileError (Plan n Slot)}
    (built : Builds book S run id outcome later) : Accounts book S (run, id) later.entered := by
  match built with
  | .noField fields => exact adds_account fields rfl .nil (accounts_enter run id)
  | .noCheck fields _ => exact adds_account fields rfl .nil (accounts_enter run id)
  | .made fields _ =>
      have known := adds_account fields rfl .nil (accounts_enter run id)
      exact known

-- The fields in front are carried along: a build that is opened at a field finds the run that they
-- leave.
theorem adds_account {start run later : Run n} {id : Fin n}
    {done : List (String × FieldPlan n Slot)} {front fields : List (FieldDef n × Nat)}
    {outcome : Except CompileError (List (String × FieldPlan n Slot))}
    (adds : Adds book S run id done fields outcome later)
    (declared : (S id).fields.zipIdx = front ++ fields)
    (ahead : Adds book S (start.enter id) id [] front (.ok done) run)
    (known : Accounts book S (start, id) run.entered) :
    Accounts book S (start, id) later.entered := by
  match adds with
  | .nil => exact known
  | .noStages _ => exact known
  | .skipped stages others =>
      refine adds_account others ?_ (adds_append ahead [_] (.skipped stages .nil)) known
      rw [declared, List.append_assoc, List.singleton_append]
  | .noLink read nested =>
      exact links_account nested (fun _ nests fresh => .field declared ahead read nests fresh) known
  | .added read nested others =>
      have opened := links_account nested
        (fun _ nests fresh => .field declared ahead read nests fresh) known
      refine adds_account others ?_ (adds_append ahead [_] (.added read nested .nil)) opened
      rw [declared, List.append_assoc, List.singleton_append]

theorem links_account {outer : Run n × Fin n} {run later : Run n} {nested : Option (Fin n)}
    {outcome : Except CompileError (Option Slot)} (links : Links book S run nested outcome later)
    (opens : ∀ id, nested = some id → run.shelf.slot? id = none → Opens book S outer (run, id))
    (known : Accounts book S outer run.entered) : Accounts book S outer later.entered := by
  match links with
  | .none => exact known
  | .known _ => exact known
  | .failed fresh build => exact accounts_inner (opens _ rfl fresh) known (builds_account build)
  | .made fresh build =>
      have inside := accounts_inner (opens _ rfl fresh) known (builds_account build)
      exact inside

end

-- A type has its slot before its fields are looked at, and a nested type is entered only where it has
-- none. So each build inside of another leaves fewer types without a slot.
theorem opens_fewer {outer inner : Run n × Fin n} (opens : Opens book S outer inner) :
    inner.2 ∉ inner.1.shelf.ids ∧
      remaining (inner.1.enter inner.2).shelf.ids < remaining inner.1.shelf.ids ∧
      remaining inner.1.shelf.ids ≤ remaining (outer.1.enter outer.2).shelf.ids := by
  obtain @⟨run, middle, id, type, _, _, _, _, _, _, _, ahead, _, _, fresh⟩ := opens
  obtain ⟨new, visits⟩ := adds_visit ahead
  refine ⟨(middle.shelf.slot_eq_none type).mp fresh, middle.remaining_enter type fresh, ?_⟩
  exact remaining_le fun other member => (visits.ids other).mpr (.inr member)

theorem opens_well_founded : WellFounded fun inner outer => Opens book S outer inner := by
  have measured := (measure fun build : Run n × Fin n => remaining (build.1.enter build.2).shelf.ids).wf
  refine Subrelation.wf (fun {inner outer} opens => ?_) measured
  obtain ⟨_, less, kept⟩ := opens_fewer opens
  exact Nat.lt_of_lt_of_le less kept

end Rulebook

open Rulebook

namespace Validator

variable {n : Nat}

theorem compile_outcome (validator : Validator n) (S : Schema n) (id : Fin n) :
    (validator.compile S id).1 =
      (validator.shelf.plan? id).elim (validator.book.build S ⟨validator.shelf, []⟩ id).result .ok := by
  rw [compile]
  cases validator.shelf.plan? id with
  | some plan => rfl
  | none =>
      dsimp only [Option.elim]
      cases (validator.book.build S ⟨validator.shelf, []⟩ id).result with
      | ok plan => rfl
      | error error => rfl

theorem compile_enters_once (validator : Validator n) (S : Schema n) (root : Fin n) :
    let book := validator.book
    let start : Run n := ⟨validator.shelf, []⟩
    let made := book.build S start root
    (validator.compile S root).1 = (validator.shelf.plan? root).elim made.result .ok ∧
    (∀ outcome later, Builds book S start root outcome later ↔
      outcome = made.result ∧ later = made.later) ∧
    made.later.entered.Nodup ∧
    (∀ type, type ∈ made.later.entered ↔ ∃ run, Within book S (start, root) (run, type)) ∧
    (∀ run type, Within book S (start, root) (run, type) →
      type :: run.entered <:+ made.later.entered) ∧
    (WellFounded fun inner outer => Opens book S outer inner) ∧
    ∀ outer inner, Opens book S outer inner →
      inner.2 ∉ inner.1.shelf.ids ∧
      remaining (inner.1.enter inner.2).shelf.ids < remaining inner.1.shelf.ids ∧
      remaining inner.1.shelf.ids ≤ remaining (outer.1.enter outer.2).shelf.ids := by
  intro book start made
  have built : Builds book S start root made.result made.later := builds_build start root
  obtain ⟨new, visits⟩ := builds_visit built
  refine ⟨validator.compile_outcome S root, ?_, ?_, ?_, ?_, opens_well_founded, ?_⟩
  · intro outcome later
    refine ⟨fun other => ?_, fun ⟨same, left⟩ => same ▸ left ▸ built⟩
    obtain ⟨same, left⟩ := builds_ends other
    exact ⟨same.symm, left.symm⟩
  · rw [visits.entered]
    refine List.nodup_append.mpr ⟨visits.once, by simp [Run.enter, start], ?_⟩
    intro type behind first listed same
    have own : first = root := by simpa [Run.enter, start] using listed
    exact visits.apart type behind ((start.mem_ids_enter root type).mpr (.inl (same.trans own)))
  · intro type
    refine ⟨fun entered => ?_, fun ⟨run, within⟩ => (within_place within).subset (by simp)⟩
    rcases builds_account built type entered with before | found
    · cases before
    · exact found
  · intro run type within
    exact within_place within
  · intro outer inner opens
    exact opens_fewer opens

def nodeId : Fin 2 := ⟨0, Nat.two_pos⟩

def peerId : Fin 2 := ⟨1, Nat.one_lt_two⟩

def looped : Schema 2 := fun id =>
  if id = nodeId then
    { name := "Node"
      fields := [⟨"own", .record nodeId, "", true⟩, ⟨"peer", .optional (.record peerId), "", true⟩]
      checks := [] }
  else
    { name := "Peer"
      fields := [⟨"back", .optional (.record nodeId), "", true⟩, ⟨"next", .optional (.record peerId), "", true⟩]
      checks := [] }

example : (Rulebook.standard.build looped ⟨.empty, []⟩ nodeId).later.entered = [peerId, nodeId] := by cbv

end Validator

end RecordRules
