import Mathlib
import RecordRules.Proofs.Concatenation
import RecordRules.Proofs.Expansion
import RecordRules.Proofs.Stages
import RecordRules.Constraint.Verdict

set_option autoImplicit false

namespace RecordRules

variable {n : Nat}

namespace Constraint

variable {S : Schema n} {record : Instance n} {value : Value n}

theorem violations_some_iff (branches : List (Constraint n)) (nested : List Violation) :
    violations? S record value branches = some nested ↔
      List.Forall₂ (fun branch own => branch.violation? S record value = some own) branches nested := by
  induction branches generalizing nested with
  | nil =>
      rw [violations?, Option.some.injEq, List.forall₂_nil_left_iff]
      exact eq_comm
  | cons branch rest ih =>
      rw [violations?, List.forall₂_cons_left_iff]
      cases first : branch.violation? S record value with
      | none => simp
      | some own =>
          rw [Option.map_eq_some_iff]
          constructor
          · rintro ⟨others, told, rfl⟩
            exact ⟨own, others, rfl, (ih others).mp told, rfl⟩
          · rintro ⟨_, others, same, told, rfl⟩
            cases same
            exact ⟨others, (ih others).mpr told, rfl⟩

theorem violations_none_iff (branches : List (Constraint n)) :
    violations? S record value branches = none ↔
      ∃ branch ∈ branches, branch.violation? S record value = none := by
  induction branches with
  | nil => simp [violations?]
  | cons branch rest ih =>
      rw [violations?, List.exists_mem_cons_iff, ← ih]
      cases branch.violation? S record value with
      | none => simp
      | some own => simp

theorem group_passes_iff (branches : List (Constraint n)) :
    (anyOf branches).violation? S record value = none ↔
      value.isEmpty = true ∨ ∃ branch ∈ branches, branch.violation? S record value = none := by
  rw [violation?]
  by_cases empty : value.isEmpty = true
  · simp [empty]
  · rw [if_neg empty, Option.map_eq_none_iff, violations_none_iff]
    simp [empty]

theorem group_fails {branches : List (Constraint n)} {violation : Violation}
    (failed : (anyOf branches).violation? S record value = some violation) :
    List.Forall₂ (fun branch own => branch.violation? S record value = some own) branches
      violation.nested := by
  rw [violation?] at failed
  split at failed
  · cases failed
  · obtain ⟨nested, told, rfl⟩ := Option.map_eq_some_iff.mp failed
    exact (violations_some_iff branches nested).mp told

mutual

def leaves : Constraint n → List (Constraint n)
  | leaf rule => [leaf rule]
  | cross rule => [cross rule]
  | anyOf branches => leavesAll branches

def leavesAll : List (Constraint n) → List (Constraint n)
  | [] => []
  | branch :: rest => branch.leaves ++ leavesAll rest

end

mutual

-- Each group looks at the value first, but a value that one of them does not pass over is not passed over
-- by another.
theorem passes_leaf (filled : value.isEmpty = false) (constraint : Constraint n) :
    constraint.violation? S record value = none ↔
      ∃ leaf ∈ constraint.leaves, leaf.violation? S record value = none := by
  match constraint with
  | .leaf rule => simp [leaves]
  | .cross rule => simp [leaves]
  | .anyOf branches =>
      rw [group_passes_iff, leaves, ← passes_leaves filled branches, filled]
      simp

theorem passes_leaves (filled : value.isEmpty = false) (branches : List (Constraint n)) :
    (∃ branch ∈ branches, branch.violation? S record value = none) ↔
      ∃ leaf ∈ leavesAll branches, leaf.violation? S record value = none := by
  match branches with
  | [] => simp [leavesAll]
  | branch :: rest =>
      rw [List.exists_mem_cons_iff, passes_leaf filled branch, passes_leaves filled rest, leavesAll]
      simp only [List.mem_append, or_and_right, exists_or]

end

mutual

theorem leaf_single (constraint : Constraint n) :
    ∀ leaf ∈ constraint.leaves, ∀ inner, leaf ≠ anyOf inner := by
  match constraint with
  | .leaf rule => simp [leaves]
  | .cross rule => simp [leaves]
  | .anyOf branches =>
      rw [leaves]
      exact leaves_single branches

theorem leaves_single (branches : List (Constraint n)) :
    ∀ leaf ∈ leavesAll branches, ∀ inner, leaf ≠ anyOf inner := by
  match branches with
  | [] => simp [leavesAll]
  | branch :: rest =>
      rw [leavesAll]
      exact List.forall_mem_append.mpr ⟨leaf_single branch, leaves_single rest⟩

end

theorem group_congr {branches others : List (Constraint n)}
    (same : ∀ leaf, leaf ∈ leavesAll branches ↔ leaf ∈ leavesAll others) :
    (anyOf branches).violation? S record value = none ↔ (anyOf others).violation? S record value = none := by
  rw [group_passes_iff, group_passes_iff]
  cases filled : value.isEmpty with
  | true => simp
  | false =>
      rw [passes_leaves filled branches, passes_leaves filled others]
      simp only [same]

theorem leaves_append (front back : List (Constraint n)) :
    leavesAll (front ++ back) = leavesAll front ++ leavesAll back := by
  induction front with
  | nil => rw [List.nil_append, leavesAll, List.nil_append]
  | cons branch rest ih => rw [List.cons_append, leavesAll, ih, leavesAll, List.append_assoc]

theorem mem_leaves_iff (branches : List (Constraint n)) (leaf : Constraint n) :
    leaf ∈ leavesAll branches ↔ ∃ branch ∈ branches, leaf ∈ branch.leaves := by
  induction branches with
  | nil => simp [leavesAll]
  | cons branch rest ih => rw [leavesAll, List.mem_append, ih, List.exists_mem_cons_iff]

theorem leaves_leaves (branches : List (Constraint n)) :
    leavesAll (leavesAll branches) = leavesAll branches := by
  have alone : ∀ others : List (Constraint n), (∀ leaf ∈ others, ∀ inner, leaf ≠ anyOf inner) →
      leavesAll others = others := by
    intro others single
    induction others with
    | nil => rw [leavesAll]
    | cons leaf rest ih =>
        obtain ⟨first, later⟩ := List.forall_mem_cons.mp single
        rw [leavesAll, ih later]
        cases leaf with
        | leaf rule => rfl
        | cross rule => rfl
        | anyOf inner => exact absurd rfl (first inner)
  exact alone _ (leaves_single branches)

theorem nested_replaced (front inner back : List (Constraint n)) :
    (anyOf (front ++ anyOf inner :: back)).violation? S record value = none ↔
      (anyOf (front ++ inner ++ back)).violation? S record value = none := by
  apply group_congr
  intro leaf
  rw [leaves_append, leavesAll, leaves, leaves_append, leaves_append, List.append_assoc]

end Constraint

namespace Grammar

open Text

structure NamesBranch (expand : Expansion) (front : List (List Char)) (written : List Char)
    (back : List (List Char)) (body : List Char) : Prop where
  named : IsSegment (trim written)
  noBar : '|' ∉ trim written
  known : expand (trim written) = some body
  others : AreBranches front back
  unaliased : expand (trim (group front written back)) = none

section NamesBranch

variable {expand : Expansion} {front back : List (List Char)} {written body : List Char}
  (names : NamesBranch expand front written back body)
include names

theorem no_comma_named : ',' ∉ written := fun member =>
  names.named.noComma ((mem_trim written ',' (by decide)).mpr member)

theorem read_alias_branch : readAll expand (pieces '|' written) =
    if ',' ∈ body then .error (.notAlternative (String.ofList (trim written)))
    else readAll noExpansion (pieces '|' body) :=
  read_known_branch names.named names.known rfl names.noBar

theorem read_named_group (done : List Rule) :
    addText expand done (group front written back) = (do
      let left ← readAll expand front
      let inner ← readAll expand (pieces '|' written)
      let right ← readAll expand back
      return .anyOf (left ++ inner ++ right) :: done) := by
  have noBar := names.others.noBar
  have frontWhole := pieces_branches front fun branch member =>
    noBar branch (List.mem_append_left _ member)
  have backWhole := pieces_branches back fun branch member =>
    noBar branch (List.mem_append_right _ member)
  rw [add_group names.others expand done written (no_comma_named names) names.unaliased, frontWhole, backWhole,
    read_all_append, read_all_append]
  cases readAll expand front with
  | error error => rfl
  | ok left =>
      cases readAll expand (pieces '|' written) with
      | error error => rfl
      | ok inner =>
          cases readAll expand back with
          | error error => rfl
          | ok right =>
              refine congrArg Except.ok ?_
              rw [List.append_assoc]

theorem filled_named : trim (group front written back) ≠ [] :=
  trim_ne_nil _ '|' (by decide) (bar_group names.others written)

theorem named_group_read (before after : Option (List Char)) {rules : List Rule}
    (read : readRules expand (around before (group front written back) after) = .ok rules) :
    ∃ ahead left inner right behind, rules = ahead ++ .anyOf (left ++ inner ++ right) :: behind ∧
      readAll expand front = .ok left ∧ readAll noExpansion (pieces '|' body) = .ok inner ∧
      readAll expand back = .ok right := by
  rw [read_around expand before after _ (filled_named names)] at read
  obtain ⟨final, made, rfl⟩ := ok_of_map read
  obtain ⟨done, _, made⟩ := ok_of_bind made
  obtain ⟨longer, added, made⟩ := ok_of_bind made
  rw [read_named_group names, read_alias_branch names] at added
  obtain ⟨left, frontRead, added⟩ := ok_of_bind added
  obtain ⟨inner, bodyRead, added⟩ := ok_of_bind added
  obtain ⟨right, backRead, added⟩ := ok_of_bind added
  obtain rfl := Except.ok.inj added
  have lengthens : Lengthens (.anyOf (left ++ inner ++ right) :: done) final := by
    cases after with
    | none => exact Except.ok.inj made ▸ lengthens_refl _
    | some text =>
        obtain ⟨reached, behindRead, made⟩ := ok_of_bind made
        obtain rfl := Except.ok.inj made
        exact (add_text_ok expand text _ _ behindRead).2
  split at bodyRead
  · cases bodyRead
  · cases lengthens with
    | @on _ kept extended more _ =>
        -- What comes after a group does not add to it.
        cases extended with
        | same => exact ⟨done.reverse, left, inner, right, more.reverse, by simp, frontRead, bodyRead, backRead⟩

theorem named_group_written (plain : ',' ∉ body)
    (unaliased : ∀ branch ∈ pieces '|' body, expand (trim branch) = none)
    (bodyUnaliased : expand (trim (group front body back)) = none) (before after : Option (List Char)) :
    readRules expand (around before (group front written back) after) =
      readRules expand (around before (group front body back) after) := by
  have same : readAll expand (pieces '|' written) = readAll expand (pieces '|' body) := by
    rw [read_alias_branch names, if_neg plain, read_all_flat expand (pieces '|' body) unaliased,
      read_all_flat noExpansion _ fun _ _ => rfl]
  exact read_group_around names.others expand same (no_comma_named names) plain names.unaliased bodyUnaliased
    before after

end NamesBranch

end Grammar

namespace Rulebook

open Grammar Text

variable {book : Rulebook n} {S : Schema n} {anchor : FieldPath n}

def branchesOf (book : Rulebook n) (S : Schema n) (anchor : FieldPath n) (expand : Expansion)
    (branches : List (List Char)) : Except RuleError (List (Constraint n)) := do
  (← readAll expand branches).mapM (Constraint.ofBranch S book.catalog anchor)

theorem group_stage {clauses : List Clause} {stage : Stage n}
    (made : book.stage S anchor (.anyOf clauses) = .ok stage) :
    ∃ branches, clauses.mapM (Constraint.ofBranch S book.catalog anchor) = .ok branches ∧
      stage = .test (.anyOf branches) := by
  obtain ⟨group, read, rfl⟩ := ok_of_map made
  obtain ⟨branches, found, same⟩ := ok_of_bind read
  exact ⟨branches, found, congrArg Stage.test (Except.ok.inj same).symm⟩

theorem named_group_stages {front back : List (List Char)} {written body : List Char}
    (names : NamesBranch (aliasExpansion book.settings.aliases) front written back body)
    (before after : Option (List Char)) {stages : List (Stage n)}
    (made : book.stages? S anchor (String.ofList (around before (group front written back) after)) =
      .ok (some stages)) :
    ∃ ahead left inner right behind, stages = ahead ++ .test (.anyOf (left ++ inner ++ right)) :: behind ∧
      book.branchesOf S anchor (aliasExpansion book.settings.aliases) front = .ok left ∧
      book.branchesOf S anchor noExpansion (pieces '|' body) = .ok inner ∧
      book.branchesOf S anchor (aliasExpansion book.settings.aliases) back = .ok right := by
  obtain ⟨parsed, read, ⟨_, noneMade⟩ | ⟨_, _, same, pointwise⟩⟩ := stages_ok made
  · cases noneMade
  cases same
  rw [Rulebook.parse, Grammar.parse, String.toList_ofList] at read
  obtain ⟨_, left, inner, right, _, rfl, frontRead, bodyRead, backRead⟩ := named_group_read names before after read
  obtain ⟨ahead, stage, behind, rfl, stageMade⟩ := pointwise_middle pointwise
  obtain ⟨branches, branchesMade, rfl⟩ := group_stage stageMade
  obtain ⟨both, last, bothMade, lastMade, rfl⟩ := mapM_append_ok branchesMade
  obtain ⟨first, middle, firstMade, middleMade, rfl⟩ := mapM_append_ok bothMade
  refine ⟨ahead, first, middle, last, behind, rfl, ?_, ?_, ?_⟩
  · rw [branchesOf, frontRead]
    exact firstMade
  · rw [branchesOf, bodyRead]
    exact middleMade
  · rw [branchesOf, backRead]
    exact lastMade

theorem alternatives_disjunction (book : Rulebook n) (S : Schema n) :
    (∀ (record : Instance n) (value : Value n) (branches : List (Constraint n)),
      let passes (constraint : Constraint n) : Prop := constraint.violation? S record value = none
      (passes (.anyOf branches) ↔ value.isEmpty = true ∨ ∃ branch ∈ branches, passes branch) ∧
      (∀ others, (∀ branch, branch ∈ branches ↔ branch ∈ others) →
        (passes (.anyOf branches) ↔ passes (.anyOf others))) ∧
      (∀ front inner back, branches = front ++ .anyOf inner :: back →
        (passes (.anyOf branches) ↔ passes (.anyOf (front ++ inner ++ back)))) ∧
      (passes (.anyOf branches) ↔ passes (.anyOf (Constraint.leavesAll branches))) ∧
      (∀ leaf ∈ Constraint.leavesAll branches, ∀ inner, leaf ≠ .anyOf inner) ∧
      ∀ violation, (Constraint.anyOf branches).violation? S record value = some violation →
        List.Forall₂ (fun branch own => branch.violation? S record value = some own) branches
          violation.nested) ∧
    ∀ (anchor : FieldPath n) (before after : Option (List Char)) (front back : List (List Char))
      (written body : List Char),
      let expand := aliasExpansion book.settings.aliases
      let text (middle : List Char) := String.ofList (around before (group front middle back) after)
      NamesBranch expand front written back body →
      (∀ stages, book.stages? S anchor (text written) = .ok (some stages) →
        ∃ ahead left inner right behind, stages = ahead ++ .test (.anyOf (left ++ inner ++ right)) :: behind ∧
          book.branchesOf S anchor expand front = .ok left ∧
          book.branchesOf S anchor noExpansion (pieces '|' body) = .ok inner ∧
          book.branchesOf S anchor expand back = .ok right ∧
          ∀ record value,
            (Constraint.anyOf (left ++ inner ++ right)).violation? S record value = none ↔
              (Constraint.anyOf (left ++ .anyOf inner :: right)).violation? S record value = none) ∧
      (',' ∉ body → (∀ branch ∈ pieces '|' body, expand (trim branch) = none) →
        expand (trim (group front body back)) = none →
        book.stages? S anchor (text written) = book.stages? S anchor (text body)) := by
  refine ⟨fun record value branches => ?_, fun anchor before after front back written body => ?_⟩
  · intro passes
    refine ⟨Constraint.group_passes_iff branches, fun others same => ?_, ?_, ?_,
      Constraint.leaves_single branches, fun violation failed => Constraint.group_fails failed⟩
    · apply Constraint.group_congr
      intro leaf
      simp only [Constraint.mem_leaves_iff, same]
    · rintro front inner back rfl
      exact Constraint.nested_replaced front inner back
    · apply Constraint.group_congr
      intro leaf
      rw [Constraint.leaves_leaves]
  · intro expand text names
    refine ⟨fun stages made => ?_, fun plain unaliased bodyUnaliased => ?_⟩
    · obtain ⟨ahead, left, inner, right, behind, parts, frontMade, bodyMade, backMade⟩ :=
        named_group_stages names before after made
      refine ⟨ahead, left, inner, right, behind, parts, frontMade, bodyMade, backMade, fun record value => ?_⟩
      exact (Constraint.nested_replaced left inner right).symm
    · have read := named_group_written names plain unaliased bodyUnaliased before after
      rw [stages?, stages?, Rulebook.parse, Rulebook.parse, Grammar.parse, Grammar.parse, String.toList_ofList,
        String.toList_ofList, read]

def swatches : Schema 1 := fun _ =>
  { name := "Swatch", fields := [⟨"tint", .str, "", true⟩], checks := [] }

theorem color_branch :
    let anchor : FieldPath 1 := .declared 0 0 ⟨"tint", .str, "", true⟩
    let colors : List Char := "hexcolor|rgb|rgba|hsl|hsla".toList
    ∃ stages ahead left inner right behind,
      Rulebook.standard.stages? swatches anchor "required,uuid| iscolor " = .ok (some stages) ∧
      Rulebook.standard.stages? swatches anchor "required,uuid|hexcolor|rgb|rgba|hsl|hsla" =
        .ok (some stages) ∧
      stages = ahead ++ .test (.anyOf (left ++ inner ++ right)) :: behind ∧
      Rulebook.standard.branchesOf swatches anchor noExpansion (pieces '|' colors) = .ok inner ∧
      ∀ record value,
        (Constraint.anyOf (left ++ inner ++ right)).violation? swatches record value = none ↔
          (Constraint.anyOf (left ++ .anyOf inner :: right)).violation? swatches record value = none := by
  intro anchor colors
  have names : NamesBranch (aliasExpansion (Rulebook.standard (n := 1)).settings.aliases) ["uuid".toList]
      " iscolor ".toList [] colors :=
    ⟨⟨by decide, by decide, by decide⟩, by decide, by decide, ⟨by decide, by decide, by decide⟩, by decide⟩
  let text (middle : List Char) : String :=
    String.ofList (around (some "required".toList) (group ["uuid".toList] middle []) none)
  have namedText : text " iscolor ".toList = "required,uuid| iscolor " := by decide
  have bodyText : text colors = "required,uuid|hexcolor|rgb|rgba|hsl|hsla" := by decide
  have made : ((Rulebook.standard.stages? swatches anchor "required,uuid| iscolor ").map Option.isSome) =
      .ok true := by cbv
  obtain ⟨stages?, found, filled⟩ := ok_of_map made
  obtain ⟨stages, rfl⟩ := Option.isSome_iff_exists.mp filled
  obtain ⟨_, groups⟩ := alternatives_disjunction .standard swatches
  obtain ⟨compiled, writtenOut⟩ := groups anchor (some "required".toList) none _ _ _ _ names
  have same := writtenOut (by decide) (by decide) (by decide)
  obtain ⟨ahead, left, inner, right, behind, parts, _, bodyMade, _, agrees⟩ :=
    compiled stages ((congrArg _ namedText).trans found)
  refine ⟨stages, ahead, left, inner, right, behind, found, ?_, parts, bodyMade, agrees⟩
  rw [← bodyText, ← found, ← namedText]
  exact same.symm

end Rulebook

end RecordRules
