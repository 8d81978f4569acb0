import Mathlib.Data.List.Flatten
import RecordRules.Proofs.Printing
import RecordRules.Proofs.Rows

set_option autoImplicit false

namespace RecordRules

open Text

namespace Grammar

def IsFlat (expand : Expansion) (segment : List Char) : Prop :=
  expand segment = none ∧ ∀ branch ∈ pieces '|' segment, expand (trim branch) = none

instance (expand : Expansion) (segment : List Char) : Decidable (IsFlat expand segment) :=
  inferInstanceAs (Decidable (_ ∧ _))

def readAll (expand : Expansion) (branches : List (List Char)) : Except RuleError (List Clause) :=
  (branches.mapM (readBranches expand)).map List.flatten

theorem read_group_all (expand : Expansion) (segment : List Char) (bar : '|' ∈ segment) :
    readSegment expand segment = (readAll expand (pieces '|' segment)).map .anyOf := by
  rw [readSegment, if_pos (by simpa using bar), readAll]
  cases (pieces '|' segment).mapM (readBranches expand) <;> rfl

theorem read_all_append (expand : Expansion) (front back : List (List Char)) :
    readAll expand (front ++ back) = do
      let first ← readAll expand front
      return first ++ (← readAll expand back) := by
  rw [readAll, readAll, readAll, List.mapM_append]
  cases front.mapM (readBranches expand) with
  | error error => rfl
  | ok first =>
      cases back.mapM (readBranches expand) with
      | error error => rfl
      | ok second => exact congrArg Except.ok List.flatten_append

theorem read_all_ok (expand : Expansion) (branches : List (List Char))
    (read : ∀ branch ∈ branches, (readBranches expand branch).isOk) :
    ∃ clauses, readAll expand branches = .ok clauses := by
  induction branches with
  | nil => exact ⟨[], rfl⟩
  | cons branch rest ih =>
      obtain ⟨first, later⟩ := List.forall_mem_cons.mp read
      obtain ⟨others, restRead⟩ := ih later
      rw [← List.singleton_append, read_all_append, restRead, readAll, List.mapM_cons]
      cases ends : readBranches expand branch with
      | error error =>
          rw [ends] at first
          cases first
      | ok clauses => exact ⟨_, rfl⟩

theorem read_branches_trim (expand : Expansion) (branch : List Char) :
    readBranches expand (trim branch) = readBranches expand branch := by
  simp only [readBranches, trim_trim]

theorem read_all_trim (expand : Expansion) (branches : List (List Char)) :
    readAll expand (branches.map trim) = readAll expand branches := by
  rw [readAll, List.mapM_map, readAll]
  exact congrArg (fun read => (branches.mapM read).map List.flatten)
    (funext fun branch => read_branches_trim expand branch)

theorem read_all_trimmed (expand : Expansion) (segment : List Char) :
    readAll expand (pieces '|' (trim segment)) = readAll expand (pieces '|' segment) := by
  rw [← read_all_trim, pieces_trim '|' (by decide), read_all_trim]

theorem read_branches_flat (expand : Expansion) (branch : List Char) (unaliased : expand (trim branch) = none) :
    readBranches expand branch = (readBranch (trim branch)).map ([·]) := by
  simp only [readBranches, unaliased]
  split
  case isTrue empty =>
    rw [List.isEmpty_iff.mp empty]
    rfl
  case isFalse => cases readBranch (trim branch) <;> rfl

theorem read_all_flat (expand : Expansion) (branches : List (List Char))
    (unaliased : ∀ branch ∈ branches, expand (trim branch) = none) :
    readAll expand branches = branches.mapM (fun branch => readBranch (trim branch)) := by
  induction branches with
  | nil => rfl
  | cons branch rest ih =>
      obtain ⟨first, later⟩ := List.forall_mem_cons.mp unaliased
      rw [← List.singleton_append, read_all_append, ih later, List.singleton_append, List.mapM_cons]
      have alone : readAll expand [branch] = (readBranch (trim branch)).map ([·]) := by
        rw [readAll, List.mapM_cons, read_branches_flat expand branch first]
        cases readBranch (trim branch) <;> rfl
      rw [alone]
      cases readBranch (trim branch) <;> rfl

theorem read_segment_flat (expand : Expansion) (segment : List Char) (flat : IsFlat expand segment) :
    readSegment expand segment = readSegment noExpansion segment := by
  by_cases bar : '|' ∈ segment
  · rw [read_group_all expand segment bar, read_group_all noExpansion segment bar,
      read_all_flat expand _ flat.2, read_all_flat noExpansion _ fun _ _ => rfl]
  · rw [read_single expand segment bar, read_single noExpansion segment bar]

theorem add_flat (expand : Expansion) (done : List Rule) (segment : List Char) (flat : IsFlat expand segment) :
    addWhole expand done segment = addPart done segment := by
  rw [addWhole, addPart]
  simp only [flat.1, read_segment_flat expand segment flat]

theorem add_flat_segments (expand : Expansion) (row : List (List Char))
    (flat : ∀ segment ∈ row, IsFlat expand segment) (done : List Rule) :
    row.foldlM (addWhole expand) done = row.foldlM addPart done := by
  induction row generalizing done with
  | nil => rfl
  | cons segment rest ih =>
      obtain ⟨first, later⟩ := List.forall_mem_cons.mp flat
      rw [List.foldlM_cons, List.foldlM_cons, add_flat expand done segment first]
      exact bind_congr fun done => ih later done

theorem add_alias (expand : Expansion) (done : List Rule) (name body : List Char) (someChar : name ≠ [])
    (known : expand name = some body) (apart : ∀ last ∈ done.head?, continues name last = false) :
    addWhole expand done name = (segments body).foldlM addPart done := by
  have filled : name.isEmpty = false := by simpa using someChar
  cases done with
  | nil => simp only [addWhole, addSegment, filled, Bool.false_eq_true, if_false, known]
  | cons last before =>
      simp only [addWhole, addSegment, filled, apart last rfl, Bool.false_eq_true, if_false, known]

structure Expands (expand : Expansion) (name body : List Char) : Prop where
  named : IsSegment name
  known : expand name = some body
  filled : trim body ≠ []
  flat : ∀ segment ∈ segments body, IsFlat expand segment

theorem pieces_written (name written : List Char) (spelled : trim written = name) (noBar : '|' ∉ name) :
    pieces '|' written = [written] :=
  pieces_whole '|' written fun member => noBar (spelled ▸ (mem_trim written '|' (by decide)).mpr member)

theorem pieces_branches (branches : List (List Char)) (noBar : ∀ branch ∈ branches, '|' ∉ branch) :
    branches.flatMap (pieces '|') = branches := by
  calc
    branches.flatMap (pieces '|') = branches.flatMap ([·]) := List.flatMap_congr fun branch member =>
      pieces_whole '|' branch (noBar branch member)
    _ = branches := List.flatMap_singleton' branches

theorem read_known_branch {expand : Expansion} {name body written : List Char} (named : IsSegment name)
    (known : expand name = some body) (spelled : trim written = name) (noBar : '|' ∉ name) :
    readAll expand (pieces '|' written) =
      if ',' ∈ body then .error (.notAlternative (String.ofList name))
      else readAll noExpansion (pieces '|' body) := by
  have filled : name.isEmpty = false := by simpa using named.someChar
  rw [pieces_written name written spelled noBar, readAll, List.mapM_cons, readBranches,
    read_all_flat noExpansion _ fun _ _ => rfl]
  simp only [spelled, filled, Bool.false_eq_true, if_false, known, List.contains_iff_mem]
  by_cases comma : ',' ∈ body
  · simp only [if_pos comma]
    rfl
  · simp only [if_neg comma]
    cases (pieces '|' body).mapM (fun branch => readBranch (trim branch)) with
    | error error => rfl
    | ok clauses => exact congrArg Except.ok List.flatten_singleton

section Expands

variable {expand : Expansion} {name body : List Char} (expands : Expands expand name body)
  {written : List Char} (spelled : trim written = name)
include expands spelled

theorem no_comma_written : ',' ∉ written := fun member =>
  expands.named.noComma (spelled ▸ (mem_trim written ',' (by decide)).mpr member)

theorem add_name (done : List Rule) (apart : ∀ last ∈ done.head?, continues name last = false) :
    addText expand done written = addText expand done body := by
  rw [addText, segments_whole written (no_comma_written expands spelled), spelled, List.foldlM_cons, addText,
    add_flat_segments expand _ expands.flat done,
    add_alias expand done name body expands.named.someChar expands.known apart]
  cases (segments body).foldlM addPart done <;> rfl

theorem read_name_around (before after : Option (List Char))
    (apart : ∀ text ∈ before, ∀ rules, readRules expand text = .ok rules → ∀ last ∈ rules.getLast?,
      continues name last = false) :
    readRules expand (around before written after) = readRules expand (around before body after) := by
  have writtenFilled : trim written ≠ [] := by
    rw [spelled]
    exact expands.named.someChar
  rw [read_around expand before after written writtenFilled, read_around expand before after body expands.filled]
  cases read : readBefore expand before with
  | error error => rfl
  | ok done =>
      have same : addText expand done written = addText expand done body := by
        refine add_name expands spelled done fun last found => ?_
        cases before with
        | none =>
            obtain rfl := Except.ok.inj read
            cases found
        | some text =>
            refine apart text rfl done.reverse (read_before_ok expand text done read) last ?_
            rwa [List.getLast?_reverse]
      simp only [bind, Except.bind, same]

theorem read_name_branch (noBar : '|' ∉ name) (noComma : ',' ∉ body) :
    readAll expand (pieces '|' written) = readAll expand (pieces '|' body) := by
  have flat := (expands.flat (trim body) (by rw [segments_whole body noComma]; exact List.mem_singleton_self _)).2
  have trimmed : ∀ branch ∈ (pieces '|' (trim body)).map trim, expand branch = none :=
    List.forall_mem_map.mpr flat
  rw [pieces_trim '|' (by decide), List.forall_mem_map] at trimmed
  rw [read_known_branch expands.named expands.known spelled noBar, if_neg noComma, read_all_flat expand _ trimmed,
    read_all_flat noExpansion _ fun _ _ => rfl]

theorem refuse_name_branch (noBar : '|' ∉ name) (comma : ',' ∈ body) :
    readAll expand (pieces '|' written) = .error (.notAlternative (String.ofList name)) := by
  rw [read_known_branch expands.named expands.known spelled noBar, if_pos comma]

end Expands

def group (before : List (List Char)) (middle : List Char) (after : List (List Char)) : List Char :=
  ['|'].intercalate (before ++ middle :: after)

structure AreBranches (before after : List (List Char)) : Prop where
  others : before ++ after ≠ []
  noComma : ∀ branch ∈ before ++ after, ',' ∉ branch
  noBar : ∀ branch ∈ before ++ after, '|' ∉ branch

section Groups

variable {before after : List (List Char)} (areBranches : AreBranches before after)
include areBranches

theorem bar_group (middle : List Char) : '|' ∈ group before middle after := by
  have others := areBranches.others
  cases before with
  | nil =>
      cases after with
      | nil => exact absurd rfl others
      | cons second rest =>
          rw [group, List.nil_append, List.intercalate_cons_cons]
          simp
  | cons first rest =>
      rw [group]
      cases rest with
      | nil =>
          rw [List.cons_append, List.nil_append, List.intercalate_cons_cons]
          simp
      | cons second more =>
          rw [List.cons_append, List.cons_append, List.intercalate_cons_cons]
          simp

theorem no_comma_group (middle : List Char) (noComma : ',' ∉ middle) : ',' ∉ group before middle after := by
  intro member
  rcases mem_spaced _ _ ',' member with between | ⟨branch, there, within⟩
  · exact absurd between (by decide)
  · rcases List.mem_append.mp there with ahead | behind
    · exact areBranches.noComma branch (List.mem_append_left _ ahead) within
    · rcases List.mem_cons.mp behind with rfl | later
      · exact noComma within
      · exact areBranches.noComma branch (List.mem_append_right _ later) within

theorem add_group (expand : Expansion) (done : List Rule) (middle : List Char) (noComma : ',' ∉ middle)
    (unaliased : expand (trim (group before middle after)) = none) :
    addText expand done (group before middle after) =
      (readAll expand (before.flatMap (pieces '|') ++ (pieces '|' middle ++ after.flatMap (pieces '|')))).map
        fun branches => .anyOf branches :: done := by
  have bar := (mem_trim _ '|' (by decide)).mpr (bar_group areBranches middle)
  have filled : (trim (group before middle after)).isEmpty = false := by
    simpa using List.ne_nil_of_mem bar
  have apart (last : Rule) : continues (trim (group before middle after)) last = false :=
    signed_apart _ last (.inr bar)
  have split : pieces '|' (group before middle after) =
      before.flatMap (pieces '|') ++ (pieces '|' middle ++ after.flatMap (pieces '|')) := by
    rw [group, pieces_row '|' _ (by simp), List.flatMap_append, List.flatMap_cons]
  have read := read_group_all expand _ bar
  rw [read_all_trimmed, split] at read
  have added : addWhole expand done (trim (group before middle after)) =
      (readSegment expand (trim (group before middle after))).map (· :: done) := by
    cases done with
    | nil => simp only [addWhole, addSegment, filled, Bool.false_eq_true, if_false, unaliased]
    | cons last rest =>
        simp only [addWhole, addSegment, filled, apart last, Bool.false_eq_true, if_false, unaliased]
  rw [addText, segments_whole _ (no_comma_group areBranches middle noComma), List.foldlM_cons, added, read]
  cases readAll expand (before.flatMap (pieces '|') ++ (pieces '|' middle ++ after.flatMap (pieces '|'))) <;> rfl

theorem read_group_around (expand : Expansion) {one other : List Char}
    (same : readAll expand (pieces '|' one) = readAll expand (pieces '|' other))
    (noComma : ',' ∉ one) (otherNoComma : ',' ∉ other)
    (unaliased : expand (trim (group before one after)) = none)
    (otherUnaliased : expand (trim (group before other after)) = none) (front back : Option (List Char)) :
    readRules expand (around front (group before one after) back) =
      readRules expand (around front (group before other after) back) := by
  have filled (middle : List Char) : trim (group before middle after) ≠ [] :=
    trim_ne_nil _ '|' (by decide) (bar_group areBranches middle)
  have added (done : List Rule) : addText expand done (group before one after) =
      addText expand done (group before other after) := by
    rw [add_group areBranches expand done one noComma unaliased,
      add_group areBranches expand done other otherNoComma otherUnaliased, read_all_append,
      read_all_append _ (pieces '|' one), same, read_all_append _ (before.flatMap _),
      read_all_append _ (pieces '|' other)]
  rw [read_around expand front back _ (filled one), read_around expand front back _ (filled other)]
  simp only [added]

end Groups

section Expands

variable {expand : Expansion} {name body : List Char} (expands : Expands expand name body)
  {written : List Char} (spelled : trim written = name)
  {front back : List (List Char)} (areBranches : AreBranches front back) (noBar : '|' ∉ name)
  (unaliased : expand (trim (group front written back)) = none) (before after : Option (List Char))
include expands spelled areBranches noBar unaliased

theorem read_branch_around (noComma : ',' ∉ body)
    (bodyUnaliased : expand (trim (group front body back)) = none) :
    readRules expand (around before (group front written back) after) =
      readRules expand (around before (group front body back) after) := by
  have same := read_name_branch expands spelled noBar noComma
  exact read_group_around areBranches expand same (no_comma_written expands spelled) noComma unaliased
    bodyUnaliased before after

theorem refuse_branch_around (comma : ',' ∈ body) (read : ∀ branch ∈ front, (readBranches expand branch).isOk)
    (allRead : ∀ text ∈ before, trim text ≠ [] ∧ (readRules expand text).isOk) :
    readRules expand (around before (group front written back) after) =
      .error (.notAlternative (String.ofList name)) := by
  have whole : front.flatMap (pieces '|') = front := pieces_branches front fun branch member =>
    areBranches.noBar branch (List.mem_append_left _ member)
  obtain ⟨clauses, frontRead⟩ := read_all_ok expand front read
  obtain ⟨done, doneRead⟩ := read_before_made expand before allRead
  have refused : addText expand done (group front written back) =
      .error (.notAlternative (String.ofList name)) := by
    rw [add_group areBranches expand done written (no_comma_written expands spelled) unaliased, whole,
      read_all_append, read_all_append _ (pieces '|' written), refuse_name_branch expands spelled noBar comma,
      frontRead]
    rfl
  have filled : trim (group front written back) ≠ [] :=
    trim_ne_nil _ '|' (by decide) (bar_group areBranches written)
  rw [read_around expand before after _ filled, doneRead]
  simp only [bind, Except.bind, refused]
  rfl

end Expands

theorem alias_written_out (aliases : Aliases) (name body : List Char)
    (expands : Expands (aliasExpansion aliases) name body) (written : List Char) (spelled : trim written = name) :
    let expand := aliasExpansion aliases
    let read := fun text => parse aliases (String.ofList text)
    (∀ before after,
      (∀ text ∈ before, ∀ rules, read text = .ok rules → ∀ last ∈ rules.getLast?, continues name last = false) →
      read (around before written after) = read (around before body after)) ∧
    ∀ front back, AreBranches front back → '|' ∉ name → expand (trim (group front written back)) = none →
      (',' ∉ body → expand (trim (group front body back)) = none → ∀ before after,
        read (around before (group front written back) after) =
          read (around before (group front body back) after)) ∧
      (',' ∈ body → (∀ branch ∈ front, (readBranches expand branch).isOk) → ∀ before after,
        (∀ text ∈ before, trim text ≠ [] ∧ (read text).isOk) →
        read (around before (group front written back) after) =
          .error (.notAlternative (String.ofList name))) := by
  intro expand read
  have unfolded (text : List Char) : read text = readRules expand text := by
    rw [show read text = parse aliases (String.ofList text) from rfl, parse, String.toList_ofList]
  simp only [unfolded]
  refine ⟨fun before after apart => read_name_around expands spelled before after apart,
    fun front back areBranches noBar unaliased => ⟨fun noComma bodyUnaliased before after => ?_,
      fun comma frontRead before after beforeRead => ?_⟩⟩
  · exact read_branch_around expands spelled areBranches noBar unaliased before after noComma bodyUnaliased
  · exact refuse_branch_around expands spelled areBranches noBar unaliased before after comma frontRead
      beforeRead

theorem contact_written_out :
    let aliases : Aliases := .ofList [("contact", "required_with=email,phone"), ("tint", " hexcolor |rgb")]
    let expand := aliasExpansion aliases
    Expands expand "contact".toList "required_with=email,phone".toList ∧
    Expands expand "tint".toList " hexcolor |rgb".toList ∧
    parse aliases "omitempty, contact ,street,min=3" =
      parse aliases "omitempty,required_with=email,phone,street,min=3" ∧
    parse aliases "required,email|tint |ip" = parse aliases "required,email| hexcolor |rgb|ip" ∧
    parse aliases "required,ip|contact" = .error (.notAlternative "contact") := by
  intro aliases expand
  have contact : Expands expand "contact".toList "required_with=email,phone".toList :=
    ⟨⟨by decide, by decide, by decide⟩, by decide, by decide, by decide⟩
  have tint : Expands expand "tint".toList " hexcolor |rgb".toList :=
    ⟨⟨by decide, by decide, by decide⟩, by decide, by decide, by decide⟩
  have ahead : AreBranches ["email".toList] ["ip".toList] := ⟨by decide, by decide, by decide⟩
  have behind : AreBranches ["ip".toList] [] := ⟨by decide, by decide, by decide⟩
  refine ⟨contact, tint, ?_, ?_, ?_⟩
  · refine (alias_written_out aliases _ _ contact " contact ".toList (by decide)).1 (some "omitempty".toList)
      (some "street,min=3".toList) fun text member rules read last found => ?_
    obtain rfl := Option.some.inj member
    obtain rfl : [Rule.omitEmpty] = rules := Except.ok.inj read
    obtain rfl : Rule.omitEmpty = last := Option.some.inj found
    rfl
  · exact ((alias_written_out aliases _ _ tint "tint ".toList (by decide)).2 _ _ ahead (by decide) (by decide)).1
      (by decide) (by decide) (some "required".toList) none
  · exact ((alias_written_out aliases _ _ contact "contact".toList (by decide)).2 _ _ behind (by decide)
      (by decide)).2 (by decide) (by decide) (some "required".toList) none
      fun text member => by
        obtain rfl := Option.some.inj member
        exact ⟨by decide, rfl⟩

theorem empty_name_not_written_out :
    let aliases : Aliases := .ofList [("", "email")]
    let expand := aliasExpansion aliases
    expand [] = some "email".toList ∧ trim [] = [] ∧ ',' ∉ ([] : List Char) ∧ trim "email".toList ≠ [] ∧
    (∀ segment ∈ segments "email".toList, IsFlat expand segment) ∧
    parse aliases "required" = .ok [.clause (.leaf "required" none)] ∧
    continues [] (.clause (.leaf "required" none)) = false ∧
    parse aliases "required,,min=1" = .error .emptyRule ∧
    parse aliases "required,email,min=1" =
      .ok [.clause (.leaf "required" none), .clause (.leaf "email" none), .clause (.leaf "min" (some "1"))] := by
  refine ⟨by decide, by decide, by decide, by decide, by decide, rfl, rfl, rfl, rfl⟩

end Grammar

end RecordRules
