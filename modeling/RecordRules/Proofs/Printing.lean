import Mathlib.Data.List.Chain
import RecordRules.Proofs.Reading

set_option autoImplicit false

namespace RecordRules

open Text

theorem solid_of (text : List Char) (solid : isSolid text) :
    (∀ c ∈ text, isBlank c = false) ∧ Escape.isPlain text := by
  obtain ⟨blankless, plain⟩ := Bool.and_eq_true_iff.mp solid
  exact ⟨blankless_of_any text (by simpa using blankless), plain⟩

theorem item_word (text : List Char) (item : isItem text) :
    IsWord (Escape.encode text) ∧ Escape.decode (Escape.encode text) = text := by
  obtain ⟨someChar, solid⟩ := Bool.and_eq_true_iff.mp item
  obtain ⟨blankless, plain⟩ := solid_of text solid
  exact ⟨⟨Escape.encode_ne_nil text (by simpa using someChar), Escape.solid_encode text blankless,
    Escape.no_comma_encode text, Escape.no_bar_encode text⟩, Escape.decode_encode text plain⟩

namespace Pair

theorem of_item (pair : Pair) (noColon : ':' ∉ pair.field.toList) : ofItem pair.item = pair := by
  rw [item, of_item_append _ _ noColon, String.ofList_toList, String.ofList_toList]

theorem spelling_word (pair : Pair) (canonical : pair.isCanonical) :
    IsWord pair.spelling ∧ IsPair (Escape.decode pair.spelling) ∧
      ofItem (Escape.decode pair.spelling) = pair := by
  obtain ⟨field, solid⟩ := Bool.and_eq_true_iff.mp canonical
  obtain ⟨fieldItem, noColon⟩ := Bool.and_eq_true_iff.mp field
  obtain ⟨written, fieldBack⟩ := item_word _ fieldItem
  obtain ⟨blankless, plain⟩ := solid_of _ solid
  have back : Escape.decode pair.spelling = pair.item := by
    rw [spelling, Escape.decode_append _ _ ':' (by decide) (by decide), fieldBack,
      Escape.decode_encode _ plain]
    rfl
  have noColon : ':' ∉ pair.field.toList := by simpa using noColon
  have someField : pair.field.toList ≠ [] := by
    simpa using (Bool.and_eq_true_iff.mp fieldItem).1
  rw [back]
  refine ⟨⟨List.append_ne_nil_of_left_ne_nil written.someChar _, fun c member => ?_, ?_, ?_⟩,
    ⟨_, _, rfl, someField, noColon⟩, of_item pair noColon⟩
  · rcases List.mem_append.mp member with inField | behind
    · exact written.blankless c inField
    · rcases List.mem_cons.mp behind with rfl | inLiteral
      · decide
      · exact Escape.solid_encode _ blankless c inLiteral
  · simp [spelling, written.noComma, Escape.no_comma_encode]
  · simp [spelling, written.noBar, Escape.no_bar_encode]

end Pair

theorem list_of_iff {α : Type} (holds : α → Bool) (items : List α) :
    isListOf holds items ↔ items ≠ [] ∧ ∀ item ∈ items, holds item := by
  simp [isListOf]

theorem targets_written (targets : List String)
    (canonical : isListOf (fun target => isItem target.toList) targets) :
    let items := targets.map fun target => Escape.encode target.toList
    items ≠ [] ∧ (∀ item ∈ items, IsWord item) ∧
      (items.map Escape.decode).map String.ofList = targets := by
  obtain ⟨someTarget, formed⟩ := (list_of_iff _ targets).mp canonical
  have written := fun target member => item_word _ (formed target member)
  refine ⟨by simpa using someTarget, List.forall_mem_map.mpr fun target member => (written target member).1, ?_⟩
  rw [List.map_map, List.map_map]
  refine (List.map_congr_left fun target member => ?_).trans (List.map_id _)
  rw [Function.comp_apply, Function.comp_apply, (written target member).2, String.ofList_toList]
  rfl

theorem pairs_written (pairs : List Pair) (canonical : isListOf Pair.isCanonical pairs) :
    let items := pairs.map Pair.spelling
    items ≠ [] ∧ (∀ item ∈ items, IsWord item) ∧ (∀ item ∈ items.map Escape.decode, IsPair item) ∧
      (items.map Escape.decode).map Pair.ofItem = pairs := by
  obtain ⟨somePair, formed⟩ := (list_of_iff _ pairs).mp canonical
  have written := fun pair member => Pair.spelling_word pair (formed pair member)
  refine ⟨by simpa using somePair, List.forall_mem_map.mpr fun pair member => (written pair member).1,
    List.forall_mem_map.mpr (List.forall_mem_map.mpr fun pair member => (written pair member).2.1), ?_⟩
  rw [List.map_map, List.map_map]
  exact (List.map_congr_left fun pair member => (written pair member).2.2).trans (List.map_id _)

theorem unreserved (name : String) (free : isReserved name = false) : Keyword.ofTag? name = none := by
  simpa [isReserved] using free

structure LeafName (name : String) : Prop extends IsBranch name.toList where
  free : Keyword.ofTag? name = none
  noEquals : '=' ∉ name.toList

theorem leaf_name (name : String) (formed : isLeafName name) : LeafName name := by
  simp only [isLeafName, Bool.and_eq_true, Bool.not_eq_true', decide_eq_true_eq, List.any_eq_false,
    Bool.or_eq_true, not_or, List.isEmpty_eq_false_iff] at formed
  obtain ⟨⟨⟨someChar, trimmed⟩, free⟩, outside⟩ := formed
  exact ⟨⟨⟨someChar, trimmed, fun member => (outside _ member).1.1 rfl⟩,
    fun member => (outside _ member).1.2 rfl⟩, unreserved name free, fun member => (outside _ member).2 rfl⟩

namespace Clause

theorem spelling_branch (body : Clause) (canonical : body.isCanonical) : IsBranch body.spelling := by
  cases body with
  | leaf name param =>
      obtain ⟨formed, paramFormed⟩ := Bool.and_eq_true_iff.mp canonical
      have named := leaf_name name formed
      cases param with
      | none => exact named.toIsBranch
      | some text =>
          obtain ⟨trimmed, plain⟩ := Bool.and_eq_true_iff.mp paramFormed
          exact branch_joined _ _ named.toIsBranch (Escape.trim_encode _ (of_decide_eq_true trimmed))
            (Escape.no_comma_encode _) (Escape.no_bar_encode _)
  | relational op target => exact taking_branch _ _ (item_word _ canonical).1.branch
  | presence kind targets =>
      obtain ⟨someItem, written, _⟩ := targets_written targets canonical
      exact listing_branch _ _ someItem written
  | conditional kind pairs =>
      obtain ⟨someItem, written, _⟩ := pairs_written pairs canonical
      exact listing_branch _ _ someItem written

end Clause

namespace Grammar

theorem read_leaf (name : String) (param : Option String) (canonical : (Clause.leaf name param).isCanonical) :
    readRule (Clause.leaf name param).spelling = .ok (.clause (.leaf name param)) := by
  obtain ⟨formed, paramFormed⟩ := Bool.and_eq_true_iff.mp canonical
  have named := leaf_name name formed
  have filled : name.toList.isEmpty = false := by simpa using named.someChar
  cases param with
  | none =>
      rw [Clause.spelling, readRule, nameAndParam, cut_none '=' _ named.noEquals]
      simp only [named.trimmed, filled, Bool.false_eq_true, if_false, String.ofList_toList, named.free]
      rfl
  | some text =>
      obtain ⟨trimmed, plain⟩ := Bool.and_eq_true_iff.mp paramFormed
      rw [Clause.spelling, readRule, nameAndParam, cut_first '=' _ _ named.noEquals]
      simp only [named.trimmed, filled, Bool.false_eq_true, if_false, String.ofList_toList, named.free,
        Escape.trim_encode _ (of_decide_eq_true trimmed), Escape.decode_encode _ plain, Option.map_some]

theorem read_relational (op : Comparison) (target : String) (formed : isItem target.toList) :
    readRule (Clause.relational op target).spelling = .ok (.clause (.relational op target)) := by
  obtain ⟨someChar, solid⟩ := Bool.and_eq_true_iff.mp formed
  obtain ⟨written, back⟩ := item_word _ formed
  have oneWord : target.toList.any isBlank = false := by
    simpa using (Bool.and_eq_true_iff.mp solid).1
  rw [Clause.spelling, read_taking, written.branch.trimmed, back, readKeyword,
    require_some _ _ (by simpa using someChar)]
  simp only [bind, Except.bind, oneWord, Bool.false_eq_true, if_false, String.ofList_toList]

theorem read_clause (body : Clause) (canonical : body.isCanonical) :
    readRule body.spelling = .ok (.clause body) := by
  cases body with
  | leaf name param => exact read_leaf name param canonical
  | relational op target => exact read_relational op target canonical
  | presence kind targets =>
      obtain ⟨someItem, written, back⟩ := targets_written targets canonical
      have read := read_listing (.presence kind) _ someItem written fun _ _ => trivial
      rwa [ListRule.holding, back] at read
  | conditional kind pairs =>
      obtain ⟨someItem, written, arePairs, back⟩ := pairs_written pairs canonical
      have read := read_listing (.conditional kind) _ someItem written arePairs
      rwa [ListRule.holding, back] at read

end Grammar

theorem group_written (branches : List Clause) (canonical : (Rule.anyOf branches).isCanonical) :
    2 ≤ branches.length ∧ ∀ body ∈ branches, body.isCanonical := by
  obtain ⟨several, formed⟩ := Bool.and_eq_true_iff.mp canonical
  exact ⟨of_decide_eq_true several, List.all_eq_true.mp formed⟩

theorem bar_in_group (branches : List Clause) (several : 2 ≤ branches.length) :
    '|' ∈ (Rule.anyOf branches).spelling := by
  match branches, several with
  | first :: second :: rest, _ =>
      rw [Rule.spelling, List.map_cons, List.map_cons, List.intercalate_cons_cons]
      simp

theorem Rule.spelling_segment (rule : Rule) (canonical : rule.isCanonical) : IsSegment rule.spelling := by
  cases rule with
  | skip => exact (tag_word .skip).branch.toIsSegment
  | omitEmpty => exact (tag_word .omitEmpty).branch.toIsSegment
  | skipUnless pairs =>
      obtain ⟨someItem, written, _⟩ := pairs_written pairs canonical
      exact (listing_branch _ _ someItem written).toIsSegment
  | clause body => exact (body.spelling_branch canonical).toIsSegment
  | anyOf branches =>
      obtain ⟨several, formed⟩ := group_written branches canonical
      have someBranch : branches ≠ [] := List.ne_nil_of_length_pos (Nat.lt_of_lt_of_le Nat.two_pos several)
      exact segment_row _ (by simpa using someBranch) (List.forall_mem_map.mpr fun body member =>
        (body.spelling_branch (formed body member)).toIsSegment) '|' (by decide)

namespace Grammar

theorem read_branches (expand : Expansion) (branches : List Clause)
    (canonical : ∀ body ∈ branches, body.isCanonical)
    (unaliased : ∀ body ∈ branches, expand body.spelling = none) :
    (branches.map Clause.spelling).mapM (readBranches expand) = .ok (branches.map ([·])) := by
  induction branches with
  | nil => rfl
  | cons body rest ih =>
      obtain ⟨first, later⟩ := List.forall_mem_cons.mp canonical
      obtain ⟨noAlias, noAliases⟩ := List.forall_mem_cons.mp unaliased
      have branch := body.spelling_branch first
      have filled : body.spelling.isEmpty = false := by simpa using branch.someChar
      have read : readBranches expand body.spelling = .ok [body] := by
        simp only [readBranches, branch.trimmed, filled, Bool.false_eq_true, if_false, noAlias,
          readBranch, read_clause body first]
        rfl
      rw [List.map_cons, List.mapM_cons, read, ih later noAliases]
      rfl

theorem read_group (expand : Expansion) (branches : List Clause) (several : 2 ≤ branches.length)
    (canonical : ∀ body ∈ branches, body.isCanonical)
    (unaliased : ∀ body ∈ branches, expand body.spelling = none) :
    readSegment expand (Rule.anyOf branches).spelling = .ok (.anyOf branches) := by
  have someBranch : branches ≠ [] := List.ne_nil_of_length_pos (Nat.lt_of_lt_of_le Nat.two_pos several)
  have cut : pieces '|' (Rule.anyOf branches).spelling = branches.map Clause.spelling :=
    List.splitOn_intercalate '|' (List.forall_mem_map.mpr fun body member =>
      (body.spelling_branch (canonical body member)).noBar) (by simpa using someBranch)
  rw [readSegment, if_pos (by simpa using bar_in_group branches several), cut,
    read_branches expand branches canonical unaliased]
  simp only [bind, Except.bind, pure, Except.pure]
  rw [← List.flatMap_def, List.flatMap_singleton']

theorem read_spelling (expand : Expansion) (rule : Rule) (canonical : rule.isCanonical)
    (unaliased : ∀ text ∈ rule.lookups, expand text = none) :
    readSegment expand rule.spelling = .ok rule := by
  cases rule with
  | skip => exact (read_single expand _ (tag_word .skip).noBar).trans (read_word .skip)
  | omitEmpty => exact (read_single expand _ (tag_word .omitEmpty).noBar).trans (read_word .omitEmpty)
  | skipUnless pairs =>
      obtain ⟨someItem, written, arePairs, back⟩ := pairs_written pairs canonical
      have read := read_listing .skipUnless _ someItem written arePairs
      rw [ListRule.holding, back] at read
      exact (read_single expand _ (listing_branch _ _ someItem written).noBar).trans read
  | clause body =>
      exact (read_single expand _ (body.spelling_branch canonical).noBar).trans (read_clause body canonical)
  | anyOf branches =>
      obtain ⟨several, formed⟩ := group_written branches canonical
      exact read_group expand branches several formed
        (List.forall_mem_map.mp (List.forall_mem_cons.mp unaliased).2)

theorem spelling_marked (rule : Rule) (canonical : rule.isCanonical) :
    '=' ∈ rule.spelling ∨ '|' ∈ rule.spelling ∨ rule = .skip ∨ rule = .omitEmpty ∨
      ∃ name, rule = .clause (.leaf name none) := by
  have taking (word : Keyword) (param : List Char) : '=' ∈ word.taking param :=
    List.mem_append_right _ List.mem_cons_self
  cases rule with
  | skip => exact .inr (.inr (.inl rfl))
  | omitEmpty => exact .inr (.inr (.inr (.inl rfl)))
  | skipUnless pairs => exact .inl (taking _ _)
  | anyOf branches => exact .inr (.inl (bar_in_group branches (group_written branches canonical).1))
  | clause body =>
      cases body with
      | leaf name param =>
          cases param with
          | none => exact .inr (.inr (.inr (.inr ⟨name, rfl⟩)))
          | some text => exact .inl (List.mem_append_right _ List.mem_cons_self)
      | relational op target => exact .inl (taking _ _)
      | presence kind targets => exact .inl (taking _ _)
      | conditional kind pairs => exact .inl (taking _ _)

theorem signed_apart (segment : List Char) (last : Rule) (signed : '=' ∈ segment ∨ '|' ∈ segment) :
    continues segment last = false := by
  have unsigned : (!segment.contains '=' && !segment.contains '|') = false := by
    rcases signed with equals | bar
    · simp [equals]
    · simp [bar]
  cases last with
  | clause body => cases body <;> simp only [continues, unsigned, Bool.false_and]
  | skipUnless pairs => simp only [continues, unsigned, Bool.false_and]
  | skip | omitEmpty | anyOf branches => rfl

theorem gate_apart (gate : Keyword) (isGate : gate = .skip ∨ gate = .omitEmpty) (last : Rule) :
    continues gate.tag.toList last = false := by
  rcases isGate with rfl | rfl
  all_goals
    cases last with
    | clause body => cases body <;> simp [continues, Keyword.tag]
    | skipUnless pairs => simp [continues, Keyword.tag]
    | skip | omitEmpty | anyOf branches => rfl

theorem leaf_apart (name : String) (last : Rule) (follows : last.mayFollow (.clause (.leaf name none))) :
    continues name.toList last = false := by
  cases last with
  | clause body =>
      cases body with
      | presence kind targets => cases follows
      | conditional kind pairs =>
          have noColon : name.toList.contains ':' = false := by simpa [Rule.mayFollow] using follows
          simp only [continues, noColon, Bool.and_false]
      | leaf other param => rfl
      | relational op target => rfl
  | skipUnless pairs =>
      have noColon : name.toList.contains ':' = false := by simpa [Rule.mayFollow] using follows
      simp only [continues, noColon, Bool.and_false]
  | skip | omitEmpty | anyOf branches => rfl

theorem follows_apart (last rule : Rule) (canonical : rule.isCanonical) (follows : last.mayFollow rule) :
    continues rule.spelling last = false := by
  rcases spelling_marked rule canonical with equals | bar | rfl | rfl | ⟨name, rfl⟩
  · exact signed_apart _ last (.inl equals)
  · exact signed_apart _ last (.inr bar)
  · exact gate_apart .skip (.inl rfl) last
  · exact gate_apart .omitEmpty (.inr rfl) last
  · exact leaf_apart name last follows

theorem add_spellings (expand : Expansion) (rules done : List Rule)
    (canonical : ∀ rule ∈ rules, rule.isCanonical)
    (unaliased : ∀ rule ∈ rules, ∀ text ∈ rule.lookups, expand text = none)
    (apart : rules.IsChain fun before rule => before.mayFollow rule)
    (starts : ∀ last ∈ done.head?, ∀ first ∈ rules.head?, last.mayFollow first) :
    (rules.map Rule.spelling).foldlM (addWhole expand) done = .ok (rules.reverse ++ done) := by
  induction rules generalizing done with
  | nil => rfl
  | cons rule rest ih =>
      obtain ⟨first, later⟩ := List.forall_mem_cons.mp canonical
      obtain ⟨noAlias, noAliases⟩ := List.forall_mem_cons.mp unaliased
      obtain ⟨next, chain⟩ := List.isChain_cons.mp apart
      have added := add_rule expand done rule.spelling rule (rule.spelling_segment first).someChar
        (fun last found => follows_apart last rule first (starts last found rule rfl))
        (noAlias _ List.mem_cons_self) (read_spelling expand rule first noAlias)
      have others := ih (rule :: done) later noAliases chain
        (fun last found => Option.some.inj found ▸ next)
      rw [List.map_cons, List.foldlM_cons, added, List.reverse_cons, List.append_assoc]
      exact others

-- Rules in a row that a rule string can hold.
structure Canonical (aliases : Aliases) (rules : List Rule) : Prop where
  formed : ∀ rule ∈ rules, rule.isCanonical
  apart : rules.IsChain fun before rule => before.mayFollow rule
  unaliased : ∀ rule ∈ rules, ∀ text ∈ rule.lookups, aliases.body? (String.ofList text) = none

theorem parse_print (aliases : Aliases) (rules : List Rule) (canonical : Canonical aliases rules) :
    parse aliases (Rule.print rules) = .ok rules := by
  rw [parse, Rule.print, String.toList_ofList]
  cases rules with
  | nil => rfl
  | cons rule rest =>
      have segments : ∀ segment ∈ (rule :: rest).map Rule.spelling, IsSegment segment :=
        List.forall_mem_map.mpr fun other member => other.spelling_segment (canonical.formed other member)
      have added := add_spellings (aliasExpansion aliases) (rule :: rest) [] canonical.formed
        (fun other member text lookedUp => by
          rw [aliasExpansion, canonical.unaliased other member text lookedUp]
          rfl)
        canonical.apart (by simp)
      rw [read_row _ ((rule :: rest).map Rule.spelling) (List.cons_ne_nil _ _) segments, added, List.append_nil]
      exact congrArg Except.ok (List.reverse_reverse _)

theorem lists_and_group_printed :
    let rules := [.clause (.presence ⟨true, true, false⟩ ["a", "b,c"]), .clause (.leaf "oneof" (some "x|y z")),
      .clause (.conditional .requiredIf [⟨"kind", "p:q"⟩]), .anyOf [.leaf "ip" none, .relational .gt "low"],
      .omitEmpty, .skipUnless [⟨"mode", ""⟩]]
    Canonical .empty rules ∧
    Rule.print rules =
      "required_with=a b0x2Cc,oneof=x0x7Cy z,required_if=kind:p:q,ip|gtfield=low,omitempty,skip_unless=mode:" ∧
    parse .empty (Rule.print rules) = .ok rules := by
  intro rules
  have canonical : Canonical .empty rules := ⟨by decide, by decide, by decide⟩
  exact ⟨canonical, by decide, parse_print .empty rules canonical⟩

end Grammar

end RecordRules
