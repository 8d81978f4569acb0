import Mathlib.Data.List.Basic
import RecordRules.Proofs.Interpretation

set_option autoImplicit false

namespace RecordRules

variable {n : Nat} {S : Schema n}

def below (outer text : String) : String := outer ++ "." ++ text

def Pair.below (outer : String) (pair : Pair) : Pair := ⟨RecordRules.below outer pair.field, pair.literal⟩

def Clause.below (outer : String) : Clause → Clause
  | leaf name param => leaf name param
  | relational op target => relational op (RecordRules.below outer target)
  | presence kind targets => presence kind (targets.map (RecordRules.below outer))
  | conditional kind pairs => conditional kind (pairs.map (Pair.below outer))

def Rule.below (outer : String) : Rule → Rule
  | skip => skip
  | omitEmpty => omitEmpty
  | skipUnless pairs => skipUnless (pairs.map (Pair.below outer))
  | clause body => clause (body.below outer)
  | anyOf branches => anyOf (branches.map (Clause.below outer))

-- Rules moved below a field keep their codes and causes. Only messages and the names of references
-- change.
def Violation.gist (violation : Violation) : String × Option String :=
  (violation.code, violation.param? "cause")

theorem segments_below (outer text : String) (noDot : '.' ∉ outer.toList) :
    (Text.pieces '.' (below outer text).toList).map String.ofList =
      outer :: (Text.pieces '.' text.toList).map String.ofList := by
  have joined : (below outer text).toList = outer.toList ++ '.' :: text.toList := by
    simp [below]
  rw [joined, Text.pieces, List.splitOn_append_cons_self_of_not_mem noDot, List.map_cons,
    String.ofList_toList]
  rfl

inductive ReadsAlike : Except ReadError (Value n) → Except ReadError (Value n) → Prop where
  | value (value : Value n) : ReadsAlike (.ok value) (.ok value)
  | unset (path segments other others : String) :
      ReadsAlike (.error (.nilLink path segments)) (.error (.nilLink other others))
  | astray (segments others : String) :
      ReadsAlike (.error (.notARecord segments)) (.error (.notARecord others))

theorem walk_alike (text other : String) (passed before names : List String) (record : Instance n) :
    ReadsAlike (record.walk S text passed names) (record.walk S other before names) := by
  induction names generalizing record passed before with
  | nil => exact .value _
  | cons name rest ih =>
      cases rest with
      | nil => exact .value _
      | cons next more =>
          rw [Instance.walk, Instance.walk]
          cases record.named S name with
          | record type fields => exact ih _ _ ⟨type, fields⟩
          | nil => exact .unset _ _ _ _
          | _ => exact .astray _ _

theorem reads_value {moved plain : Except ReadError (Value n)} (alike : ReadsAlike moved plain) {value : Value n}
    (read : plain = .ok value) : moved = .ok value := by
  cases alike with
  | value own => exact read
  | unset => cases read
  | astray => cases read

theorem lookup_plain (record : Instance n) (name : String) (noDot : '.' ∉ name.toList) :
    record.lookup S name = .ok (record.named S name) := by
  rw [Instance.lookup, Text.pieces, List.splitOn_eq_singleton noDot]
  simp only [List.map_cons, List.map_nil, String.ofList_toList]
  rfl

theorem lookup_below_unset (record : Instance n) (outer text : String) (noDot : '.' ∉ outer.toList)
    (unset : record.named S outer = .nil) : ∃ error, record.lookup S (below outer text) = .error error := by
  rw [Instance.lookup, segments_below outer text noDot]
  cases segments : (Text.pieces '.' text.toList).map String.ofList with
  | nil => exact absurd segments (FieldPath.segments_ne_nil text)
  | cons name rest =>
      rw [Instance.walk, unset]
      exact ⟨_, rfl⟩

theorem some_of_mapM {α β : Type} (step : α → Option β) (items : List α) :
    (items.mapM step).isSome = items.all fun item => (step item).isSome := by
  induction items with
  | nil => rfl
  | cons item rest ih =>
      rw [List.mapM_cons, List.all_cons, ← ih]
      cases step item with
      | none => rfl
      | some first => cases rest.mapM step <;> rfl

section Lowered

variable {record within : Instance n} {outer : String} (noDot : '.' ∉ outer.toList)
  (holds : record.named S outer = .record within.type within.fields)
include noDot holds

theorem lookup_below (text : String) :
    ReadsAlike (record.lookup S (below outer text)) (within.lookup S text) := by
  rw [Instance.lookup, Instance.lookup, segments_below outer text noDot]
  cases segments : (Text.pieces '.' text.toList).map String.ofList with
  | nil => exact absurd segments (FieldPath.segments_ne_nil text)
  | cons name rest =>
      rw [Instance.walk, holds]
      exact walk_alike _ _ _ _ _ within

theorem is_set_below (text : String) : record.isSet S (below outer text) = within.isSet S text := by
  rw [Instance.isSet, Instance.isSet]
  have alike := lookup_below noDot holds text
  generalize record.lookup S (below outer text) = moved at alike ⊢
  generalize within.lookup S text = plain at alike ⊢
  cases alike <;> rfl

theorem pair_below (pair : Pair) : (pair.below outer).holds S record = pair.holds S within := by
  rw [Pair.holds, Pair.holds, Pair.below]
  have alike := lookup_below noDot holds pair.field
  generalize record.lookup S (below outer pair.field) = moved at alike ⊢
  generalize within.lookup S pair.field = plain at alike ⊢
  cases alike <;> rfl

theorem pairs_below (pairs : List Pair) :
    (pairs.map (Pair.below outer)).map (Pair.holds S record) = pairs.map (Pair.holds S within) := by
  rw [List.map_map]
  exact List.map_congr_left fun pair _ => pair_below noDot holds pair

theorem comparison_below (op : Comparison) (value : Value n) (text : String) :
    (op.violation? S record value (below outer text)).map Violation.gist =
      (op.violation? S within value text).map Violation.gist := by
  rw [Comparison.violation?, Comparison.violation?]
  have alike := lookup_below noDot holds text
  generalize record.lookup S (below outer text) = moved at alike ⊢
  generalize within.lookup S text = plain at alike ⊢
  cases alike with
  | value other =>
      dsimp only
      cases Value.compare op value other with
      | error error => rfl
      | ok outcome => cases outcome <;> rfl
  | unset path segments other others => rfl
  | astray segments others => rfl

theorem clause_below (catalog : Catalog n) (value : Value n) (body : Clause) :
    ((body.below outer).violation? catalog S record value).map Violation.gist =
      (body.violation? catalog S within value).map Violation.gist := by
  cases body with
  | leaf name param => rfl
  | relational op target => exact comparison_below noDot holds op value target
  | presence kind targets =>
      have set : (targets.map (below outer)).map (record.isSet S) = targets.map (within.isSet S) := by
        rw [List.map_map]
        exact List.map_congr_left fun target _ => is_set_below noDot holds target
      simp only [Clause.below, Clause.violation?, set]
      split <;> rfl
  | conditional kind pairs =>
      simp only [Clause.below, Clause.violation?, pairs_below noDot holds pairs]
      split <;> rfl

omit noDot holds in
theorem tag_below (outer : String) (body : Clause) : (body.below outer).tag = body.tag := by
  cases body <;> rfl

theorem branches_below (catalog : Catalog n) (value : Value n) (branches : List Clause) :
    ((branches.map (Clause.below outer)).mapM (Clause.violation? catalog S record value)).isSome =
      (branches.mapM (Clause.violation? catalog S within value)).isSome := by
  rw [some_of_mapM, some_of_mapM, List.all_map]
  congr 1
  funext body
  have told := congrArg Option.isSome (clause_below noDot holds catalog value body)
  rwa [Option.isSome_map, Option.isSome_map] at told

theorem rule_below (catalog : Catalog n) (value : Value n) (rule : Rule) :
    ((rule.below outer).violation? catalog S record value).map Violation.gist =
      (rule.violation? catalog S within value).map Violation.gist := by
  cases rule with
  | skip | omitEmpty | skipUnless pairs => rfl
  | clause body => exact clause_below noDot holds catalog value body
  | anyOf branches =>
      have tags : (branches.map (Clause.below outer)).map Clause.tag = branches.map Clause.tag := by
        rw [List.map_map]
        exact List.map_congr_left fun body _ => tag_below outer body
      have failed := branches_below noDot holds catalog value branches
      simp only [Rule.below, Rule.violation?, tags]
      split
      · rfl
      · cases moved : (branches.map (Clause.below outer)).mapM (Clause.violation? catalog S record value) <;>
          cases plain : branches.mapM (Clause.violation? catalog S within value) <;>
          rw [moved, plain] at failed
        case some.some => rfl
        case none.some => cases failed
        case some.none => cases failed

theorem admits_below (value : Value n) (rule : Rule) :
    (rule.below outer).admits S record value = rule.admits S within value := by
  cases rule with
  | skipUnless pairs =>
      rw [Rule.below, Rule.admits, Rule.admits, List.all_map]
      exact congrArg pairs.all (funext fun pair => pair_below noDot holds pair)
  | skip | omitEmpty | clause body | anyOf branches => rfl

theorem rules_below (catalog : Catalog n) (value : Value n) (rules : List Rule) :
    (Rule.violations catalog S record value (rules.map (Rule.below outer))).map Violation.gist =
      (Rule.violations catalog S within value rules).map Violation.gist := by
  rw [Rule.violations, Rule.violations, List.zipIdx_map, List.filterMap_map, List.map_filterMap,
    List.map_filterMap]
  refine List.filterMap_congr fun entry _ => ?_
  have gates : ((rules.map (Rule.below outer)).take entry.2).all (Rule.admits S record value) =
      (rules.take entry.2).all (Rule.admits S within value) := by
    rw [← List.map_take, List.all_map]
    exact congrArg _ (funext fun rule => admits_below noDot holds value rule)
  simp only [Function.comp_apply, Prod.map, id_eq, gates]
  split
  · exact rule_below noDot holds catalog value entry.1
  · rfl

theorem interpretation_below (book : Rulebook n) (name movedName : String) (value : Value n)
    (rules : List Rule) :
    (book.interpretRules S record movedName value (rules.map (Rule.below outer))).map Violation.gist =
      (book.interpretRules S within name value rules).map Violation.gist := by
  rw [Rulebook.interpretRules, Rulebook.interpretRules, List.map_map, List.map_map]
  exact rules_below noDot holds book.catalog value rules

end Lowered

theorem skip_below (outer : String) (rules : List Rule) :
    (rules.map (Rule.below outer)).contains .skip = rules.contains .skip := by
  have only (rule : Rule) : rule.below outer = .skip ↔ rule = .skip := by
    cases rule <;> simp [Rule.below]
  have same : .skip ∈ rules.map (Rule.below outer) ↔ .skip ∈ rules := by
    simp only [List.mem_map, only, exists_eq_right]
  rw [Bool.eq_iff_iff, List.contains_iff_mem, List.contains_iff_mem, same]

end RecordRules
